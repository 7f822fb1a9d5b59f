import QueryAudit.Schema.Basic

/-! The types around a selection, as a stack of frames with the innermost last. -/
namespace QueryAudit

/-- The type that selections are made on, and the field that led there. -/
structure TypeFrame where
  parent : Option TypeDef := none
  field : Option FieldDef := none
deriving DecidableEq, Repr, Inhabited

structure TypeContext where
  frames : List TypeFrame := []
deriving DecidableEq, Repr, Inhabited

namespace TypeContext

def push (context : TypeContext) (parent : Option TypeDef) (field : Option FieldDef := none) :
    TypeContext :=
  ⟨context.frames ++ [⟨parent, field⟩]⟩

/-- There is no frame to take away. -/
inductive PopError where
  | empty
deriving DecidableEq, Repr

def PopError.message : PopError → String
  | empty => "pop from empty type context"

def pop (context : TypeContext) : Except PopError TypeContext :=
  if context.frames.isEmpty then .error .empty else .ok ⟨context.frames.dropLast⟩

def parent? (context : TypeContext) : Option TypeDef := context.frames.getLast?.bind (·.parent)

def field? (context : TypeContext) : Option FieldDef := context.frames.getLast?.bind (·.field)

def depth (context : TypeContext) : Nat := context.frames.length

def isEmpty (context : TypeContext) : Bool := context.frames.isEmpty

@[simp] theorem parent?_push (context : TypeContext) (parent : Option TypeDef)
    (field : Option FieldDef) : (context.push parent field).parent? = parent := by
  simp [push, parent?]

@[simp] theorem field?_push (context : TypeContext) (parent : Option TypeDef)
    (field : Option FieldDef) : (context.push parent field).field? = field := by
  simp [push, field?]

@[simp] theorem pop_push (context : TypeContext) (parent : Option TypeDef)
    (field : Option FieldDef) : (context.push parent field).pop = .ok context := by
  simp [push, pop]

end TypeContext

end QueryAudit
