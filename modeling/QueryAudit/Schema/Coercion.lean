import QueryAudit.Schema.Builtin
import QueryAudit.Text.Integer

/-! Which values a type takes as input. A value either fits its type or is left out; only a type
that takes no input at all is an error. The fields of an input type are put together when a value
first asks for them, and that may fail. -/
namespace QueryAudit

/-- The value of a field of an object; the last one of a name counts. -/
def Value.field? (name : String) : List (String × Value) → Option Value
  | [] => none
  | (n, v) :: rest =>
    match field? name rest with
    | some later => some later
    | none => if n = name then some v else none

theorem Value.sizeOf_field? {name : String} {fields : List (String × Value)} {value : Value}
    (found : Value.field? name fields = some value) : sizeOf value < sizeOf fields := by
  induction fields with
  | nil => simp [Value.field?] at found
  | cons field rest ih =>
    obtain ⟨n, v⟩ := field
    simp only [Value.field?] at found
    split at found
    · next later => cases found; have := ih later; simp; omega
    · split at found
      · cases found; simp; omega
      · cases found

/-- A value that is not given: a variable that stands for nothing. -/
def Value.isReference : Value → Bool
  | reference _ => true
  | _ => false

/-- A field of an input type. -/
structure InputSlot where
  name : String
  type : TypeRef
  hasDefault : Bool
deriving DecidableEq, Repr, Inhabited

def InputSlot.isRequired (slot : InputSlot) : Bool :=
  match slot.type with
  | .nonNull _ => !slot.hasDefault
  | _ => false

/-- What a named type takes as input. -/
inductive InputShape (ε : Type) where
  | leaf (accepts : Value → Bool)
  | object (slots : Unit → Except ε (List InputSlot))
  | nothing

namespace InputShape

def enum (names : List String) : InputShape ε :=
  .leaf fun
    | .enum name => name ∈ names
    | _ => false

/-- A scalar of which nothing more is known takes everything. -/
def custom : InputShape ε := .leaf fun _ => true

def isSmallInt (text : String) : Bool :=
  (Text.readInteger? text).any fun n => -2147483648 ≤ n && n ≤ 2147483647

def scalar (name : String) : InputShape ε :=
  match name with
  | "Int" => .leaf fun
    | .int text => isSmallInt text
    | _ => false
  | "Float" => .leaf fun
    | .int _ | .float _ => true
    | _ => false
  | "String" => .leaf fun
    | .string .. => true
    | _ => false
  | "Boolean" => .leaf fun
    | .boolean _ => true
    | _ => false
  | "ID" => .leaf fun
    | .string .. | .int _ => true
    | _ => false
  | _ => custom

/-- The shape of a built-in type. -/
def builtin? (name : String) : Option (InputShape ε) :=
  if Builtin.isScalar name then some (scalar name)
  else if name = "__TypeKind" then some (.enum Builtin.typeKindNames)
  else if name = "__DirectiveLocation" then some (.enum Directive.sites)
  else if Builtin.isType name then some .nothing
  else none

end InputShape

namespace Coercion

mutual

/-- Whether a value fits a type; `refuse` is the error of a type that takes no input. -/
def fits (shape : String → InputShape ε) (refuse : String → ε) (type : TypeRef) (value : Value) :
    Except ε Bool :=
  match value, type with
  | .reference _, _ => .ok false
  | .null, .nonNull _ => .ok false
  | .null, _ => .ok true
  | value, .nonNull inner => fits shape refuse inner value
  | .list items, .list item => allFit shape refuse item items
  | value, .list item => fits shape refuse item value
  | value, .named name =>
    match shape name with
    | .leaf accepts => .ok (accepts value)
    | .nothing => .error (refuse name)
    | .object slots =>
      match value with
      | .object fields => do slotsFit shape refuse fields (← slots ())
      | _ => .ok false
termination_by (sizeOf value, sizeOf type)

/-- Items up to the first that does not fit. A missing one counts as empty. -/
def allFit (shape : String → InputShape ε) (refuse : String → ε) (type : TypeRef)
    (values : List Value) : Except ε Bool :=
  match values with
  | [] => .ok true
  | v :: rest => do
    let first ← if v.isReference then pure (type matches .named _ | .list _)
      else fits shape refuse type v
    if first then allFit shape refuse type rest else return false
termination_by (sizeOf values, 0)

/-- The fields of an object, in the order of the type that it is for. -/
def slotsFit (shape : String → InputShape ε) (refuse : String → ε)
    (fields : List (String × Value)) (slots : List InputSlot) : Except ε Bool :=
  match slots with
  | [] => .ok true
  | slot :: rest => do
    let first ← match _found : Value.field? slot.name fields with
      | none => pure !slot.isRequired
      | some v =>
        if v.isReference then pure !slot.isRequired else fits shape refuse slot.type v
    if first then slotsFit shape refuse fields rest else return false
termination_by (sizeOf fields, sizeOf slots)
decreasing_by
  · simp_wf
    omega
  · exact Prod.Lex.left _ _ (Value.sizeOf_field? _found)

end

end Coercion

end QueryAudit
