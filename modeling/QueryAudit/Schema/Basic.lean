import QueryAudit.Document.Basic

/-! Schemas: named types, the fields they declare, and the types that operations start from. -/
namespace QueryAudit

namespace TypeKind

/-- The kinds that have selections. -/
def isComposite : TypeKind → Bool
  | object | interface | union => true
  | scalar | enum | input => false

/-- The kinds that declare fields for selections. -/
def hasFields : TypeKind → Bool
  | object | interface => true
  | _ => false

def isInput : TypeKind → Bool
  | scalar | enum | input => true
  | _ => false

def isOutput : TypeKind → Bool
  | input => false
  | _ => true

end TypeKind

structure FieldDef where
  name : String
  type : TypeRef
  /-- Where its name stands, if the schema was read from a text. -/
  location : Option Location
deriving DecidableEq, Repr, Inhabited

structure TypeDef where
  name : String
  kind : TypeKind
  /-- The fields of an object, an interface or an input type. -/
  fields : List FieldDef := []
  /-- Where its definition stands, if the schema was read from a text. -/
  location : Option Location := none
deriving DecidableEq, Repr, Inhabited

/-- A field that a type declares. Only objects and interfaces declare any. -/
def TypeDef.field? (t : TypeDef) (name : String) : Option FieldDef :=
  if t.kind.hasFields then t.fields.find? (·.name = name) else none

/-- The names of the types at which operations of each kind start. -/
structure Roots where
  query : Option String := none
  mutation : Option String := none
  subscription : Option String := none
deriving DecidableEq, Repr, Inhabited

namespace Roots

def get? (roots : Roots) : OperationKind → Option String
  | .query => roots.query
  | .mutation => roots.mutation
  | .subscription => roots.subscription

def set (roots : Roots) (kind : OperationKind) (name : String) : Roots :=
  match kind with
  | .query => { roots with query := some name }
  | .mutation => { roots with mutation := some name }
  | .subscription => { roots with subscription := some name }

def names (roots : Roots) : List String := OperationKind.all.filterMap roots.get?

end Roots

structure Schema where
  types : List TypeDef
  roots : Roots
deriving DecidableEq, Repr, Inhabited

namespace Schema

def type? (schema : Schema) (name : String) : Option TypeDef := schema.types.find? (·.name = name)

def composite? (schema : Schema) (name : String) : Option TypeDef :=
  (schema.type? name).filter (·.kind.isComposite)

def root? (schema : Schema) (kind : OperationKind) : Option TypeDef :=
  (schema.roots.get? kind).bind schema.type?

end Schema

end QueryAudit
