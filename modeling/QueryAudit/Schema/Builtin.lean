import QueryAudit.Schema.Basic

/-! What every schema has: the scalars, the types that describe a schema, and the directives that
need no declaration. -/
namespace QueryAudit.Builtin

def scalarNames : List String := ["String", "Int", "Float", "Boolean", "ID"]

def scalar (name : String) : TypeDef := { name, kind := .scalar }

def isScalar (name : String) : Bool := name ∈ scalarNames

def field (name : String) (type : TypeRef) : FieldDef := ⟨name, type, none⟩

def named (name : String) : TypeRef := .named name

def required (name : String) : TypeRef := .nonNull (.named name)

/-- A list without empty entries. -/
def listOf (name : String) : TypeRef := .list (.nonNull (.named name))

def requiredList (name : String) : TypeRef := .nonNull (listOf name)

/-- The types by which a schema describes itself. -/
def introspectionTypes : List TypeDef := [
  { name := "__Schema", kind := .object, fields := [
      field "description" (named "String"), field "types" (requiredList "__Type"),
      field "queryType" (required "__Type"), field "mutationType" (named "__Type"),
      field "subscriptionType" (named "__Type"), field "directives" (requiredList "__Directive")] },
  { name := "__Directive", kind := .object, fields := [
      field "name" (required "String"), field "description" (named "String"),
      field "isRepeatable" (required "Boolean"),
      field "locations" (requiredList "__DirectiveLocation"),
      field "args" (requiredList "__InputValue")] },
  { name := "__DirectiveLocation", kind := .enum },
  { name := "__Type", kind := .object, fields := [
      field "kind" (required "__TypeKind"), field "name" (named "String"),
      field "description" (named "String"), field "specifiedByURL" (named "String"),
      field "fields" (listOf "__Field"), field "interfaces" (listOf "__Type"),
      field "possibleTypes" (listOf "__Type"), field "enumValues" (listOf "__EnumValue"),
      field "inputFields" (listOf "__InputValue"), field "ofType" (named "__Type")] },
  { name := "__Field", kind := .object, fields := [
      field "name" (required "String"), field "description" (named "String"),
      field "args" (requiredList "__InputValue"), field "type" (required "__Type"),
      field "isDeprecated" (required "Boolean"), field "deprecationReason" (named "String")] },
  { name := "__InputValue", kind := .object, fields := [
      field "name" (required "String"), field "description" (named "String"),
      field "type" (required "__Type"), field "defaultValue" (named "String"),
      field "isDeprecated" (required "Boolean"), field "deprecationReason" (named "String")] },
  { name := "__EnumValue", kind := .object, fields := [
      field "name" (required "String"), field "description" (named "String"),
      field "isDeprecated" (required "Boolean"), field "deprecationReason" (named "String")] },
  { name := "__TypeKind", kind := .enum }]

/-- The values of the type that names the kinds of types. -/
def typeKindNames : List String :=
  ["SCALAR", "OBJECT", "INTERFACE", "UNION", "ENUM", "INPUT_OBJECT", "LIST", "NON_NULL"]

def introspectionNames : List String := introspectionTypes.map (·.name)

/-- Names whose meaning a schema cannot change. -/
def typeNames : List String := scalarNames ++ introspectionNames

def isType (name : String) : Bool := name ∈ typeNames

def kind? (name : String) : Option TypeKind :=
  if isScalar name then some .scalar
  else (introspectionTypes.find? (·.name = name)).map (·.kind)

def directive (name argument : String) (type : TypeRef) (default : Option Value)
    (locations : List String) : DirectiveDeclaration :=
  { position := .start, name := ⟨name, .start⟩, arguments := [⟨argument, type, default, []⟩]
    repeatable := false, locations }

def directives : List DirectiveDeclaration := [
  directive "include" "if" (required "Boolean") none
    ["FIELD", "FRAGMENT_SPREAD", "INLINE_FRAGMENT"],
  directive "skip" "if" (required "Boolean") none ["FIELD", "FRAGMENT_SPREAD", "INLINE_FRAGMENT"],
  directive "deprecated" "reason" (named "String") (some (.string "No longer supported" false))
    ["FIELD_DEFINITION", "ARGUMENT_DEFINITION", "INPUT_FIELD_DEFINITION", "ENUM_VALUE"],
  directive "specifiedBy" "url" (required "String") none ["SCALAR"]]

end QueryAudit.Builtin
