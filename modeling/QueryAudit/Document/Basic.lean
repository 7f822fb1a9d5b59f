import QueryAudit.Source.Location

/-! Parsed GraphQL documents. A bracketed list of selections has at least one item, so an empty
body of a field says that the field has no sub-selection. What a selection holds besides its body
is kept apart as its head: walks look at names and bodies, and carry the rest along. -/
namespace QueryAudit

structure Name where
  text : String
  position : Position
deriving DecidableEq, Repr, Inhabited

inductive Value where
  | reference (name : String)
  | int (text : String)
  | float (text : String)
  | string (value : String) (block : Bool)
  | boolean (b : Bool)
  | null
  | enum (name : String)
  | list (items : List Value)
  | object (fields : List (String × Value))
deriving Repr, Inhabited

structure Argument where
  name : String
  value : Value
  /-- Where the value starts. -/
  position : Position
deriving Repr, Inhabited

structure Directive where
  position : Position
  name : String
  arguments : List Argument
deriving Repr, Inhabited

/-- The sites that a directive may be declared for. -/
def Directive.sites : List String := [
  "QUERY", "MUTATION", "SUBSCRIPTION", "FIELD", "FRAGMENT_DEFINITION", "FRAGMENT_SPREAD",
  "INLINE_FRAGMENT", "VARIABLE_DEFINITION", "SCHEMA", "SCALAR", "OBJECT", "FIELD_DEFINITION",
  "ARGUMENT_DEFINITION", "INTERFACE", "UNION", "ENUM", "ENUM_VALUE", "INPUT_OBJECT",
  "INPUT_FIELD_DEFINITION"]

/-- A reference to a type, with its list and non-null wrappers. -/
inductive TypeRef where
  | named (name : String)
  | list (item : TypeRef)
  | nonNull (inner : TypeRef)
deriving DecidableEq, Repr, Inhabited

namespace TypeRef

def text : TypeRef → String
  | named name => name
  | list item => "[" ++ item.text ++ "]"
  | nonNull inner => inner.text ++ "!"

/-- The name inside all wrappers. -/
def baseName : TypeRef → String
  | named name => name
  | list item => item.baseName
  | nonNull inner => inner.baseName

end TypeRef

structure FieldHead where
  aliasName : Option Name
  name : Name
  arguments : List Argument
  directives : List Directive
  /-- Where the sub-selection opens; of no meaning without one. -/
  bodyPosition : Position
deriving Repr, Inhabited

def FieldHead.position (head : FieldHead) : Position := (head.aliasName.getD head.name).position

structure SpreadHead where
  position : Position
  name : Name
  directives : List Directive
deriving Repr, Inhabited

structure InlineHead where
  position : Position
  typeCondition : Option Name
  directives : List Directive
  bodyPosition : Position
deriving Repr, Inhabited

inductive Selection where
  | field (head : FieldHead) (body : List Selection)
  | spread (head : SpreadHead)
  | inline (head : InlineHead) (body : List Selection)
deriving Repr, Inhabited

def Selection.position : Selection → Position
  | field head _ => head.position
  | spread head => head.position
  | inline head _ => head.position

inductive OperationKind where
  | query
  | mutation
  | subscription
deriving DecidableEq, Repr, Inhabited

def OperationKind.text : OperationKind → String
  | query => "query"
  | mutation => "mutation"
  | subscription => "subscription"

def OperationKind.all : List OperationKind := [query, mutation, subscription]

def OperationKind.ofText? (text : String) : Option OperationKind :=
  all.find? (·.text = text)

structure VariableDefinition where
  name : String
  type : TypeRef
  default : Option Value
  directives : List Directive
deriving Repr, Inhabited

structure Operation where
  position : Position
  kind : OperationKind
  name : Option Name
  variableDefinitions : List VariableDefinition
  directives : List Directive
  bodyPosition : Position
  body : List Selection
deriving Repr, Inhabited

structure Fragment where
  position : Position
  name : Name
  typeCondition : Name
  directives : List Directive
  bodyPosition : Position
  body : List Selection
deriving Repr, Inhabited

structure InputValue where
  name : String
  type : TypeRef
  default : Option Value
  directives : List Directive
deriving Repr, Inhabited

structure FieldDeclaration where
  name : Name
  arguments : List InputValue
  type : TypeRef
  directives : List Directive
deriving Repr, Inhabited

structure EnumValue where
  name : String
  directives : List Directive
deriving Repr, Inhabited

inductive TypeKind where
  | scalar
  | object
  | interface
  | union
  | enum
  | input
deriving DecidableEq, Repr, Inhabited

/-- What the declaration of a type says, by its kind. -/
inductive TypeBody where
  | scalar
  | object (interfaces : List String) (fields : List FieldDeclaration)
  | interface (interfaces : List String) (fields : List FieldDeclaration)
  | union (members : List String)
  | enum (values : List EnumValue)
  | input (fields : List InputValue)
deriving Repr, Inhabited

def TypeBody.kind : TypeBody → TypeKind
  | scalar => .scalar
  | object .. => .object
  | interface .. => .interface
  | union _ => .union
  | enum _ => .enum
  | input _ => .input

structure TypeDeclaration where
  position : Position
  name : Name
  directives : List Directive
  body : TypeBody
deriving Repr, Inhabited

structure SchemaDeclaration where
  position : Position
  directives : List Directive
  roots : List (OperationKind × String)
deriving Repr, Inhabited

structure DirectiveDeclaration where
  position : Position
  name : Name
  arguments : List InputValue
  repeatable : Bool
  locations : List String
deriving Repr, Inhabited

inductive Definition where
  | operation (operation : Operation)
  | fragment (fragment : Fragment)
  | schema (declaration : SchemaDeclaration)
  | schemaExtension (declaration : SchemaDeclaration)
  | type (declaration : TypeDeclaration)
  | typeExtension (declaration : TypeDeclaration)
  | directive (declaration : DirectiveDeclaration)
deriving Repr, Inhabited

/-- The definitions of one text, and where the text came from. -/
structure Document where
  origin : Origin
  definitions : List Definition
deriving Repr, Inhabited

def TypeKind.word : TypeKind → String
  | scalar => "scalar_type"
  | object => "object_type"
  | interface => "interface_type"
  | union => "union_type"
  | enum => "enum_type"
  | input => "input_object_type"

namespace Definition

/-- The word for the kind of a definition. -/
def kindText : Definition → String
  | operation _ => "operation_definition"
  | fragment _ => "fragment_definition"
  | schema _ => "schema_definition"
  | schemaExtension _ => "schema_extension"
  | type declaration => declaration.body.kind.word ++ "_definition"
  | typeExtension declaration => declaration.body.kind.word ++ "_extension"
  | directive _ => "directive_definition"

def position : Definition → Position
  | operation o => o.position
  | fragment f => f.position
  | schema d | schemaExtension d => d.position
  | type d | typeExtension d => d.position
  | directive d => d.position

def name? : Definition → Option Name
  | operation o => o.name
  | fragment f => some f.name
  | schema _ | schemaExtension _ => none
  | type d | typeExtension d => some d.name
  | directive d => some d.name

end Definition

end QueryAudit
