import QueryAudit.Document.Body
import QueryAudit.Document.Error
import QueryAudit.Document.Literal
import QueryAudit.Files.Error
import QueryAudit.Json.Abridged
import QueryAudit.Json.Reader
import QueryAudit.Schema.Problem

/-! Why there is no schema. -/
namespace QueryAudit

/-- Why a part of a schema cannot be put together. -/
inductive BuildCause where
  | argumentType
  | fieldType
  | inputFieldType
  /-- A default value for something that takes no input. -/
  | defaultValue (type : String)
  | missingArgument (argument : String) (type : TypeRef) (position : Position)
  | nullArgument (argument : String) (type : TypeRef) (position : Position)
  | badArgument (argument : String) (value : Value) (position : Position)
  /-- The line to be shown with another cause is not there. -/
  | lostLine
deriving Repr

namespace BuildCause

def message : BuildCause → String
  | argumentType => "Argument type must be a GraphQL input type."
  | fieldType => "Field type must be an output type."
  | inputFieldType => "Input field type must be a GraphQL input type."
  | defaultValue type => s!"Unexpected input type: {type}."
  | missingArgument argument type _ =>
    s!"Argument '{argument}' of required type '{type.text}' was not provided."
  | nullArgument argument type _ =>
    s!"Argument '{argument}' of non-null type '{type.text}' must not be null."
  | badArgument argument value _ => s!"Argument '{argument}' has invalid value {value.text}."
  | lostLine => "list index out of range"

/-- The place that is shown below the message. -/
def position? : BuildCause → Option Position
  | missingArgument _ _ position | nullArgument _ _ position | badArgument _ _ position =>
    some position
  | _ => none

end BuildCause

inductive BuildError where
  /-- The types whose fields were being put together, from the outside in. -/
  | unresolved (owners : List String) (cause : BuildCause)
  | interfaces (type : String)
  | members (type : String)
deriving Repr

namespace BuildError

def message : BuildError → String
  | unresolved owners cause =>
    String.join (owners.map fun owner => s!"{owner} fields cannot be resolved. ") ++ cause.message
  | interfaces type =>
    s!"{type} interfaces must be specified as a collection of GraphQLInterfaceType instances."
  | members type =>
    s!"{type} types must be specified as a collection of GraphQLObjectType instances."

/-- The same error met while the fields of a type are put together. -/
def within (owner : String) : BuildError → BuildError
  | unresolved owners cause => unresolved (owner :: owners) cause
  | other => other

def position? : BuildError → Option Position
  | unresolved _ cause => cause.position?
  | _ => none

/-- What is left of an error whose line cannot be shown: the innermost type fails to tell it, and
the one around that tells the failure. -/
def unshown? : BuildError → Option BuildError
  | unresolved owners _ =>
    if owners.length ≤ 1 then none else some (unresolved owners.dropLast .lostLine)
  | other => some other

end BuildError

/-- What is wrong with a value that should describe a schema. -/
inductive IntrospectionFault where
  | noSchema (value : Json)
  | incompleteType (value : Json)
  | missing (part : String) (value : Json)
  | missingFields (value : Json)
  | unknownReference (value : Json)
  | unknownType (name : Json)
  | cutReference
  | wrongKind (type : TypeRef) (wanted : String)
  | notOutput (type : TypeRef)
  | notInput (place : String) (type : TypeRef)
  | noName
  | nameNotText
  | emptyName
  | nameCharacter (name : String)
  | nameStart (name : String)
  | reservedValue (name : String)
  | notText (part : String)
  | badUrl (type : String) (value : Json)
  | badSites (directive : String)
  | badFlag (directive : String)
  /-- Fields or arguments of which one has no text for a name. -/
  | unnamedFields (type : String)
  | unnamedArguments (owner : String)
  /-- A value is looked into by key that has none. -/
  | notKeyed (value : Json)
  /-- A value is gone through that holds nothing. -/
  | notListable (value : Json)
  /-- A value is looked for by something that is no key. -/
  | notKey (value : Json)
  | badDefault (error : SyntaxError) (excerpt : String)
  /-- A default value that is given by something else than a text. -/
  | badBody (fault : BodyFault)
  | within (type part reason : String)
deriving Repr

def IntrospectionFault.message : IntrospectionFault → String
  | noSchema value => "Invalid or incomplete introspection result. Ensure that you are passing " ++
    "the 'data' attribute of an introspection response and no 'errors' were returned alongside: "
      ++ value.abridged ++ "."
  | incompleteType value => "Invalid or incomplete introspection result. Ensure that a full " ++
    "introspection query is used in order to build a client schema: " ++ value.abridged ++ "."
  | missing part value => s!"Introspection result missing {part}: {value.abridged}."
  | missingFields value => s!"Introspection result missing fields: {value.quoted}."
  | unknownReference value => s!"Unknown type reference: {value.abridged}."
  | unknownType name => s!"Invalid or incomplete schema, unknown type: {name.display}. Ensure " ++
    "that a full introspection query is used in order to build a client schema."
  | cutReference => "Decorated type deeper than introspection query."
  | wrongKind type wanted => s!"Expected {type.text} to be a GraphQL {wanted} type."
  | notOutput type =>
    s!"Introspection must provide output type for fields, but received: {type.text}."
  | notInput place type =>
    s!"Introspection must provide input type for {place}, but received: {type.text}."
  | noName => "Must provide name."
  | nameNotText => "Expected name to be a string."
  | emptyName => "Expected name to be a non-empty string."
  | nameCharacter name =>
    s!"Names must only contain [_a-zA-Z0-9] but {Text.quoted name} does not."
  | nameStart name => s!"Names must start with [_a-zA-Z] but {Text.quoted name} does not."
  | reservedValue name => s!"Enum values cannot be named: {name}."
  | notText part => s!"{part} must be a string."
  | badUrl type value =>
    s!"{type} must provide 'specified_by_url' as a string, but got: {value.abridged}."
  | badSites directive => s!"{directive} locations must be specified as a collection of " ++
    "DirectiveLocation enum values."
  | badFlag directive => s!"{directive} is_repeatable flag must be True or False."
  | unnamedFields type =>
    s!"{type} fields must be specified as a mapping with field names as keys."
  | unnamedArguments owner => s!"{owner} args must be a dict with argument names as keys."
  | notKeyed value =>
    match value with
    | .str _ => "string indices must be integers, not 'str'"
    | .arr _ => "list indices must be integers or slices, not str"
    | _ => s!"'{value.kindName}' object is not subscriptable"
  | notListable value => s!"'{value.kindName}' object is not iterable"
  | notKey value => s!"unhashable type: '{value.kindName}'"
  | badDefault error excerpt => s!"{error.message}\n\n{excerpt}"
  | badBody fault => fault.message
  | within type part reason => s!"{type} {part} cannot be resolved. {reason}"

/-- A schema error that is reported in words. -/
inductive SchemaError where
  | unparsable (name : String) (error : SyntaxError) (excerpt : String)
  | problems (name : String) (problems : List SchemaProblem)
  | unbuildable (name : String) (error : BuildError) (excerpt : Option String)
  | introspection (name : String) (fault : IntrospectionFault)
  | badBody (name : String) (fault : BodyFault)
  | notFound (path : String)
  | noFiles (path : String)
  | invalidJson (path : String) (error : Json.ReadError)
deriving Repr

def SchemaError.message : SchemaError → String
  | unparsable name error excerpt =>
    s!"Cannot build schema from {name}: {error.message}\n\n{excerpt}"
  | problems name found =>
    s!"Cannot build schema from {name}: " ++ "\n\n".intercalate (found.map (·.message))
  | unbuildable name error excerpt =>
    s!"Cannot build schema from {name}: {error.message}" ++
      (match excerpt with
      | some shown => "\n\n" ++ shown
      | none => "")
  | introspection name fault =>
    s!"Cannot build schema from introspection {name}: {fault.message}"
  | badBody name fault => s!"Cannot build schema from {name}: {fault.message}"
  | notFound path => s!"Schema not found: {path}"
  | noFiles path => s!"No schema files found in {path}"
  | invalidJson path error => s!"Invalid introspection JSON in {path}: {error.message}"

/-- A schema that cannot be had: a reported error, or input of a shape that nobody foresaw, which
stops whoever asked for the schema. -/
inductive SchemaFailure where
  | reported (error : SchemaError)
  /-- The text ends inside an escape sequence. -/
  | cutEscape
  /-- The line of a syntax error cannot be shown. -/
  | noExcerpt
  /-- A value is searched that holds nothing. -/
  | notContainer
  /-- A value is looked into by key that is no object. -/
  | notObject
  | missingKey (key : String)
  | undecodable
  /-- A directory stands where a schema file should. -/
  | directory
  /-- The file cannot be asked for. -/
  | file (error : FileError)
  /-- A number in the file has too many digits. -/
  | longNumber
deriving Repr

/-- A value that is no text is reported, unless nobody foresaw how it fails. -/
def SchemaFailure.ofBody (report : BodyFault → SchemaError) : BodyFault → SchemaFailure
  | .noFirst => .missingKey "0"
  | .noLines => .notObject
  | fault => .reported (report fault)

end QueryAudit
