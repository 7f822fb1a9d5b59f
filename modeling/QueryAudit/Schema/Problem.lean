import QueryAudit.Document.Basic
import QueryAudit.Text.Suggestion

/-! What the definitions of a schema can do wrong, and the words for it. -/
namespace QueryAudit

inductive SchemaProblem where
  | secondSchema
  | repeatedRoot (kind : OperationKind)
  | repeatedType (name : String)
  | repeatedEnumValue (type value : String)
  | repeatedField (type field : String)
  | repeatedArgumentDefinition (owner argument : String)
  | repeatedDirectiveDefinition (name : String)
  | unknownType (name : String) (suggestions : List String)
  | unknownDirective (name : String)
  | misplacedDirective (name site : String)
  | repeatedDirective (name : String)
  | extendsOtherKind (kind : TypeKind) (name : String)
  | extendsUndefined (name : String) (suggestions : List String)
  | unknownArgument (argument directive : String) (suggestions : List String)
  | repeatedArgument (name : String)
  | repeatedInputField (name : String)
  | missingArgument (directive argument : String) (type : TypeRef)
deriving DecidableEq, Repr

/-- A kind of type in running words. -/
def TypeKind.words : TypeKind → String
  | scalar => "scalar"
  | object => "object"
  | interface => "interface"
  | union => "union"
  | enum => "enum"
  | input => "input object"

/-- The place of a directive in running words. -/
def siteWords (site : String) : String :=
  site.map fun c => if c = '_' then ' ' else c.toLower

namespace SchemaProblem

def message : SchemaProblem → String
  | secondSchema => "Must provide only one schema definition."
  | repeatedRoot kind => s!"There can be only one {kind.text} type in schema."
  | repeatedType name => s!"There can be only one type named '{name}'."
  | repeatedEnumValue type value => s!"Enum value '{type}.{value}' can only be defined once."
  | repeatedField type field => s!"Field '{type}.{field}' can only be defined once."
  | repeatedArgumentDefinition owner argument =>
    s!"Argument '{owner}({argument}:)' can only be defined once."
  | repeatedDirectiveDefinition name => s!"There can be only one directive named '@{name}'."
  | unknownType name suggestions => s!"Unknown type '{name}'." ++ Text.didYouMean suggestions
  | unknownDirective name => s!"Unknown directive '@{name}'."
  | misplacedDirective name site =>
    s!"Directive '@{name}' may not be used on {siteWords site}."
  | repeatedDirective name => s!"The directive '@{name}' can only be used once at this location."
  | extendsOtherKind kind name => s!"Cannot extend non-{kind.words} type '{name}'."
  | extendsUndefined name suggestions =>
    s!"Cannot extend type '{name}' because it is not defined." ++ Text.didYouMean suggestions
  | unknownArgument argument directive suggestions =>
    s!"Unknown argument '{argument}' on directive '@{directive}'." ++ Text.didYouMean suggestions
  | repeatedArgument name => s!"There can be only one argument named '{name}'."
  | repeatedInputField name => s!"There can be only one input field named '{name}'."
  | missingArgument directive argument type =>
    s!"Directive '@{directive}' argument '{argument}' of type '{type.text}' is required, " ++
      "but it was not provided."

end SchemaProblem

end QueryAudit
