import QueryAudit.Schema.Builtin
import QueryAudit.Schema.Problem

/-! The rules that the definitions of a schema text keep. Each definition is checked on its own
and against the ones before it, from the outside in, and every problem is reported in the order
in which a reader meets it. -/
namespace QueryAudit

/-- Each item that is already among the known ones or occurs before in the list. -/
def repeats [DecidableEq α] (known : List α) : List α → List α
  | [] => []
  | a :: rest => if a ∈ known then a :: repeats known rest else repeats (a :: known) rest

/-- Each item that occurs more than once, in the order of the first occurrences. -/
def repeatedOnce [DecidableEq α] (items : List α) : List α :=
  items.eraseDups.filter fun a => 1 < items.count a

mutual

/-- Input fields named twice in an object. -/
def Value.problems : Value → List SchemaProblem
  | .list items => itemsProblems items
  | .object fields => objectProblems [] fields
  | _ => []

def itemsProblems : List Value → List SchemaProblem
  | [] => []
  | v :: rest => v.problems ++ itemsProblems rest

def objectProblems (known : List String) : List (String × Value) → List SchemaProblem
  | [] => []
  | (name, v) :: rest =>
    (if name ∈ known then [.repeatedInputField name] else []) ++ v.problems ++
      objectProblems (name :: known) rest

end

def Definition.type? : Definition → Option TypeDeclaration
  | type t => some t
  | _ => none

def Definition.directive? : Definition → Option DirectiveDeclaration
  | directive d => some d
  | _ => none

namespace SchemaCheck

/-- All definitions of a text, of which each may name any other. -/
structure Declared where
  types : List TypeDeclaration
  directives : List DirectiveDeclaration

def Declared.ofDefinitions (definitions : List Definition) : Declared :=
  ⟨definitions.filterMap (·.type?), definitions.filterMap (·.directive?)⟩

namespace Declared

def typeNames (declared : Declared) : List String := declared.types.map (·.name.text)

/-- A directive's declaration; the last one counts, and one in the text replaces a built-in. -/
def directive? (declared : Declared) (name : String) : Option DirectiveDeclaration :=
  (Builtin.directives ++ declared.directives).reverse.find? (·.name.text = name)

def isRepeatable (declared : Declared) (name : String) : Bool :=
  match declared.directive? name with
  | some d => d.repeatable
  | none => true

end Declared

/-- A name of a type. Definitions of a schema know the built-in types as well. -/
def typeName (declared : Declared) (inSchema : Bool) (name : String) : List SchemaProblem :=
  if name ∈ declared.typeNames || (inSchema && Builtin.isType name) then []
  else
    let builtin := if inSchema then Builtin.typeNames else []
    [.unknownType name (Text.suggestions name (builtin ++ declared.typeNames))]

def values (values : List (Option Value)) : List SchemaProblem :=
  values.flatMap fun
    | some v => v.problems
    | none => []

def requiredArguments (d : DirectiveDeclaration) : List InputValue :=
  let required := d.arguments.filter fun a =>
    match a.type, a.default with
    | .nonNull _, none => true
    | _, _ => false
  (required.map (·.name)).eraseDups.filterMap fun name =>
    required.reverse.find? (·.name = name)

/-- One directive as it is used on some site. -/
def directive (declared : Declared) (site : String) (d : Directive) : List SchemaProblem :=
  let given := d.arguments.map (·.name)
  let declaration := declared.directive? d.name
  let place := match declaration with
    | none => [.unknownDirective d.name]
    | some found => if site ∈ found.locations then [] else [.misplacedDirective d.name site]
  let unknown := match declaration with
    | none => []
    | some found =>
      let known := found.arguments.map (·.name)
      (given.filter (· ∉ known)).map fun name =>
        .unknownArgument name d.name (Text.suggestions name known)
  let missing := match declaration with
    | none => []
    | some found => ((requiredArguments found).filter (·.name ∉ given)).map fun a =>
        .missingArgument d.name a.name a.type
  place ++ unknown ++ (repeatedOnce given).map .repeatedArgument ++
    values (d.arguments.map (some ·.value)) ++ missing

def directives (declared : Declared) (site : String) (ds : List Directive) : List SchemaProblem :=
  ds.flatMap (directive declared site)

/-- Directives of one site that may stand there once; `known` are the ones used there before. -/
def repeatedDirectives (declared : Declared) (known ds : List Directive) : List SchemaProblem :=
  let single (ds : List Directive) := (ds.map (·.name)).filter (!declared.isRepeatable ·)
  (repeats (single known) (single ds)).map .repeatedDirective

def inputValue (declared : Declared) (site : String) (v : InputValue) : List SchemaProblem :=
  repeatedDirectives declared [] v.directives ++ typeName declared true v.type.baseName ++
    values [v.default] ++ directives declared site v.directives

def fieldDeclaration (declared : Declared) (f : FieldDeclaration) : List SchemaProblem :=
  repeatedDirectives declared [] f.directives ++
    f.arguments.flatMap (inputValue declared "ARGUMENT_DEFINITION") ++
    typeName declared true f.type.baseName ++ directives declared "FIELD_DEFINITION" f.directives

def enumValue (declared : Declared) (v : EnumValue) : List SchemaProblem :=
  repeatedDirectives declared [] v.directives ++ directives declared "ENUM_VALUE" v.directives

mutual

def selection (declared : Declared) : Selection → List SchemaProblem
  | .field head body =>
    repeatedDirectives declared [] head.directives ++
      (repeatedOnce (head.arguments.map (·.name))).map .repeatedArgument ++
      values (head.arguments.map (some ·.value)) ++ directives declared "FIELD" head.directives ++
      selections declared body
  | .spread head =>
    repeatedDirectives declared [] head.directives ++
      directives declared "FRAGMENT_SPREAD" head.directives
  | .inline head body =>
    repeatedDirectives declared [] head.directives ++
      (match head.typeCondition with
      | some condition => typeName declared false condition.text
      | none => []) ++
      directives declared "INLINE_FRAGMENT" head.directives ++ selections declared body

def selections (declared : Declared) : List Selection → List SchemaProblem
  | [] => []
  | s :: rest => selection declared s ++ selections declared rest

end

def variableDefinition (declared : Declared) (v : VariableDefinition) : List SchemaProblem :=
  repeatedDirectives declared [] v.directives ++ typeName declared false v.type.baseName ++
    values [v.default] ++ directives declared "VARIABLE_DEFINITION" v.directives

def operationSite : OperationKind → String
  | .query => "QUERY"
  | .mutation => "MUTATION"
  | .subscription => "SUBSCRIPTION"

def operation (declared : Declared) (o : Operation) : List SchemaProblem :=
  repeatedDirectives declared [] o.directives ++
    o.variableDefinitions.flatMap (variableDefinition declared) ++
    directives declared (operationSite o.kind) o.directives ++ selections declared o.body

def fragment (declared : Declared) (f : Fragment) : List SchemaProblem :=
  repeatedDirectives declared [] f.directives ++ typeName declared false f.typeCondition.text ++
    directives declared "FRAGMENT_DEFINITION" f.directives ++ selections declared f.body

/-- The schema definitions and extensions in a list. -/
def schemas (definitions : List Definition) : List SchemaDeclaration :=
  definitions.filterMap fun
    | .schema s | .schemaExtension s => some s
    | _ => none

def schemaDeclaration (declared : Declared) (earlier : List Definition) (s : SchemaDeclaration) :
    List SchemaProblem :=
  let before := schemas earlier
  (repeats (before.flatMap (·.roots.map (·.1))) (s.roots.map (·.1))).map .repeatedRoot ++
    repeatedDirectives declared (before.flatMap (·.directives)) s.directives ++
    directives declared "SCHEMA" s.directives ++ s.roots.flatMap fun r => typeName declared true r.2

def typeSite : TypeKind → String
  | .scalar => "SCALAR"
  | .object => "OBJECT"
  | .interface => "INTERFACE"
  | .union => "UNION"
  | .enum => "ENUM"
  | .input => "INPUT_OBJECT"

def enumValueNames (t : TypeDeclaration) : List String :=
  match t.body with
  | .enum values => values.map (·.name)
  | _ => []

/-- The names of the fields of a type, be it for selections or for input. -/
def fieldNames (t : TypeDeclaration) : List String :=
  match t.body with
  | .object _ fields | .interface _ fields => fields.map (·.name.text)
  | .input fields => fields.map (·.name)
  | _ => []

def outputFields (t : TypeDeclaration) : List FieldDeclaration :=
  match t.body with
  | .object _ fields | .interface _ fields => fields
  | _ => []

def argumentDefinitions (owner : String) (arguments : List InputValue) : List SchemaProblem :=
  (repeatedOnce (arguments.map (·.name))).map (.repeatedArgumentDefinition owner)

/-- The definitions and extensions of a type in a list. -/
def declarationsOf (name : String) (definitions : List Definition) : List TypeDeclaration :=
  definitions.filterMap fun
    | .type t | .typeExtension t => if t.name.text = name then some t else none
    | _ => none

/-- What an extension may extend: a defined type of its own kind. -/
def extension (declared : Declared) (t : TypeDeclaration) : List SchemaProblem :=
  let name := t.name.text
  match declared.types.reverse.find? (·.name.text = name) with
  | some defined =>
    if defined.body.kind = t.body.kind then [] else [.extendsOtherKind t.body.kind name]
  | none => [.extendsUndefined name (Text.suggestions name declared.typeNames)]

/-- The parts of a type. An input field in an extension counts as an argument. -/
def typeBody (declared : Declared) (isExtension : Bool) : TypeBody → List SchemaProblem
  | .scalar => []
  | .object _ fields | .interface _ fields => fields.flatMap (fieldDeclaration declared)
  | .union members => members.flatMap (typeName declared true)
  | .enum values => values.flatMap (enumValue declared)
  | .input fields =>
    let site := if isExtension then "ARGUMENT_DEFINITION" else "INPUT_FIELD_DEFINITION"
    fields.flatMap (inputValue declared site)

def interfaces : TypeBody → List String
  | .object interfaces _ | .interface interfaces _ => interfaces
  | _ => []

def typeDeclaration (declared : Declared) (earlier : List Definition) (isExtension : Bool)
    (t : TypeDeclaration) : List SchemaProblem :=
  let name := t.name.text
  let before := declarationsOf name earlier
  (repeats (before.flatMap enumValueNames) (enumValueNames t)).map (.repeatedEnumValue name) ++
    (repeats (before.flatMap fieldNames) (fieldNames t)).map (.repeatedField name) ++
    (outputFields t).flatMap
      (fun f => argumentDefinitions (name ++ "." ++ f.name.text) f.arguments) ++
    repeatedDirectives declared (before.flatMap (·.directives)) t.directives ++
    (if isExtension then extension declared t else []) ++
    (interfaces t.body).flatMap (typeName declared true) ++
    directives declared (typeSite t.body.kind) t.directives ++ typeBody declared isExtension t.body

def isSchema : Definition → Bool
  | .schema _ => true
  | _ => false

/-- One definition, given the ones before it. -/
def definition (declared : Declared) (earlier : List Definition) : Definition → List SchemaProblem
  | .operation o => operation declared o
  | .fragment f => fragment declared f
  | .schema s =>
    (if earlier.any isSchema then [.secondSchema] else []) ++ schemaDeclaration declared earlier s
  | .schemaExtension s => schemaDeclaration declared earlier s
  | .type t =>
    let taken := earlier.any fun d => d.type?.any (·.name.text = t.name.text)
    (if taken then [.repeatedType t.name.text] else []) ++ typeDeclaration declared earlier false t
  | .typeExtension t => typeDeclaration declared earlier true t
  | .directive d =>
    let taken := earlier.any fun e => e.directive?.any (·.name.text = d.name.text)
    argumentDefinitions ("@" ++ d.name.text) d.arguments ++
      (if taken then [.repeatedDirectiveDefinition d.name.text] else []) ++
      d.arguments.flatMap (inputValue declared "ARGUMENT_DEFINITION")

def definitionsFrom (declared : Declared) (earlier : List Definition) :
    List Definition → List SchemaProblem
  | [] => []
  | d :: rest => definition declared earlier d ++ definitionsFrom declared (earlier ++ [d]) rest

/-- All problems of the definitions of a text, in the order they are met. -/
def problems (definitions : List Definition) : List SchemaProblem :=
  definitionsFrom (.ofDefinitions definitions) [] definitions

end SchemaCheck

end QueryAudit
