import QueryAudit.Document.Excerpt
import QueryAudit.Document.Parser
import QueryAudit.Event
import QueryAudit.Schema.Check
import QueryAudit.Schema.Coercion
import QueryAudit.Schema.Error

/-! Schemas from their definitions. Once the definitions keep all rules, every name in them is
known; what is left to check is that types of the right kind stand in each place. A definition
that is named like a built-in type does not replace it. -/
namespace QueryAudit

namespace SchemaBuild

/-- The definitions of a schema text by what they define. -/
structure Parts where
  types : List TypeDeclaration
  extensions : List TypeDeclaration
  directives : List DirectiveDeclaration
  schemas : List SchemaDeclaration
  schemaExtensions : List SchemaDeclaration

def Parts.ofDefinitions (definitions : List Definition) : Parts where
  types := definitions.filterMap (·.type?)
  extensions := definitions.filterMap fun
    | .typeExtension t => some t
    | _ => none
  directives := definitions.filterMap (·.directive?)
  schemas := definitions.filterMap fun
    | .schema s => some s
    | _ => none
  schemaExtensions := definitions.filterMap fun
    | .schemaExtension s => some s
    | _ => none

namespace Parts

/-- The types that a text adds to the built-in ones. -/
def ownTypes (parts : Parts) : List TypeDeclaration :=
  parts.types.filter (!Builtin.isType ·.name.text)

def kind? (parts : Parts) (name : String) : Option TypeKind :=
  match Builtin.kind? name with
  | some kind => some kind
  | none => (parts.types.find? (·.name.text = name)).map (·.body.kind)

/-- Whether a name stands for a type whose kind meets a condition. -/
def isKind (parts : Parts) (holds : TypeKind → Bool) (name : String) : Bool :=
  (parts.kind? name).any holds

/-- The definition of a type, then its extensions. -/
def bodies (parts : Parts) (t : TypeDeclaration) : List TypeBody :=
  t.body :: (parts.extensions.filter (·.name.text = t.name.text)).map (·.body)

end Parts

def outputFields : TypeBody → List FieldDeclaration
  | .object _ fields | .interface _ fields => fields
  | _ => []

def inputFields : TypeBody → List InputValue
  | .input fields => fields
  | _ => []

def members : TypeBody → List String
  | .union members => members
  | _ => []

abbrev Build := Except BuildError

def fail (cause : BuildCause) : Build α := .error (.unresolved [] cause)

/-- Work on the fields of a type. -/
def resolving (owner : String) (work : Build α) : Build α := work.mapError (.within owner)

def builtinShape (name : String) : InputShape BuildError :=
  (InputShape.builtin? name).getD .nothing

def refuse (type : String) : BuildError := .unresolved [] (.defaultValue type)

/-- An argument of a built-in directive, as it is given or left out. -/
def checkArgument (d : Directive) (declared : InputValue) : Build Unit := do
  match d.arguments.find? (·.name = declared.name), declared.type with
  | none, .nonNull _ =>
    if declared.default.isNone then
      fail (.missingArgument declared.name declared.type d.position)
  | none, _ => return ()
  | some given, type =>
    if given.value matches .null && type matches .nonNull _ then
      fail (.nullArgument declared.name type given.position)
    if !(← Coercion.fits builtinShape refuse type given.value) then
      fail (.badArgument declared.name given.value given.position)

/-- The first use of a built-in directive. A declaration in the text does not change what it
asks for. -/
def checkBuiltin (name : String) (applied : List Directive) : Build Unit :=
  match Builtin.directives.find? (·.name.text = name), applied.find? (·.name = name) with
  | some declared, some d => declared.arguments.forM (checkArgument d)
  | _, _ => return ()

def checkDeprecated (applied : List Directive) : Build Unit := checkBuiltin "deprecated" applied

/-- Something that takes input: its default value, its directives, then its type. -/
def inputSlot (parts : Parts) (shape : String → InputShape BuildError) (misuse : BuildCause)
    (v : InputValue) : Build InputSlot := do
  let hasDefault ← match v.default with
    | some value => Coercion.fits shape refuse v.type value
    | none => pure false
  checkDeprecated v.directives
  if !parts.isKind TypeKind.isInput v.type.baseName then fail misuse
  return ⟨v.name, v.type, hasDefault⟩

mutual

/-- What a type takes as input. Default values may ask for the fields of further types, which is
followed `fuel` deep. -/
def shape (parts : Parts) (fuel : Nat) (name : String) : InputShape BuildError :=
  match InputShape.builtin? name, parts.types.find? (·.name.text = name) with
  | some found, _ => found
  | none, none => .nothing
  | none, some t =>
    match t.body with
    | .scalar => .custom
    | .enum _ => .enum ((parts.bodies t).flatMap fun
        | .enum values => values.map (·.name)
        | _ => [])
    | .input _ => .object fun _ => slots parts fuel t
    | .object .. | .interface .. | .union _ => .nothing
termination_by (fuel, 1)

/-- The fields of an input type. A type that needs its own fields for them has none yet. -/
def slots (parts : Parts) (fuel : Nat) (t : TypeDeclaration) : Build (List InputSlot) :=
  match fuel with
  | 0 => .ok []
  | fuel + 1 => resolving t.name.text
      (((parts.bodies t).flatMap inputFields).mapM
        (inputSlot parts (shape parts fuel) .inputFieldType))
termination_by (fuel, 0)

end

/-- Default values lead through each type once. -/
def Parts.depth (parts : Parts) : Nat := parts.types.length + 1

def Parts.shape (parts : Parts) : String → InputShape BuildError :=
  SchemaBuild.shape parts parts.depth

def checkArguments (parts : Parts) (arguments : List InputValue) : Build Unit :=
  arguments.forM fun a => do let _ ← inputSlot parts parts.shape .argumentType a

/-- Arguments and directives are looked at before the type of their field. -/
def checkField (parts : Parts) (f : FieldDeclaration) : Build Unit := do
  checkArguments parts f.arguments
  checkDeprecated f.directives
  if !parts.isKind TypeKind.isOutput f.type.baseName then fail .fieldType

/-- What is said of a type where it is defined. -/
def checkDefinition (parts : Parts) (t : TypeDeclaration) : Build Unit :=
  match t.body with
  | .scalar => checkBuiltin "specifiedBy" t.directives
  | .enum _ => (parts.bodies t).forM fun
    | .enum values => values.forM fun v => checkDeprecated v.directives
    | _ => return ()
  | _ => return ()

/-- The parts of a type. -/
def checkParts (parts : Parts) (t : TypeDeclaration) : Build Unit := do
  let bodies := parts.bodies t
  let name := t.name.text
  if (bodies.flatMap SchemaCheck.interfaces).any (!parts.isKind (· == .interface) ·) then
    throw (.interfaces name)
  if (bodies.flatMap members).any (!parts.isKind (· == .object) ·) then throw (.members name)
  resolving name ((bodies.flatMap outputFields).forM (checkField parts))
  let _ ← slots parts parts.depth t

/-- Definitions come first, then the arguments of directives, then the parts of types. -/
def check (parts : Parts) : Build Unit := do
  parts.ownTypes.forM (checkDefinition parts)
  checkArguments parts (parts.directives.flatMap (·.arguments))
  parts.ownTypes.forM (checkParts parts)

/-- The names that operation types start from without a schema definition. -/
def defaultRootName : OperationKind → String
  | .query => "Query"
  | .mutation => "Mutation"
  | .subscription => "Subscription"

/-- Declared roots; without a schema definition, types of the default names take their place. -/
def roots (parts : Parts) : Roots :=
  let declared := ((parts.schemas ++ parts.schemaExtensions).flatMap (·.roots)).foldl
    (fun roots (kind, name) => roots.set kind name) {}
  if parts.schemas.isEmpty then
    OperationKind.all.foldl (fun roots kind =>
      let name := defaultRootName kind
      if parts.types.any (·.name.text = name) then roots.set kind name else roots) declared
  else declared

/-- All names of types that the definitions use or define. -/
def usedNames (parts : Parts) : List String :=
  let inputs (values : List InputValue) := values.map (·.type.baseName)
  let bodies := parts.ownTypes.flatMap parts.bodies
  parts.types.map (·.name.text) ++ (roots parts).names ++
    (bodies.flatMap outputFields).flatMap (fun f => f.type.baseName :: inputs f.arguments) ++
    inputs (bodies.flatMap inputFields) ++ inputs (parts.directives.flatMap (·.arguments))

/-- The built-in types that a schema has: those about itself, the scalars they use, and the other
scalars that are named in it. -/
def builtinTypes (named : List String) : List TypeDef :=
  Builtin.introspectionTypes ++
    (Builtin.scalarNames.filter (· ∈ "String" :: "Boolean" :: named)).map Builtin.scalar

def typeDef (parts : Parts) (origin : Origin) (t : TypeDeclaration) : TypeDef where
  name := t.name.text
  kind := t.body.kind
  fields := (parts.bodies t).flatMap fun body =>
    (outputFields body).map (fun f => ⟨f.name.text, f.type, origin.locate "" f.name.position⟩) ++
      (inputFields body).map fun v => ⟨v.name, v.type, none⟩
  location := origin.locate "" t.position

def schema (parts : Parts) (origin : Origin) : Schema where
  types := parts.ownTypes.map (typeDef parts origin) ++ builtinTypes (usedNames parts)
  roots := roots parts

/-- An error in a text of the given name, with the line that it stands in. -/
def buildFailure (name text : String) (error : BuildError) : SchemaFailure :=
  match error.position? with
  | none => .reported (.unbuildable name error none)
  | some position =>
    match Excerpt.print? name text position.offset with
    | some shown => .reported (.unbuildable name error (some shown))
    | none =>
      match error.unshown? with
      | some other => .reported (.unbuildable name other none)
      | none => .noExcerpt

end SchemaBuild

open SchemaBuild in
/-- The schema that a document defines. -/
def Schema.ofDocument (name text : String) (document : Document) :
    Except SchemaFailure Schema :=
  match SchemaCheck.problems document.definitions with
  | [] =>
    let parts := Parts.ofDefinitions document.definitions
    match check parts with
    | .ok () => .ok (schema parts document.origin)
    | .error error => .error (buildFailure name text error)
  | problems => .error (.reported (.problems name problems))

/-- The schema that a text of the given name defines. -/
def Schema.ofText (name : Label) (text : String) : Except SchemaFailure Schema :=
  match parseDocument text (.ofName name) with
  | .ok document => Schema.ofDocument name.shown text document
  | .error .cutEscape => .error .cutEscape
  | .error (.grammar error) =>
    match Excerpt.print? name.shown text error.offset with
    | some excerpt => .error (.reported (.unparsable name.shown error excerpt))
    | none => .error .noExcerpt

/-- The schema that a value defines, which should be a text. -/
def Schema.ofBody (name : Label) (body : Json) : Except SchemaFailure Schema :=
  match Body.read body with
  | .ok text => Schema.ofText name text
  | .error fault => .error (.ofBody (.badBody name.shown) fault)

/-- Tells that a schema was loaded, if it was. -/
def Schema.logged (name : Label) (result : Except SchemaFailure Schema) :
    Logged (Except SchemaFailure Schema) :=
  match result with
  | .ok schema => ⟨[.schemaLoaded name schema.types.length], .ok schema⟩
  | .error failure => ⟨[], .error failure⟩

end QueryAudit
