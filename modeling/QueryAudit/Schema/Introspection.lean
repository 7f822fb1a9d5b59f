import QueryAudit.Schema.Build

/-! Schemas from their own description, as a server gives it. The names and kinds of all types
come first, then the roots and the directives, then the parts of each type. The value may have any
shape: a part that is looked for by key or searched, and is not there, either is a fault of the
description or stops the reading; inside the parts of a type it is always a fault. -/
namespace QueryAudit

theorem Members.sizeOf_get? {key : String} {members : Members} {value : Json}
    (found : Members.get? key members = some value) : sizeOf value < sizeOf members := by
  induction members with
  | nil => simp [Members.get?] at found
  | cons member rest ih =>
    obtain ⟨k, v⟩ := member
    simp only [Members.get?] at found
    split at found
    · cases found; simp; omega
    · have := ih found; simp; omega

namespace Introspection

/-- Why reading stops. -/
inductive Failure where
  | fault (fault : IntrospectionFault)
  /-- A value is asked for a member that is no object. -/
  | notObject (value : Json)
  | missingKey (key : String)
  /-- A text ends inside an escape sequence. -/
  | cutEscape
  /-- A fault that cannot be told, as the line that belongs to it is not there. -/
  | untold
  | lostLine

/-- What a failure says, if it can be told. -/
def Failure.reason? : Failure → Option String
  | fault f => some f.message
  | notObject value => some s!"'{value.kindName}' object has no attribute 'get'"
  | missingKey key => some (Text.quoted key)
  | cutEscape => some "string index out of range"
  | untold => none
  | lostLine => some "list index out of range"

abbrev Read (α : Type) := Except Failure α

def fail (fault : IntrospectionFault) : Read α := .error (.fault fault)

/-- A failure inside a part of a type is a fault of that part. -/
def resolving (type part : String) (result : Read α) : Read α :=
  match result with
  | .ok a => .ok a
  | .error failure =>
    match failure.reason? with
    | some reason => fail (.within type part reason)
    | none => .error .lostLine

/-- A member that has to be there. -/
def member (key : String) : Json → Read Json
  | .obj members =>
    match Members.get? key members with
    | some value => .ok value
    | none => .error (.missingKey key)
  | value => fail (.notKeyed value)

/-- A member that may be missing, which is the same as null. -/
def optional (key : String) : Json → Read Json
  | .obj members => .ok ((Members.get? key members).getD .null)
  | value => .error (.notObject value)

/-- What a value is made of when it is gone through: items, characters or keys. -/
def elements : Json → Read (List Json)
  | .arr items => .ok items
  | .str s => .ok (s.toList.map fun c => .str (String.singleton c))
  | .obj members => .ok (members.map fun m => .str m.1)
  | value => fail (.notListable value)

def isKey : Json → Bool
  | .arr _ | .obj _ => false
  | _ => true

/-- A later entry of a name takes the place of an earlier one. -/
def setEntry (key : Json) (value : α) : List (Json × α) → List (Json × α)
  | [] => [(key, value)]
  | (k, v) :: rest => if k == key then (k, value) :: rest else (k, v) :: setEntry key value rest

/-- Entries by their names, which need not be texts yet. -/
def entries (read : Json → Read α) (value : Json) : Read (List (Json × α)) := do
  let found ← (← elements value).mapM fun item => do
    let key ← member "name" item
    let entry ← read item
    if isKey key then return (key, entry) else fail (.notKey key)
  return found.foldl (fun known (key, entry) => setEntry key entry known) []

def isNameStart (c : Char) : Bool := c.isAlpha || c == '_'

def isNamePart (c : Char) : Bool := isNameStart c || c.isDigit

def nameOf (s : String) : Read String :=
  match s.toList with
  | [] => fail .emptyName
  | c :: rest =>
    if !rest.all isNamePart then fail (.nameCharacter s)
    else if !isNameStart c then fail (.nameStart s)
    else .ok s

def name : Json → Read String
  | .str s => nameOf s
  | .null => fail .noName
  | _ => fail .nameNotText

/-- Entries whose names are texts, and then also well formed. -/
def named (unnamed : IntrospectionFault) (entries : List (Json × α)) :
    Read (List (String × α)) := do
  if !entries.all (·.1 matches .str _) then fail unnamed
  entries.mapM fun (key, entry) => return (← name key, entry)

/-- A text that may be missing, such as a description. -/
def checkText (key part : String) (value : Json) : Read Unit := do
  match ← optional key value with
  | .null | .str _ => .ok ()
  | _ => fail (.notText part)

/-- A type of the description: its name, its kind and all that is said of it. -/
structure Described where
  name : String
  kind : TypeKind
  /-- The values of an enumeration. -/
  values : List String := []
  source : Json

def Described.isBuiltin (t : Described) : Bool := Builtin.isType t.name

def enumValue (value : Json) : Read Unit := do
  checkText "description" "The description of the enum value" value
  checkText "deprecationReason" "The deprecation reason for the enum value" value

def enumValueName (key : Json) : Read String := do
  let s ← name key
  if s ∈ ["true", "false", "null"] then fail (.reservedValue s) else return s

/-- A part that the description of a kind of types has to give. -/
def needed (part : String) (t : Json) : Read Json := do
  match ← optional part t with
  | .null => fail (.missing part t)
  | value => return value

/-- The name and the kind of a type. What lies in its fields, members and interfaces is left for
later. -/
def described (t : Json) : Read Described := do
  let given ← member "name" t
  let own (kind : TypeKind) : Read Described := do
    let s ← name given
    checkText "description" "The description" t
    return { name := s, kind, source := t }
  match t.get? "kind" with
  | some (.str "SCALAR") => do
    let found ← own .scalar
    match ← optional "specifiedByURL" t with
    | .null | .str _ => return found
    | other => fail (.badUrl found.name other)
  | some (.str "OBJECT") => own .object
  | some (.str "INTERFACE") => own .interface
  | some (.str "UNION") => do
    let _ ← needed "possibleTypes" t
    own .union
  | some (.str "ENUM") => do
    let values ← entries enumValue (← needed "enumValues" t)
    let found ← own .enum
    return { found with values := ← values.mapM fun v => enumValueName v.1 }
  | some (.str "INPUT_OBJECT") => do
    let _ ← needed "inputFields" t
    own .input
  | some kind => if isKey kind then fail (.incompleteType t) else fail (.notKey kind)
  | none => fail (.incompleteType t)

/-- A later description of a name takes the place of an earlier one. -/
def setDescribed (t : Described) : List Described → List Described
  | [] => [t]
  | other :: rest => if other.name = t.name then t :: rest else other :: setDescribed t rest

/-- The kind of a type; a built-in type takes the place of what is described by its name. -/
def kind? (types : List Described) (name : String) : Option TypeKind :=
  (types.find? (·.name = name)).map fun t => (Builtin.kind? name).getD t.kind

/-- A reference to a type: wrappers, then the name of a type of the description. -/
def typeRef (types : List Described) (ref : Json) : Read TypeRef :=
  match ref with
  | .obj members =>
    let wrapped := match Members.get? "kind" members with
      | some (.str "LIST") => some TypeRef.list
      | some (.str "NON_NULL") => some TypeRef.nonNull
      | _ => none
    match wrapped with
    | some wrap =>
      match _found : Members.get? "ofType" members with
      | none => fail .cutReference
      | some inner =>
        if inner.isFalsy then fail .cutReference
        else do
          let t ← typeRef types inner
          match wrap t, t with
          | .nonNull _, .nonNull _ => fail (.wrongKind t "nullable")
          | made, _ => return made
    | none =>
      let called := (Members.get? "name" members).getD .null
      if called.isFalsy then fail (.unknownReference ref)
      else if !isKey called then fail (.notKey called)
      else
        match called with
        | .str s =>
          if (kind? types s).isSome then return .named s else fail (.unknownType called)
        | _ => fail (.unknownType called)
  | value => .error (.notObject value)
termination_by ref
decreasing_by
  have := Members.sizeOf_get? _found
  simp
  omega

def isOfKind (types : List Described) (holds : TypeKind → Bool) (t : TypeRef) : Bool :=
  (kind? types t.baseName).any holds

/-- A reference to a type of a wanted kind without wrappers. -/
def namedType (types : List Described) (kind : TypeKind) (wanted : String) (ref : Json) :
    Read String := do
  let t ← typeRef types ref
  match t with
  | .named s => if isOfKind types (· == kind) t then return s else fail (.wrongKind t wanted)
  | _ => fail (.wrongKind t wanted)

def objectType (types : List Described) (ref : Json) : Read String :=
  namedType types .object "Object" ref

def interfaceType (types : List Described) (ref : Json) : Read String :=
  namedType types .interface "Interface" ref

/-- The words for something that takes input. -/
structure InputWords where
  one : String
  many : String

def argumentWords : InputWords := ⟨"Argument", "arguments"⟩

def inputFieldWords : InputWords := ⟨"Input field", "input fields"⟩

def defaultValue (body : Json) : Read Value := do
  let text ← (Body.read body).mapError fun fault => .fault (.badBody fault)
  match parseValue text with
  | .ok value => .ok value
  | .error .cutEscape => .error .cutEscape
  | .error (.grammar error) =>
    match Excerpt.print? Origin.anonymousName text error.offset with
    | some excerpt => fail (.badDefault error excerpt)
    | none => .error .untold

/-- An argument or an input field: whether it has a default value, and its type. -/
def input (types : List Described) (shape : String → InputShape Failure) (words : InputWords)
    (value : Json) : Read (TypeRef × Bool) := do
  let t ← typeRef types (← member "type" value)
  if !isOfKind types TypeKind.isInput t then fail (.notInput words.many t)
  let hasDefault ← match ← optional "defaultValue" value with
    | .null => pure false
    | body =>
      Coercion.fits shape (fun name => .fault (.notInput words.many (.named name))) t
        (← defaultValue body)
  checkText "description" (words.one ++ " description") value
  checkText "deprecationReason" (words.one ++ " deprecation reason") value
  return (t, hasDefault)

mutual

/-- What a type takes as input. Default values may ask for the fields of further types, which is
followed `fuel` deep. -/
def shape (types : List Described) (fuel : Nat) (name : String) : InputShape Failure :=
  match InputShape.builtin? name, types.find? (·.name = name) with
  | some found, _ => found
  | none, none => .nothing
  | none, some t =>
    match t.kind with
    | .scalar => .custom
    | .enum => .enum t.values
    | .input => .object fun _ => slots types fuel t
    | .object | .interface | .union => .nothing
termination_by (fuel, 1)

/-- The fields of an input type. A type that needs its own fields for them has none yet. -/
def slots (types : List Described) (fuel : Nat) (t : Described) : Read (List InputSlot) :=
  match fuel with
  | 0 => .ok []
  | fuel + 1 => do
    let found ← resolving t.name "fields" do
      entries (input types (shape types fuel) inputFieldWords) (← optional "inputFields" t.source)
    return (← named (.unnamedFields t.name) found).map fun (name, type, hasDefault) =>
      ⟨name, type, hasDefault⟩
termination_by (fuel, 0)

end

/-- Default values lead through each type once. -/
def depth (types : List Described) : Nat := types.length + 1

def checkArguments (types : List Described) (value : Json) : Read (List (Json × Unit)) :=
  entries (fun a => do
    let _ ← input types (shape types (depth types)) argumentWords a) value

def field (types : List Described) (value : Json) : Read TypeRef := do
  let t ← typeRef types (← member "type" value)
  if !isOfKind types TypeKind.isOutput t then fail (.notOutput t)
  match ← optional "args" value with
  | .null => fail (.missing "field args" value)
  | arguments =>
    let found ← checkArguments types arguments
    let _ ← named (.unnamedArguments "Field") found
  checkText "description" "The description" value
  checkText "deprecationReason" "The deprecation reason" value
  return t

def fields (types : List Described) (t : Described) : Read (List FieldDef) := do
  let found ← resolving t.name "fields" do
    match ← optional "fields" t.source with
    | .null => fail (.missingFields t.source)
    | value => entries (field types) value
  return (← named (.unnamedFields t.name) found).map fun (name, type) => ⟨name, type, none⟩

/-- Only an interface may leave out the interfaces that it implements. -/
def checkInterfaces (types : List Described) (t : Described) : Read Unit :=
  resolving t.name "interfaces" do
    match ← optional "interfaces" t.source with
    | .null => if t.kind = .interface then pure () else fail (.missing "interfaces" t.source)
    | value => (← elements value).forM fun ref => do let _ ← interfaceType types ref

def checkMembers (types : List Described) (t : Described) : Read Unit :=
  resolving t.name "types" do
    (← elements (← optional "possibleTypes" t.source)).forM fun ref => do
      let _ ← objectType types ref

/-- The parts of a type. -/
def typeDef (types : List Described) (t : Described) : Read TypeDef := do
  match t.kind with
  | .object | .interface =>
    checkInterfaces types t
    return { name := t.name, kind := t.kind, fields := ← fields types t }
  | .union =>
    checkMembers types t
    return { name := t.name, kind := t.kind }
  | .input =>
    let found ← slots types (depth types) t
    return { name := t.name, kind := t.kind, fields := found.map fun s => ⟨s.name, s.type, none⟩ }
  | .scalar | .enum => return { name := t.name, kind := t.kind }

def checkDirective (types : List Described) (d : Json) : Read Unit := do
  let arguments ← optional "args" d
  if arguments.isNull then fail (.missing "directive args" d)
  let sites ← optional "locations" d
  if sites.isNull then fail (.missing "directive locations" d)
  let given ← member "name" d
  let sites ← elements sites
  let arguments ← checkArguments types arguments
  let called ← name given
  if !sites.all (·.asString?.any (· ∈ Directive.sites)) then fail (.badSites called)
  let _ ← named (.unnamedArguments called) arguments
  match d.get? "isRepeatable" with
  | none | some (.bool _) => pure ()
  | some _ => fail (.badFlag called)
  checkText "description" (called ++ " description") d

def root (types : List Described) (schema : Json) (key : String) : Read (Option String) := do
  match ← optional key schema with
  | .null => return none
  | ref => return some (← objectType types ref)

def schema (value : Json) : Read Schema := do
  let described ← (← elements (← member "types" value)).mapM described
  let types := described.foldl (fun ts t => setDescribed t ts) []
  let roots : Roots := ⟨← root types value "queryType", ← root types value "mutationType",
    ← root types value "subscriptionType"⟩
  let directives ← optional "directives" value
  if !directives.isFalsy then (← elements directives).forM (checkDirective types)
  checkText "description" "Schema description" value
  let own ← (types.filter (!·.isBuiltin)).mapM (typeDef types)
  return ⟨own ++ SchemaBuild.builtinTypes (types.map (·.name)), roots⟩

end Introspection

open Introspection in
/-- The schema that a value describes, be it the description itself or a response around it. -/
def Schema.ofIntrospection (name : Label) (value : Json) : Except SchemaFailure Schema := do
  let description ← match value.holds? "__schema" with
    | none => throw .notContainer
    | some true => pure value
    | some false =>
      match value with
      | .obj members =>
        let data := (Members.get? "data" members).getD (.obj [])
        match data.holds? "__schema" with
        | none => throw .notContainer
        | some true => pure data
        | some false => pure value
      | _ => throw .notObject
  match description.get? "__schema" with
  | some (.obj members) =>
    match schema (.obj members) with
    | .ok schema => return schema
    | .error (.fault (.badBody fault)) =>
      throw (.ofBody (fun fault => .introspection name.shown (.badBody fault)) fault)
    | .error (.fault fault) => throw (.reported (.introspection name.shown fault))
    | .error (.notObject _) => throw .notObject
    | .error (.missingKey key) => throw (.missingKey key)
    | .error .cutEscape => throw .cutEscape
    | .error .untold | .error .lostLine => throw .noExcerpt
  | _ => throw (.reported (.introspection name.shown (.noSchema description)))

end QueryAudit
