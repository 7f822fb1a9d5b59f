import QueryAudit.Source.Label

/-! Places in source texts. Lines and columns count from one and in code points; the offset
counts from zero. A definition knows its origin, so a place becomes a location only together
with the origin of the definition it lies in. -/
namespace QueryAudit

structure Position where
  offset : Nat
  line : Nat
  column : Nat
deriving DecidableEq, Repr, Inhabited

/-- The place of a whole document, before its first token. -/
def Position.start : Position := ⟨0, 0, 0⟩

structure Location where
  path : Label := ""
  line : Nat := 0
  column : Nat := 0
deriving DecidableEq, Repr, Inhabited

def Location.text (location : Location) : String :=
  s!"{location.path.shown}:{location.line}:{location.column}"

def Location.toJson (location : Location) : Json :=
  .obj [("path", location.path.value), ("line", .ofNat location.line),
    ("column", .ofNat location.column)]

/-- What is known of the text that a definition was read from. -/
inductive Origin where
  /-- Positions were not kept. -/
  | untracked
  | anonymous
  | named (name : Label)
deriving DecidableEq, Repr, Inhabited

/-- The name that stands for a text without a name. -/
def Origin.anonymousName : String := "GraphQL request"

def Origin.ofName (name : Label) : Origin :=
  if name = anonymousName then .anonymous else .named name

/-- A path that is given wins over the name of the text. -/
def Origin.pathOr (origin : Origin) (path : Label) : Label :=
  match origin with
  | .named name => if path.isBlank then name else path
  | .untracked | .anonymous => path

def Origin.locate (origin : Origin) (path : Label) (position : Position) : Option Location :=
  match origin with
  | .untracked => none
  | .anonymous | .named _ => some ⟨origin.pathOr path, position.line, position.column⟩

end QueryAudit
