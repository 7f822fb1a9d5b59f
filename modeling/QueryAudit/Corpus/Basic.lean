import QueryAudit.Corpus.Source

/-! Definitions of a corpus. Each carries the path it was read from and what is known of its text,
so that places inside it can be told without the document around it. -/
namespace QueryAudit

/-- Something read from a text. A path that is given names the text in locations. -/
structure Sourced (α : Type) where
  node : α
  origin : Origin
  sourcePath : Label
deriving Repr, Inhabited

namespace Sourced

def map (f : α → β) (s : Sourced α) : Sourced β := ⟨f s.node, s.origin, s.sourcePath⟩

def locate (s : Sourced α) (position : Position) : Option Location :=
  s.origin.locate s.sourcePath position

end Sourced

/-- The definitions that can be executed or spread. -/
inductive Executable where
  | operation (operation : Operation)
  | fragment (fragment : Fragment)
deriving Repr, Inhabited

namespace Executable

def body : Executable → List Selection
  | operation o => o.body
  | fragment f => f.body

def position : Executable → Position
  | operation o => o.position
  | fragment f => f.position

def name? : Executable → Option String
  | operation o => o.name.map (·.text)
  | fragment f => some f.name.text

def fragmentName? : Executable → Option String
  | operation _ => none
  | fragment f => some f.name.text

def typeCondition? : Executable → Option String
  | operation _ => none
  | fragment f => some f.typeCondition.text

/-- The name in reports; an operation without a name goes by its kind. -/
def displayName : Executable → String
  | operation o =>
    match o.name with
    | some name => name.text
    | none => s!"anonymous {o.kind.text}"
  | fragment f => f.name.text

def toDefinition : Executable → Definition
  | operation o => .operation o
  | fragment f => .fragment f

end Executable

def Definition.executable? : Definition → Option Executable
  | operation o => some (.operation o)
  | fragment f => some (.fragment f)
  | _ => none

abbrev CorpusDocument := Sourced Executable

/-- A definition that has no place in a corpus. The place is a location, or the path alone if
positions were not kept. -/
structure Unclassifiable where
  kind : String
  place : Label
deriving DecidableEq, Repr

def Unclassifiable.message (error : Unclassifiable) : String :=
  let place := if error.place.isBlank then "" else " in " ++ error.place.shown
  s!"Cannot classify '{error.kind}' definition{place}: expected an operation or a fragment"

/-- Names the kind and the place of something that is neither an operation nor a fragment. -/
def Unclassifiable.ofKind (kind : String) (location : Option Location) (sourcePath : Label) :
    Unclassifiable :=
  ⟨kind, (location.map fun l => ↑l.text).getD sourcePath⟩

def Sourced.classify (d : Sourced Definition) : Except Unclassifiable CorpusDocument :=
  match d.node.executable? with
  | some node => .ok ⟨node, d.origin, d.sourcePath⟩
  | none => .error (.ofKind d.node.kindText (d.locate d.node.position) d.sourcePath)

/-- What a corpus can be made of. -/
inductive CorpusInput where
  | source (source : SourceDocument)
  | document (document : Document)
  | definition (origin : Origin) (definition : Definition)
  | classified (document : CorpusDocument)
deriving Repr, Inhabited

/-- The definitions of an input, in order. Only a source document names a path. -/
def CorpusInput.definitions : CorpusInput → List (Sourced Definition)
  | source s => s.document.definitions.map (⟨·, s.document.origin, s.path⟩)
  | document d => d.definitions.map (⟨·, d.origin, ""⟩)
  | definition origin d => [⟨d, origin, ""⟩]
  | classified d => [d.map Executable.toDefinition]

end QueryAudit
