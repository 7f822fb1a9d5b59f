import QueryAudit.Corpus.Basic
import QueryAudit.Event

/-! The index of a corpus: its operations and its fragments, each in corpus order. A name stands
for the last fragment that bears it; the ones before stay in the index, shadowed. -/
namespace QueryAudit

structure CorpusIndex where
  operations : List (Sourced Operation)
  fragments : List (Sourced Fragment)
deriving Repr, Inhabited

/-- The last fragment of a name. -/
def lastNamed (name : String) : List (Sourced Fragment) → Option (Sourced Fragment)
  | [] => none
  | f :: rest =>
    match lastNamed name rest with
    | some later => some later
    | none => if f.node.name.text = name then some f else none

namespace CorpusIndex

def ofDocuments (documents : List CorpusDocument) : CorpusIndex where
  operations := documents.filterMap fun d =>
    match d.node with
    | .operation o => some ⟨o, d.origin, d.sourcePath⟩
    | .fragment _ => none
  fragments := documents.filterMap fun d =>
    match d.node with
    | .operation _ => none
    | .fragment f => some ⟨f, d.origin, d.sourcePath⟩

def fragment? (index : CorpusIndex) (name : String) : Option (Sourced Fragment) :=
  lastNamed name index.fragments

/-- All operations, then all fragments. -/
def documents (index : CorpusIndex) : List CorpusDocument :=
  index.operations.map (·.map .operation) ++ index.fragments.map (·.map .fragment)

/-- Each name once. -/
def fragmentNames (index : CorpusIndex) : List String :=
  (index.fragments.map (·.node.name.text)).eraseDups

def isEmpty (index : CorpusIndex) : Bool := index.operations.isEmpty && index.fragments.isEmpty

def size (index : CorpusIndex) : Nat := index.operations.length + index.fragments.length

/-- An index while it grows, with what each name stands for so far and what was told of names that
were taken. -/
structure Growing where
  operations : List (Sourced Operation) := []
  fragments : List (Sourced Fragment) := []
  named : String → Option (Sourced Fragment) := fun _ => none
  events : List Event := []

namespace Growing

/-- Takes in a document. A fragment takes its name over from the one that had it. -/
def add (growing : Growing) (d : CorpusDocument) : Growing :=
  match d.node with
  | .operation o =>
    { growing with operations := growing.operations ++ [⟨o, d.origin, d.sourcePath⟩] }
  | .fragment f =>
    let current : Sourced Fragment := ⟨f, d.origin, d.sourcePath⟩
    let events := match growing.named f.name.text with
      | some previous =>
        growing.events ++ [.duplicateFragment f.name.text previous.sourcePath d.sourcePath]
      | none => growing.events
    { growing with
      fragments := growing.fragments ++ [current]
      named := fun name => if name = f.name.text then some current else growing.named name
      events }

/-- Takes in definitions in order, up to the first that is no operation or fragment. -/
def addAll (growing : Growing) : List (Sourced Definition) → Growing × Option Unclassifiable
  | [] => (growing, none)
  | d :: rest =>
    match d.classify with
    | .ok document => (growing.add document).addAll rest
    | .error e => (growing, some e)

end Growing

/-- Builds the index of a corpus. Duplicates are told also if a later definition stops it. -/
def build (inputs : List CorpusInput) : Logged (Except Unclassifiable CorpusIndex) :=
  match ({} : Growing).addAll (inputs.flatMap (·.definitions)) with
  | (grown, some e) => ⟨grown.events, .error e⟩
  | (grown, none) =>
    ⟨grown.events ++ [.corpusIndexed grown.operations.length grown.fragments.length],
      .ok ⟨grown.operations, grown.fragments⟩⟩

end CorpusIndex

end QueryAudit
