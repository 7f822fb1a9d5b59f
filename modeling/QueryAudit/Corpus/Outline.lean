import QueryAudit.Corpus.Closure

/-! Outlines of the documents of a corpus and of closures. -/
namespace QueryAudit

/-- The place of something that was read from a text, or null. -/
def Sourced.placeJson (s : Sourced α) (position : Position) : Json :=
  .ofOption ((s.locate position).map (·.toJson))

def Executable.isOperation : Executable → Bool
  | operation _ => true
  | fragment _ => false

/-- What a document is, what it is called and where it stands. -/
def CorpusDocument.outline (d : CorpusDocument) : Json :=
  let isOperation := d.node.isOperation
  .obj [("kind", .str (if isOperation then "operation" else "fragment")),
    ("is_operation", .bool isOperation), ("is_fragment", .bool !isOperation),
    ("name", .ofText? d.node.name?), ("display_name", .str d.node.displayName),
    ("type_condition", .ofText? d.node.typeCondition?), ("source_path", d.sourcePath.value),
    ("location", d.placeJson d.node.position),
    ("location_str", .ofText? ((d.locate d.node.position).map (·.text)))]

def MissingFragment.toJson (m : MissingFragment) : Json :=
  .obj [("name", .str m.name), ("location", .ofOption (m.location.map (·.toJson)))]

def Closure.outline (closure : Closure) : Members :=
  [("names", .strings closure.names),
    ("paths", .arr (closure.fragments.map (·.sourcePath.value))),
    ("len", .ofNat closure.fragments.length),
    ("missing", .arr (closure.missing.map (·.toJson))), ("is_complete", .bool closure.isComplete)]

end QueryAudit
