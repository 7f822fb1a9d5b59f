import QueryAudit.Document.Node

/-! Outlines of documents: kinds, names and places, without arguments, directives and values. What
a node does not have is left out of its outline. -/
namespace QueryAudit

def Position.toJson (position : Position) : Json :=
  .arr [.ofNat position.line, .ofNat position.column]

/-- A member that is there only with a value. -/
def Members.optional (key : String) (value : Option Json) : Members :=
  value.toList.map fun value => (key, value)

mutual

def Selection.outline (s : Selection) : Json :=
  let common : Members := [("kind", .str s.kind.word), ("at", s.position.toJson)]
  match s with
  | .field head body =>
    .obj (common ++ [("name", .str head.name.text)] ++
      Members.optional "alias" (head.aliasName.map (.str ·.text)) ++ bodyOutline body)
  | .spread head => .obj (common ++ [("name", .str head.name.text)])
  | .inline head body =>
    .obj (common ++ Members.optional "type_condition" (head.typeCondition.map (.str ·.text)) ++
      bodyOutline body)

def bodyOutline (body : List Selection) : Members :=
  if body.isEmpty then [] else [("selections", .arr (selectionOutlines body))]

def selectionOutlines : List Selection → List Json
  | [] => []
  | s :: rest => s.outline :: selectionOutlines rest

end

def Definition.outline (origin : Origin) (d : Definition) : Json :=
  let common : Members := [("kind", .str d.kindText),
    ("name", .ofText? (d.name?.map (·.text))),
    ("location", .ofOption ((origin.locate "" d.position).map (·.toJson)))]
  match d with
  | .operation o => .obj (common ++ [("operation", .str o.kind.text),
      ("selections", .arr (selectionOutlines o.body))])
  | .fragment f => .obj (common ++ [("type_condition", .str f.typeCondition.text),
      ("selections", .arr (selectionOutlines f.body))])
  | _ => .obj common

def Document.outlines (document : Document) : List Json :=
  document.definitions.map (·.outline document.origin)

end QueryAudit
