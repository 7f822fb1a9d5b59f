import QueryAudit.Binding.Fields
import QueryAudit.Document.Outline

/-! Outlines of bound fields and of the types around them. -/
namespace QueryAudit

def TypeFrame.toJson (f : TypeFrame) : Json :=
  .arr [.ofText? (f.parent.map (·.name)), .ofText? (f.field.map (·.type.text))]

def TypeContext.outline (context : TypeContext) : Members :=
  [("depth", .ofNat context.depth), ("is_empty", .bool context.isEmpty),
    ("parent", .ofText? (context.parent?.map (·.name))),
    ("field_type", .ofText? (context.field?.map (·.type.text)))]

/-- A bound field of a text, on demand with the types around it. -/
def BoundField.outline (origin : Origin) (frames : Bool) (b : BoundField) : Json :=
  let place := if origin = .untracked then .null else b.head.position.toJson
  .obj ([("parent", .str b.parent.name), ("name", .str b.head.name.text),
    ("type", .str b.field.type.text), ("depth", .ofNat b.context.depth), ("at", place)] ++
    if frames then [("frames", .arr (b.context.frames.map (·.toJson)))] else [])

/-- All that binds in a definition. -/
def Schema.bindingOutline (schema : Schema) (origin : Origin) (frames : Bool)
    (definition : Executable) : Json :=
  let context := schema.rootContext definition
  .obj [("root", .ofText? ((schema.rootType? definition).map (·.name))),
    ("context_depth", .ofNat context.depth), ("is_empty", .bool context.isEmpty),
    ("fields", .arr ((schema.boundFields definition).map (·.outline origin frames)))]

end QueryAudit
