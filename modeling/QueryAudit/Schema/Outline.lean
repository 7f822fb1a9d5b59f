import QueryAudit.Schema.Builtin

/-! Outlines of schemas: the types that selections are made on, with their fields and places. -/
namespace QueryAudit

def FieldDef.placeJson (f : FieldDef) : Json := .ofOption (f.location.map (·.toJson))

namespace TypeDef

/-- The kind of the definition is told only if there is one. -/
def outline (t : TypeDef) : Json :=
  let fields := t.fields.map fun f => Json.arr [.str f.name, .str f.type.text, f.placeJson]
  .obj ([("name", .str t.name),
    ("kind", .ofOption (t.location.map fun _ => .str (t.kind.word ++ "_definition"))),
    ("location", .ofOption (t.location.map (·.toJson)))] ++
    if t.kind.hasFields then [("fields", .arr fields)] else [])

def isIntrospection (t : TypeDef) : Bool := t.name ∈ Builtin.introspectionNames

end TypeDef

namespace Schema

/-- The types that a schema declares itself, by name. -/
def ownTypes (schema : Schema) : List TypeDef :=
  (schema.types.filter (!·.isIntrospection)).mergeSort fun a b => decide (a.name ≤ b.name)

def outline (schema : Schema) : Json :=
  .obj [("query", .ofText? schema.roots.query), ("mutation", .ofText? schema.roots.mutation),
    ("subscription", .ofText? schema.roots.subscription),
    ("type_count", .ofNat schema.types.length),
    ("composites", .arr ((schema.ownTypes.filter (·.kind.isComposite)).map (·.outline)))]

/-- Where the names of all fields stand, type by type. -/
def fieldPlaces (schema : Schema) : List Json :=
  (schema.ownTypes.filter (·.kind.hasFields)).flatMap fun t =>
    t.fields.map fun f => .arr [.str t.name, .str f.name, f.placeJson]

end Schema

end QueryAudit
