import QueryAudit.Binding.Context
import QueryAudit.Corpus.Basic

/-! Field selections and the schema fields they stand for. A field that the current type does not
declare binds to nothing, nor does anything below it; a spread is bound where its fragment is. -/
namespace QueryAudit

structure BoundField where
  head : FieldHead
  parent : TypeDef
  field : FieldDef
  context : TypeContext
deriving Repr, Inhabited

namespace Schema

/-- The type at which an operation or a fragment starts, if the schema has it. -/
def rootType? (schema : Schema) : Executable → Option TypeDef
  | .operation o => schema.root? o.kind
  | .fragment f => schema.composite? f.typeCondition.text

/-- The context at the root of a definition; empty without a root type. -/
def rootContext (schema : Schema) (definition : Executable) : TypeContext :=
  match schema.rootType? definition with
  | some root => TypeContext.push {} (some root)
  | none => {}

mutual

def bindSelection (schema : Schema) (context : TypeContext) : Selection → List BoundField
  | .field head body =>
    match context.parent? with
    | none => []
    | some parent =>
      match parent.field? head.name.text with
      | none => []
      | some field =>
        ⟨head, parent, field, context⟩ ::
          match schema.composite? field.type.baseName with
          | some type => bindSelections schema (context.push (some type) (some field)) body
          | none => []
  | .inline head body =>
    match head.typeCondition with
    | none => bindSelections schema context body
    | some condition =>
      match schema.composite? condition.text with
      | some type => bindSelections schema (context.push (some type) context.field?) body
      | none => []
  | .spread _ => []

def bindSelections (schema : Schema) (context : TypeContext) : List Selection → List BoundField
  | [] => []
  | s :: rest => bindSelection schema context s ++ bindSelections schema context rest

end

/-- All fields of a definition that bind, depth first in document order. -/
def boundFields (schema : Schema) (definition : Executable) : List BoundField :=
  let context := schema.rootContext definition
  if context.isEmpty then [] else schema.bindSelections context definition.body

end Schema

end QueryAudit
