import QueryAudit.Report.Message
import QueryAudit.Rule.Basic

/-! The rule that every field of a schema is selected somewhere. -/
namespace QueryAudit

/-- The types whose fields should be used, by name. -/
def Schema.auditedTypes (schema : Schema) : List TypeDef :=
  (schema.types.filter fun t => t.kind.hasFields && !t.name.startsWith "__").mergeSort
    fun a b => decide (a.name ≤ b.name)

namespace Rule

def unusedDiagnostic (t : TypeDef) (f : FieldDef) : Diagnostic :=
  let data : Members := [("fieldName", .str f.name), ("typeName", .str t.name)]
  { ruleId := RuleName.unusedFields.id
    messageId := RuleName.unusedFields.id
    data
    place := f.location.map .ofLocation
    suggestions := [⟨removeField, data⟩] }

def unusedFieldsOf (used : UsedFields) (t : TypeDef) : List FieldDef :=
  t.fields.filter fun f => !used.isUsed t.name f.name

/-- One diagnostic for each field that no document selects. -/
def unusedFields : Rule where
  id := RuleName.unusedFields.id
  requiresSiblings := true
  Target := TypeDef
  name t := t.name
  path t := (t.location.map (·.path)).getD ""
  targets session := return session.schema.value.auditedTypes
  check session t := do
    let used ← session.usedFields
    return .ok ((unusedFieldsOf used t).map (unusedDiagnostic t))

end Rule

end QueryAudit
