import QueryAudit.Config.Error
import QueryAudit.Report.Basic
import QueryAudit.Template.Reader

/-! The texts of messages and suggestions. A rule has a template for each of its ids, which is filled
with the data at hand; an id without a template stands for itself. -/
namespace QueryAudit

/-- How the templates of rules and reports are read. -/
def Template.Settings.standard : Settings :=
  { trimBlocks := true, lstripBlocks := true, keepTrailingNewline := true }

/-- The messages of a rule by their ids. -/
def RuleName.message? (rule : RuleName) (id : Label) : Option String :=
  if id = rule.id then
    match rule with
    | .selectionDepth =>
      some "'{{ rootName }}' exceeds maximum operation depth of {{ maxDepth }}"
    | .unusedFields => some "Field \"{{ fieldName }}\" is unused"
  else none

def removeSelections : String := "remove-selections"

def removeField : String := "remove-field"

/-- The suggestions of a rule by their ids. -/
def RuleName.suggestion? (rule : RuleName) (id : Label) : Option String :=
  match rule with
  | .selectionDepth => if id = removeSelections then some "Remove selections" else none
  | .unusedFields =>
    if id = removeField then some "Remove `{{ fieldName }}` field" else none

/-- Looks a label up; lists and objects cannot be. -/
def Label.lookUp (label : Label) (table : Label → Option α) : Except PrintError (Option α) :=
  if label.isKey then .ok (table label) else .error .notKey

/-- What a rule says by an id: its template for the id, filled with data, or else the id. -/
def RuleName.describe (rule : Option RuleName) (table : RuleName → Label → Option String)
    (id : Label) (data : Members) : Except PrintError Label := do
  let template ← rule.elim (pure none) fun rule => id.lookUp (table rule)
  match template with
  | some text =>
    let filled ← Template.fill .standard text data
    return .ofString filled
  | none => return id

namespace Diagnostic

def rule (d : Diagnostic) : Except PrintError (Option RuleName) :=
  d.ruleId.lookUp (·.text?.bind RuleName.ofId?)

def message (d : Diagnostic) : Except PrintError Label := do
  RuleName.describe (← d.rule) RuleName.message? d.messageId d.data

def suggestionTexts (d : Diagnostic) : Except PrintError (List Label) := do
  let rule ← d.rule
  d.suggestions.mapM fun s => RuleName.describe rule RuleName.suggestion? s.id s.data

end Diagnostic

end QueryAudit
