import QueryAudit.Json.Writer
import QueryAudit.Report.Message

/-! Printed reports: a text for people that a template lays out, or JSON. Neither can be had if a
message cannot be made. -/
namespace QueryAudit

/-- The warning that the corpus is empty. -/
def siblingsUnavailable : String := "siblings_unavailable"

/-- What is known of warnings. -/
def warningMessage? (warning : Label) : Option String :=
  if warning = siblingsUnavailable then
    some "No operation or fragment documents were loaded; cross-document rules ran on an empty corpus"
  else none

/-- A warning that nothing is known of stands for itself. -/
def warningText (warning : Label) : Except PrintError Label := do
  let known ← warning.lookUp warningMessage?
  return (known.map .ofString).getD warning

def Place.print (place : Place) : Except PrintError String := do
  let path ← place.path.value.print
  let line ← place.line.value.print
  let column ← place.column.value.print
  return s!"{path}:{line}:{column}"

namespace Diagnostic

/-- What a layout sees of a diagnostic. -/
structure View where
  location : String
  severity : String
  message : Label
  ruleId : Label
  suggestions : List Label
deriving Repr

def View.toJson (view : View) : Json :=
  .obj [("location", .str view.location), ("severity", .str view.severity),
    ("message", view.message.value), ("rule_id", view.ruleId.value),
    ("suggestions", .arr (view.suggestions.map (·.value)))]

def view (d : Diagnostic) : Except PrintError View := do
  let location ← d.place.elim (pure "") (·.print)
  let message ← d.message
  let suggestions ← d.suggestionTexts
  return { location, severity := d.severity.word, message, ruleId := d.ruleId, suggestions }

/-- A diagnostic with its message as a last member. -/
def told (d : Diagnostic) : Except PrintError Json := do
  let message ← d.message
  return .obj (d.members ++ [("message", message.value)])

end Diagnostic

namespace Report

/-- The template of a report. Lines that hold a tag alone leave nothing behind. -/
def layout : String := r#"{% for item in diagnostics %}
{{ item.location or "<unknown>" }}  {{ item.severity }}  {{ item.message }}  [{{ item.rule_id }}]
{% for suggestion in item.suggestions %}
    suggestion: {{ suggestion }}
{% endfor %}
{% endfor %}
{% for failure in failures %}
{{ failure.source_path or "<unknown>" }}  failure  {{ failure.rule_id }} could not check {{ failure.target }}: {{ failure.error }}
{% endfor %}
{% for warning in warnings %}
warning: {{ warning }}
{% endfor %}
{{ diagnostics | length }} problem{{ "" if diagnostics | length == 1 else "s" }}, {{ failures | length }} failure{{ "" if failures | length == 1 else "s" }}
"#

def text (report : Report) : Except PrintError String := do
  let diagnostics ← report.diagnostics.mapM (·.view)
  let warnings ← report.warnings.mapM warningText
  Template.fill .standard layout [("diagnostics", .arr (diagnostics.map (·.toJson))),
    ("failures", .arr (report.failures.map (·.toJson))),
    ("warnings", .arr (warnings.map (·.value)))]

/-- The report as JSON, each diagnostic with its message. -/
def json (report : Report) : Except PrintError String := do
  let diagnostics ← report.diagnostics.mapM (·.told)
  let value := report.toJsonWith diagnostics
  if value.isShort then return value.write .indented else throw .longInteger

end Report

end QueryAudit
