import QueryAudit.Source.Location

/-! What an analysis finds. A diagnostic holds the id of a message and the data for it; the text
is made when a report is printed. -/
namespace QueryAudit

inductive Severity where
  | error
deriving DecidableEq, Repr, Inhabited

def Severity.word : Severity → String
  | error => "error"

/-- A proposed change. -/
structure Suggestion where
  id : Label := ""
  data : Members := []
deriving DecidableEq, Repr, Inhabited

/-- Where a finding lies. A report only shows it. -/
structure Place where
  path : Label := ""
  line : Label := ⟨.ofNat 0⟩
  column : Label := ⟨.ofNat 0⟩
deriving DecidableEq, Repr, Inhabited

namespace Place

def ofLocation (location : Location) : Place :=
  ⟨location.path, ⟨.ofNat location.line⟩, ⟨.ofNat location.column⟩⟩

def text (place : Place) : String :=
  s!"{place.path.shown}:{place.line.shown}:{place.column.shown}"

def toJson (place : Place) : Json :=
  .obj [("path", place.path.value), ("line", place.line.value), ("column", place.column.value)]

end Place

structure Diagnostic where
  ruleId : Label := ""
  messageId : Label := ""
  data : Members := []
  place : Option Place := none
  suggestions : List Suggestion := []
  severity : Severity := .error
deriving DecidableEq, Repr, Inhabited

/-- A rule that could not check a target. -/
structure Failure where
  ruleId : Label := ""
  target : Label := ""
  sourcePath : Label := ""
  error : Label := ""
deriving DecidableEq, Repr, Inhabited

structure Report where
  diagnostics : List Diagnostic := []
  failures : List Failure := []
  warnings : List Label := []
deriving DecidableEq, Repr, Inhabited

def Suggestion.toJson (s : Suggestion) : Json :=
  .obj [("desc_id", s.id.value), ("data", .obj s.data)]

def Diagnostic.members (d : Diagnostic) : Members :=
  [("rule_id", d.ruleId.value), ("message_id", d.messageId.value), ("data", .obj d.data),
    ("location", .ofOption (d.place.map (·.toJson))),
    ("suggestions", .arr (d.suggestions.map (·.toJson))), ("severity", .str d.severity.word)]

def Failure.toJson (f : Failure) : Json :=
  .obj [("rule_id", f.ruleId.value), ("target", f.target.value),
    ("source_path", f.sourcePath.value), ("error", f.error.value)]

namespace Report

def hasErrors (report : Report) : Bool :=
  !report.diagnostics.isEmpty || !report.failures.isEmpty

/-- A report as a value, with given values for its diagnostics. -/
def toJsonWith (diagnostics : List Json) (report : Report) : Json :=
  .obj [("diagnostics", .arr diagnostics), ("failures", .arr (report.failures.map (·.toJson))),
    ("warnings", .arr (report.warnings.map (·.value)))]

def toJson (report : Report) : Json :=
  report.toJsonWith (report.diagnostics.map fun d => .obj d.members)

/-- What one run found before what another found. -/
def append (a b : Report) : Report :=
  ⟨a.diagnostics ++ b.diagnostics, a.failures ++ b.failures, a.warnings ++ b.warnings⟩

instance : Append Report := ⟨append⟩

end Report

end QueryAudit
