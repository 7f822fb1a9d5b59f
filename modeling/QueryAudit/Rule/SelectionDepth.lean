import QueryAudit.Depth.Targets
import QueryAudit.Report.Message
import QueryAudit.Rule.Basic

/-! The rule that limits the depth of selections. -/
namespace QueryAudit.Rule

def depthDiagnostic (v : Violation) : Diagnostic where
  ruleId := RuleName.selectionDepth.id
  messageId := RuleName.selectionDepth.id
  data := [("rootName", .str v.rootName), ("maxDepth", .ofNat v.maxDepth),
    ("depth", .ofNat v.depth), ("fieldName", .str v.fieldName)]
  place := v.location.map .ofLocation
  suggestions := [{ id := removeSelections }]

/-- One diagnostic for each field that opens a level too many. -/
def selectionDepth (limits : DepthLimits) : Rule where
  id := RuleName.selectionDepth.id
  requiresSiblings := true
  Target := CorpusDocument
  name d := d.node.displayName
  path d := d.sourcePath
  targets session := Session.logged (Depth.loggedTargets session.index.value)
  check session d := do
    let closure ← session.closure d
    return .ok ((Depth.check limits d closure.fragments).map depthDiagnostic)

end QueryAudit.Rule
