import QueryAudit.Report.Text
import QueryAudit.Rule.SelectionDepth
import QueryAudit.Rule.UnusedFields

/-! Running rules in a session. A rule that fails at a target is noted, and the other targets are
still checked. -/
namespace QueryAudit

namespace Session

/-- Opens a session over a corpus, unless a definition has no place in one. -/
def start (schema : Schema) (inputs : List CorpusInput) (config : Config) :
    Logged (Except Unclassifiable Session) :=
  let built := CorpusIndex.build inputs
  ⟨built.events, built.value.map fun index => ⟨⟨0, schema⟩, ⟨0, index⟩, config⟩⟩

/-- The rule of a name with its options. -/
def rule (name : RuleName) (options : Members) : Except ConfigFailure Rule :=
  match name with
  | .selectionDepth =>
    match DepthOptions.readLimits options with
    | .ok limits => .ok (Rule.selectionDepth limits)
    | .error failure => .error failure
  | .unusedFields => .ok Rule.unusedFields

/-- The rules that the configuration enables. -/
def rules (session : Session) : Except ConfigFailure (List Rule) :=
  session.config.enabledRules.mapM fun name => rule name (session.config.setting name).options

/-- The enabled rules with their options, and the limits of the rule on depth. -/
def ruleOutlines (session : Session) : List Json :=
  session.config.enabledRules.map fun name =>
    let options := (session.config.setting name).options
    let limits := match name with
      | .selectionDepth => (DepthOptions.read options).toOption.map (·.toJson)
      | .unusedFields => none
    .obj [("rule_id", .str name.id), ("options", .obj options), ("depth", .ofOption limits)]

/-- Checks the targets of a rule one by one. -/
def runTargets (session : Session) (rule : Rule) : List rule.Target → Work Report
  | [] => return {}
  | target :: rest => do
    let found ← match ← rule.check session target with
      | .ok diagnostics => pure { diagnostics := diagnostics : Report }
      | .error e => do
        tell (.ruleFailed rule.id (rule.name target))
        pure { failures := [⟨rule.id, rule.name target, rule.path target, e.text⟩] : Report }
    return found ++ (← runTargets session rule rest)

def runRules (session : Session) : List Rule → Work Report
  | [] => return {}
  | rule :: rest => do
    tell (.ruleStarted rule.id)
    let targets ← rule.targets session
    let found ← runTargets session rule targets
    return found ++ (← runRules session rest)

/-- Warns if rules need a corpus and there is none. -/
def warn (session : Session) (rules : List Rule) : Work Report := do
  let needing := (rules.filter (·.requiresSiblings)).map (·.id)
  if session.index.value.isEmpty && !needing.isEmpty then
    tell (.siblingsUnavailable needing)
    return { warnings := [siblingsUnavailable] }
  else return {}

def run (session : Session) (rules : List Rule) : Work Report := do
  let warned ← session.warn rules
  let found ← session.runRules rules
  let report := warned ++ found
  tell (.analysisFinished report.diagnostics.length report.failures.length)
  return report

/-- Checks all targets of a rule up to the first at which it fails. -/
def checkTargets (session : Session) (rule : Rule) :
    List rule.Target → Work (Except RuleError (List Diagnostic))
  | [] => return .ok []
  | target :: rest => do
    match ← rule.check session target with
    | .error e => return .error e
    | .ok diagnostics =>
      match ← checkTargets session rule rest with
      | .error e => return .error e
      | .ok more => return .ok (diagnostics ++ more)

def check (session : Session) (rule : Rule) : Work (Except RuleError (List Diagnostic)) := do
  let targets ← rule.targets session
  session.checkTargets rule targets

/-- Checks the depth of one document along its spreads. -/
def checkDepth (session : Session) (d : CorpusDocument) (maxDepth : Json)
    (ignore : Option (List IgnoreEntry)) :
    Work (Except DepthLimitsFailure (List Violation)) := do
  let closure ← session.closure d
  return (DepthLimits.ofValues maxDepth ignore).map fun limits =>
    Depth.check limits d closure.fragments

end Session

end QueryAudit
