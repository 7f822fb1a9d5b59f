import QueryAudit.Proofs.Session.History

/-! What comes of a run. Every rule is tried on every one of its targets, in order and whatever came
of the trials before; the report lists what the trials found and which of them failed. A check of a
single rule goes through the same trials up to the first that fails. -/
namespace QueryAudit

/-- A rule was tried on a target. -/
structure Trial where
  rule : Label
  target : String
  path : Label
  result : Except RuleError (List Diagnostic)

namespace Trial

/-- What was found; a trial that failed finds nothing. -/
def diagnostics (trial : Trial) : List Diagnostic :=
  match trial.result with
  | .ok diagnostics => diagnostics
  | .error _ => []

def failure? (trial : Trial) : Option Failure :=
  match trial.result with
  | .ok _ => none
  | .error e => some ⟨trial.rule, trial.target, trial.path, e.text⟩

end Trial

namespace Report

def ofTrials (trials : List Trial) : Report where
  diagnostics := trials.flatMap (·.diagnostics)
  failures := trials.filterMap (·.failure?)

theorem ofTrials_append (first second : List Trial) :
    ofTrials (first ++ second) = ofTrials first ++ ofTrials second := by
  simp only [ofTrials, List.flatMap_append, List.filterMap_append]
  rfl

end Report

/-- The first error of the trials, or all that they found. -/
def verdict : List Trial → Except RuleError (List Diagnostic)
  | [] => .ok []
  | trial :: rest =>
    match trial.result with
    | .error e => .error e
    | .ok diagnostics => (verdict rest).map (diagnostics ++ ·)

/-- Either nothing failed and the verdict is all that was found, or it is the error of the first
failure. -/
theorem verdict_cases (trials : List Trial) :
    ((Report.ofTrials trials).failures = [] ∧
      verdict trials = .ok (Report.ofTrials trials).diagnostics) ∨
    ∃ e failure rest, (Report.ofTrials trials).failures = failure :: rest ∧
      failure.error = e.text ∧ verdict trials = .error e := by
  induction trials with
  | nil => exact .inl ⟨rfl, rfl⟩
  | cons trial rest ih =>
    rw [verdict]
    cases outcome : trial.result with
    | error e =>
      have failed : trial.failure? = some ⟨trial.rule, trial.target, trial.path, e.text⟩ := by
        rw [Trial.failure?, outcome]
      exact .inr ⟨e, _, _, List.filterMap_cons_some failed, rfl, rfl⟩
    | ok diagnostics =>
      have passed : trial.failure? = none := by rw [Trial.failure?, outcome]
      have found : trial.diagnostics = diagnostics := by rw [Trial.diagnostics, outcome]
      have failures : (Report.ofTrials (trial :: rest)).failures =
          (Report.ofTrials rest).failures := List.filterMap_cons_none passed
      rw [failures]
      rcases ih with ⟨none, done⟩ | ⟨e, failure, others, some, same, stopped⟩
      · refine .inl ⟨none, ?_⟩
        rw [done, ← found]
        rfl
      · refine .inr ⟨e, failure, others, some, same, ?_⟩
        rw [stopped]
        rfl

theorem verdict_eq_ok_iff {trials : List Trial} {diagnostics : List Diagnostic} :
    verdict trials = .ok diagnostics ↔ (Report.ofTrials trials).failures = [] ∧
      (Report.ofTrials trials).diagnostics = diagnostics := by
  obtain ⟨none, done⟩ | ⟨e, failure, rest, some, _, done⟩ := verdict_cases trials
  · simp [none, done]
  · simp [some, done]

theorem verdict_eq_error_iff {trials : List Trial} {e : RuleError} :
    verdict trials = .error e ↔ ∃ failure rest,
      (Report.ofTrials trials).failures = failure :: rest ∧ failure.error = e.text := by
  obtain ⟨none, done⟩ | ⟨raised, failure, rest, some, same, done⟩ := verdict_cases trials
  · simp [none, done]
  · have text : Label.ofString raised.text = Label.ofString e.text ↔ raised = e := by
      cases e
      cases raised
      simp [Label.ofString]
    simp [some, done, same, text]

namespace Session

/-- Tries a rule on each target, whatever comes of it. -/
def trialsOf (session : Session) (rule : Rule) : List rule.Target → Work (List Trial)
  | [] => return []
  | target :: rest => do
    let result ← rule.check session target
    return ⟨rule.id, rule.name target, rule.path target, result⟩ :: (← trialsOf session rule rest)

/-- Tries rules one after the other on all their targets. -/
def trials (session : Session) : List Rule → Work (List Trial)
  | [] => return []
  | rule :: rest => do
    let targets ← rule.targets session
    return (← session.trialsOf rule targets) ++ (← trials session rest)

variable (session : Session) (rules : List Rule) (cache : UsedFields.Cache)

theorem value_runTargets (rule : Rule) (targets : List rule.Target) :
    ((session.runTargets rule targets) cache).value =
      (Report.ofTrials ((session.trialsOf rule targets) cache).value.1,
        ((session.trialsOf rule targets) cache).value.2) := by
  induction targets generalizing cache with
  | nil => rfl
  | cons target rest ih =>
    simp only [runTargets, trialsOf, value_bind, value_pure]
    obtain ⟨result, next⟩ := ((rule.check session target) cache).value
    cases result with
    | ok diagnostics =>
      simp only [value_bind, value_pure, ih]
      rfl
    | error e =>
      simp only [value_bind, value_pure, value_tell, ih]
      rfl

theorem value_runRules :
    ((session.runRules rules) cache).value =
      (Report.ofTrials ((session.trials rules) cache).value.1,
        ((session.trials rules) cache).value.2) := by
  induction rules generalizing cache with
  | nil => rfl
  | cons rule rest ih =>
    simp only [runRules, trials, value_bind, value_pure, value_tell, value_runTargets, ih,
      Report.ofTrials_append]

theorem value_trials_append (first second : List Rule) :
    ((session.trials (first ++ second)) cache).value =
      (((session.trials first) cache).value.1 ++
        ((session.trials second) ((session.trials first) cache).value.2).value.1,
        ((session.trials second) ((session.trials first) cache).value.2).value.2) := by
  induction first generalizing cache with
  | nil => rfl
  | cons rule rest ih =>
    simp only [List.cons_append, trials, value_bind, value_pure, ih, List.append_assoc]

/-- The warnings of a run: a rule needs the documents of a corpus, and there are none. -/
def warnings (session : Session) (rules : List Rule) : List Label :=
  if session.index.value.isEmpty && rules.any (·.requiresSiblings) then [siblingsUnavailable]
  else []

theorem value_warn :
    ((session.warn rules) cache).value = ({ warnings := session.warnings rules }, cache) := by
  have needing : (!((rules.filter (·.requiresSiblings)).map (·.id)).isEmpty) =
      rules.any (·.requiresSiblings) := by
    rw [Bool.eq_iff_iff]
    simp
  rw [warn, warnings, needing]
  split <;> rfl

/-- A run reports what its trials say, and leaves the store as they do. -/
theorem value_run :
    ((session.run rules) cache).value =
      ({ warnings := session.warnings rules } ++
          Report.ofTrials ((session.trials rules) cache).value.1,
        ((session.trials rules) cache).value.2) := by
  simp only [run, value_bind, value_pure, value_tell, value_warn, value_runRules]

theorem value_checkTargets_verdict (rule : Rule) (targets : List rule.Target) :
    ((session.checkTargets rule targets) cache).value.1 =
      verdict ((session.trialsOf rule targets) cache).value.1 := by
  induction targets generalizing cache with
  | nil => rfl
  | cons target rest ih =>
    simp only [checkTargets, trialsOf, value_bind, value_pure, verdict]
    obtain ⟨result, next⟩ := ((rule.check session target) cache).value
    cases result with
    | error e => rfl
    | ok diagnostics =>
      simp only [value_bind, ← ih]
      cases ((session.checkTargets rule rest) next).value.1 <;> rfl

theorem value_check_verdict (rule : Rule) :
    ((session.check rule) cache).value.1 = verdict ((session.trials [rule]) cache).value.1 := by
  simp only [check, trials, value_bind, value_pure, value_checkTargets_verdict, List.append_nil]

/-- The trial of a rule on a target in a session that was asked nothing before. -/
def trialAfresh (session : Session) (rule : Rule) (target : rule.Target) : Trial :=
  ⟨rule.id, rule.name target, rule.path target, afresh (rule.check session target)⟩

/-- The trials of a rule on all its targets, each in a session that was asked nothing before. -/
def trialsAfresh (session : Session) (rule : Rule) : List Trial :=
  (afresh (rule.targets session)).map (session.trialAfresh rule)

theorem value_trialsOf_afresh {rule : Rule} (asks : rule.Asks session) (owns : session.Owns cache)
    (targets : List rule.Target) :
    ((session.trialsOf rule targets) cache).value.1 = targets.map (session.trialAfresh rule) ∧
      session.Owns ((session.trialsOf rule targets) cache).value.2 := by
  induction targets generalizing cache with
  | nil => exact ⟨rfl, owns⟩
  | cons target rest ih =>
    have here := (asks.check target).keeps owns
    obtain ⟨same, kept⟩ := ih _ here.owns
    simp only [trialsOf, value_bind, value_pure]
    exact ⟨by rw [same, here.same]; rfl, kept⟩

theorem value_trials_afresh (asks : ∀ rule ∈ rules, rule.Asks session)
    (owns : session.Owns cache) :
    ((session.trials rules) cache).value.1 = rules.flatMap session.trialsAfresh := by
  induction rules generalizing cache with
  | nil => rfl
  | cons rule rest ih =>
    obtain ⟨here, onward⟩ := List.forall_mem_cons.mp asks
    have listed := here.targets.keeps owns
    obtain ⟨same, kept⟩ := value_trialsOf_afresh session _ here listed.owns
      ((rule.targets session) cache).value.1
    simp only [trials, value_bind, value_pure, List.flatMap_cons]
    rw [same, ih _ onward kept, listed.same]
    rfl

/-- A failure stays with its rule and its target. -/
structure Isolates (session : Session) (cache : UsedFields.Cache) : Prop where
  /-- What is found at the targets where rules do not fail, in the order of the trials. -/
  diagnostics : ∀ rules, ((session.run rules) cache).value.1.diagnostics =
    ((session.trials rules) cache).value.1.flatMap (·.diagnostics)
  /-- One failure for each trial that failed, in the order of the trials. -/
  failures : ∀ rules, ((session.run rules) cache).value.1.failures =
    ((session.trials rules) cache).value.1.filterMap (·.failure?)
  /-- Rules that only ask for used fields are tried as if each trial stood for itself. -/
  apart : ∀ rules, (∀ rule ∈ rules, rule.Asks session) → session.Owns cache →
    ((session.trials rules) cache).value.1 = rules.flatMap session.trialsAfresh
  /-- Running rules together is running some and then the others. -/
  together : ∀ first second,
    let one := ((session.run first) cache).value
    let other := ((session.run second) one.2).value
    let both := ((session.run (first ++ second)) cache).value
    both.1.diagnostics = one.1.diagnostics ++ other.1.diagnostics ∧
      both.1.failures = one.1.failures ++ other.1.failures ∧ both.2 = other.2
  /-- If all of them only ask for used fields, the others may as well run by themselves. -/
  beside : ∀ first second, (∀ rule ∈ first ++ second, rule.Asks session) → session.Owns cache →
    let one := ((session.run first) cache).value.1
    let other := ((session.run second) cache).value.1
    let both := ((session.run (first ++ second)) cache).value.1
    both.diagnostics = one.diagnostics ++ other.diagnostics ∧
      both.failures = one.failures ++ other.failures
  warnings : ∀ rules, ((session.run rules) cache).value.1.warnings = session.warnings rules
  /-- A check finds what a run finds that has no failures. -/
  accepted : ∀ rule diagnostics, ((session.check rule) cache).value.1 = .ok diagnostics ↔
    ((session.run [rule]) cache).value.1.failures = [] ∧
      ((session.run [rule]) cache).value.1.diagnostics = diagnostics
  /-- A check stops with the error of the first failure of a run. -/
  stopped : ∀ rule e, ((session.check rule) cache).value.1 = .error e ↔
    ∃ failure rest, ((session.run [rule]) cache).value.1.failures = failure :: rest ∧
      failure.error = e.text

theorem run_isolates : Isolates session cache where
  diagnostics rules := by
    rw [value_run]
    rfl
  failures rules := by
    rw [value_run]
    rfl
  apart rules := value_trials_afresh session rules cache
  together first second := by
    simp only [value_run, value_trials_append, Report.ofTrials_append]
    exact ⟨rfl, rfl, trivial⟩
  beside first second asks owns := by
    have ⟨firstAsks, secondAsks⟩ := List.forall_mem_append.mp asks
    simp only [value_run, value_trials_afresh session _ cache asks owns,
      value_trials_afresh session _ cache firstAsks owns,
      value_trials_afresh session _ cache secondAsks owns, List.flatMap_append,
      Report.ofTrials_append]
    exact ⟨rfl, rfl⟩
  warnings rules := by
    rw [value_run]
    exact List.append_nil _
  accepted rule diagnostics := by
    rw [value_check_verdict, value_run]
    exact verdict_eq_ok_iff
  stopped rule e := by
    rw [value_check_verdict, value_run]
    exact verdict_eq_error_iff

end Session

end QueryAudit
