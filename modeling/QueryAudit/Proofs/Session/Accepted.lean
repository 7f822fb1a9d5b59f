import QueryAudit.Proofs.Corpus.Indexing
import QueryAudit.Proofs.Session.Trials

/-! What is accepted at the start does not fail later. Options are checked when a configuration is
read, when its rules are made and when depths are measured; whatever passes the first check passes
the others with the same limits, and then no rule fails at any target. -/
namespace QueryAudit

/-- The limits that were read pass where limits are checked again. -/
theorem DepthOptions.ofValues_limits (options : DepthOptions) :
    DepthLimits.ofValues (.ofNat options.maxDepth)
      (some (options.ignore.map fun name => .value (.str name))) = .ok options.limits := by
  have entries : (options.ignore.map fun name => IgnoreEntry.value (.str name)).mapM
      IgnoreEntry.rule = .ok (options.ignore.map .name) := by
    rw [List.mapM_map]
    exact List.mapM_pure
  have depth : (Json.ofNat options.maxDepth).asNat? = some options.maxDepth := by
    simp [Json.ofNat, Json.asNat?]
  simp only [DepthLimits.ofValues, depth, entries]
  rfl

theorem DepthOptions.readLimits_of_read {members : Members} {options : DepthOptions}
    (accepted : DepthOptions.read members = .ok options) :
    DepthOptions.readLimits members = .ok options.limits := by
  rw [readLimits, accepted, ok_bind]
  exact congrArg (Except.mapError ConfigFailure.ofLimits) options.ofValues_limits

theorem Config.depthOptions_of_read {value : Json} {config : Config}
    (accepted : Config.read value = .ok config) :
    ∃ options, config.depthOptions = .ok options := by
  cases value with
  | obj members =>
    rw [read] at accepted
    split at accepted
    · obtain ⟨options, read, same⟩ := ok_of_bind accepted
      cases same
      exact ⟨options, read⟩
    · cases accepted
  | _ => cases accepted

namespace Rule

/-- The rule of a name, with limits for the one on depth. -/
def named (limits : DepthLimits) : RuleName → Rule
  | .selectionDepth => selectionDepth limits
  | .unusedFields => unusedFields

variable (session : Session) (limits : DepthLimits) (name : RuleName)

theorem id_named : (named limits name).id = name.id := by
  cases name <;> rfl

theorem asks_named : (named limits name).Asks session := by
  cases name with
  | selectionDepth => exact asks_selectionDepth session limits
  | unusedFields => exact asks_unusedFields session

/-- A rule that comes to a result at every target. -/
def Sure (session : Session) (rule : Rule) : Prop :=
  ∀ target cache, ∃ found, ((rule.check session target) cache).value.1 = .ok found

theorem sure_named : (named limits name).Sure session := by
  cases name with
  | selectionDepth => exact fun _ _ => ⟨_, rfl⟩
  | unusedFields => exact fun _ _ => ⟨_, rfl⟩

end Rule

namespace Session

variable {session : Session} {options : DepthOptions}

theorem failures_trialsOf {rule : Rule} (sure : rule.Sure session) (targets : List rule.Target)
    (cache : UsedFields.Cache) :
    ∀ trial ∈ ((session.trialsOf rule targets) cache).value.1, trial.failure? = none := by
  induction targets generalizing cache with
  | nil => exact List.forall_mem_nil _
  | cons target rest ih =>
    obtain ⟨found, done⟩ := sure target cache
    simp only [trialsOf, value_bind, value_pure, List.forall_mem_cons]
    exact ⟨by rw [Trial.failure?, done], ih _⟩

theorem failures_trials {rules : List Rule} (sure : ∀ rule ∈ rules, rule.Sure session)
    (cache : UsedFields.Cache) :
    ∀ trial ∈ ((session.trials rules) cache).value.1, trial.failure? = none := by
  induction rules generalizing cache with
  | nil => exact List.forall_mem_nil _
  | cons rule rest ih =>
    obtain ⟨here, onward⟩ := List.forall_mem_cons.mp sure
    simp only [trials, value_bind, value_pure, List.forall_mem_append]
    exact ⟨failures_trialsOf here _ _, ih onward _⟩

theorem failures_run {rules : List Rule} (sure : ∀ rule ∈ rules, rule.Sure session)
    (cache : UsedFields.Cache) : ((session.run rules) cache).value.1.failures = [] := by
  rw [value_run]
  exact List.filterMap_eq_nil_iff.mpr (failures_trials sure cache)

/-- The rules of the names that are enabled. -/
def enabled (session : Session) (limits : DepthLimits) : List Rule :=
  session.config.enabledRules.map (Rule.named limits)

theorem forall_mem_enabled {limits : DepthLimits} {holds : Rule → Prop}
    (named : ∀ name, holds (Rule.named limits name)) :
    ∀ rule ∈ session.enabled limits, holds rule :=
  List.forall_mem_map.mpr fun name _ => named name

-- making a rule reads the options and checks the limits once more
theorem rules_of_depthOptions (read : session.config.depthOptions = .ok options) :
    session.rules = .ok (session.enabled options.limits) := by
  have made (name : RuleName) : rule name (session.config.setting name).options =
      pure (Rule.named options.limits name) := by
    cases name with
    | selectionDepth =>
      change DepthOptions.read (session.config.setting .selectionDepth).options = _ at read
      rw [rule, DepthOptions.readLimits_of_read read]
      rfl
    | unusedFields => rfl
  rw [rules, funext made, List.mapM_pure]
  rfl

/-- What a session with the options of its depth rule gives to whoever asks. -/
structure Serves (session : Session) (options : DepthOptions) : Prop where
  read : session.config.depthOptions = .ok options
  /-- One rule for each name that is enabled, in order; the one on depth has the limits read. -/
  rules : session.rules = .ok (session.enabled options.limits)
  ids : (session.enabled options.limits).map (·.id) =
    session.config.enabledRules.map fun name => (name.id : Label)
  /-- A document can be measured by the same options, and shows what the rule reports. -/
  measured : ∀ d cache, ∃ violations,
    ((session.checkDepth d (.ofNat options.maxDepth)
      (some (options.ignore.map fun name => .value (.str name)))) cache).value.1 =
        .ok violations ∧
    (((Rule.selectionDepth options.limits).check session d) cache).value.1 =
      .ok (violations.map Rule.depthDiagnostic)
  /-- No rule fails at a target. -/
  failures : ∀ cache, ((session.run (session.enabled options.limits)) cache).value.1.failures = []
  /-- Every rule is heard on each of its targets. -/
  diagnostics : ∀ cache, session.Owns cache →
    ((session.run (session.enabled options.limits)) cache).value.1.diagnostics =
      (session.enabled options.limits).flatMap fun rule =>
        (session.trialsAfresh rule).flatMap (·.diagnostics)

theorem serves_of_depthOptions (read : session.config.depthOptions = .ok options) :
    session.Serves options where
  read := read
  rules := rules_of_depthOptions read
  ids := by simp [enabled, Rule.id_named]
  measured d cache := by
    refine ⟨_, ?_, rfl⟩
    rw [checkDepth, value_bind, options.ofValues_limits]
    rfl
  failures cache := failures_run (forall_mem_enabled (Rule.sure_named session options.limits)) cache
  diagnostics cache owns := by
    have asks : ∀ rule ∈ session.enabled options.limits, rule.Asks session :=
      forall_mem_enabled (Rule.asks_named session options.limits)
    rw [value_run, value_trials_afresh _ _ _ asks owns]
    exact List.flatMap_assoc

/-- A configuration that was read and definitions that can be executed or spread open a session over
all of them, whose rules can be made and fail nowhere. -/
theorem accepted_serves {value : Json} {config : Config}
    (accepted : Config.read value = .ok config) (schema : Schema) {inputs : List CorpusInput}
    (executable : ∀ input ∈ inputs, ∀ d ∈ input.definitions, d.node.executable?.isSome) :
    ∃ session documents options,
      (start schema inputs config).value = .ok session ∧
      session.schema.value = schema ∧ session.config = config ∧
      session.index.value = .ofDocuments documents ∧
      documents.map (·.map Executable.toDefinition) = inputs.flatMap (·.definitions) ∧
      session.Serves options := by
  obtain ⟨options, read⟩ := Config.depthOptions_of_read accepted
  obtain ⟨documents, same, built⟩ := CorpusIndex.build_executable
    (List.forall_mem_flatMap.mpr executable)
  refine ⟨⟨⟨0, schema⟩, ⟨0, .ofDocuments documents⟩, config⟩, documents, options, ?_, rfl, rfl, rfl,
    same, serves_of_depthOptions read⟩
  rw [start, built]
  rfl

/-- Both rules are enabled; the names to ignore are the characters of a text. -/
def bothRules : Json :=
  .obj [("rules", .obj [("no-unused-fields", .bool true),
    ("selection-set-depth", .obj [("ignore", .str "ab"), ("max_depth", .ofNat 0)])])]

open Sketch in
/-- An operation without a name that selects an unknown field and spreads what is nowhere, and
fragments that spread each other and share a name. -/
def unruly : List CorpusInput :=
  [.definition .untracked
      (.operation (query [field "nowhere" [spread "Missing", spread "F"]]).node),
    .classified ((fragment "F" [field "a" []]).map .fragment),
    .definition .untracked (.fragment (fragment "G" [spread "F"]).node),
    .classified ((fragment "F" [field "c" [spread "G"]]).map .fragment)]

theorem unruly_accepted :
    let config : Config :=
      { depth := ⟨true, [("ignore", .str "ab"), ("max_depth", .ofNat 0)]⟩
        unused := ⟨true, []⟩ }
    Config.read bothRules = .ok config ∧
    ∃ session options,
      (start shadowedUse.schema.value unruly config).value = .ok session ∧
      session.Serves options := by
  intro config
  have accepted : Config.read bothRules = .ok config := ok_of_toOption (by decide +kernel)
  have executable : ∀ input ∈ unruly, ∀ d ∈ input.definitions, d.node.executable?.isSome := by
    simp [unruly, CorpusInput.definitions, Definition.executable?, Sketch.query, Sketch.fragment,
      Sourced.map, Executable.toDefinition]
  obtain ⟨session, _, options, opened, _, _, _, _, serves⟩ :=
    accepted_serves accepted shadowedUse.schema.value executable
  exact ⟨accepted, session, options, opened, serves⟩

end Session

end QueryAudit
