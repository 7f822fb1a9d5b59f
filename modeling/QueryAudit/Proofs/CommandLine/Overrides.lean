import QueryAudit.CommandLine.Run
import QueryAudit.Proofs.Config.RoundTrip
import QueryAudit.Proofs.Corpus.Loading
import QueryAudit.Proofs.Session.Accepted

/-! What the arguments of a command make of the configuration it starts from. The options of the
depth rule are written over one by one and read again, so a limit that is given wins over either
spelling of it, and what is not given stays as it was read. Nothing but a limit below zero can make
an accepted configuration unusable. -/
namespace QueryAudit

namespace Config

variable {fs : FileSystem} {path : Path} {config : Config}

/-- A file that is loaded holds members that can be read. -/
theorem read_of_load (loaded : load fs path = .ok config) :
    ∃ members, read (.obj members) = .ok config := by
  rw [load] at loaded
  repeat' split at loaded
  all_goals first
    | exact ⟨_, loaded⟩
    | cases loaded

theorem isEnabled_id (config : Config) (rule : RuleName) :
    config.isEnabled rule.id = (config.setting rule).enabled := by
  rw [isEnabled, RuleName.ofId?_eq_some_iff.mpr rfl]
  rfl

theorem logLevel_of_read {members : Members} (accepted : read (.obj members) = .ok config) :
    Text.upper config.logLevel ∈ logLevelNames := by
  obtain ⟨accepted, _⟩ := read_eq_ok_iff.mp accepted
  obtain ⟨draft, _, finished⟩ := ok_of_bind accepted
  exact (Draft.finish_eq_ok_iff.mp finished).level

end Config

namespace CommandLine

/-- The configuration that arguments override: that of the file they name, or the one that holds
where there is none. -/
def Arguments.start (fs : FileSystem) (arguments : Arguments) : Except ConfigFailure Config :=
  match arguments.config with
  | some path => Config.load fs path
  | none => .ok {}

/-- What is in force once arguments have overridden a configuration whose options of the depth rule
were read before. -/
structure Overridden (arguments : Arguments) (start : Config) (read options : DepthOptions)
    (config : Config) : Prop where
  limit : (options.maxDepth : Int) = arguments.maxDepth.getD read.maxDepth
  ignore : options.ignore = if arguments.ignore = [] then read.ignore else arguments.ignore
  depth : config.isEnabled "selection-set-depth" = true ↔
    start.isEnabled "selection-set-depth" = true ∨ arguments.maxDepth ≠ none ∨ arguments.ignore ≠ []
  unused : config.isEnabled "no-unused-fields" = true ↔ arguments.unusedFields = some true ∨
    arguments.unusedFields = none ∧ start.isEnabled "no-unused-fields" = true
  level : config.logLevel = arguments.logLevel.getD start.logLevel ∧
    Text.upper config.logLevel ∈ logLevelNames
  checked : config.depthOptions = .ok options
  /-- A session runs the rules that are enabled, the one on depth with these limits. -/
  rules : ∀ session : Session, session.config = config →
    session.rules = .ok (session.enabled options.limits)

variable {fs : FileSystem} {arguments : Arguments} {start config : Config} {read : DepthOptions}
  {options : Members}

/-- The options of the depth rule with what arguments write over them. -/
def Arguments.overwrite (arguments : Arguments) (options : Members) : Members :=
  let limited := match arguments.maxDepth with
    | some depth => Members.set "maxDepth" (.int depth) options
    | none => options
  if arguments.ignore = [] then limited
  else Members.set "ignore" (.strings arguments.ignore) limited

theorem get?_maxDepth_overwrite : Members.get? "maxDepth" (arguments.overwrite options) =
    match arguments.maxDepth with
    | some depth => some (.int depth)
    | none => Members.get? "maxDepth" options := by
  rw [Arguments.overwrite]
  cases arguments.maxDepth <;> split <;> simp [Members.get?_set]

theorem get?_max_depth_overwrite : Members.get? "max_depth" (arguments.overwrite options) =
    Members.get? "max_depth" options := by
  rw [Arguments.overwrite]
  cases arguments.maxDepth <;> split <;> simp [Members.get?_set]

theorem get?_ignore_overwrite : Members.get? "ignore" (arguments.overwrite options) =
    if arguments.ignore = [] then Members.get? "ignore" options
    else some (.strings arguments.ignore) := by
  rw [Arguments.overwrite]
  cases arguments.maxDepth <;> split <;> simp [Members.get?_set]

/-- A limit that is given is in force, whichever way another one is spelt. -/
theorem inForce_overwrite {depth : Int} (given : arguments.maxDepth = some depth) :
    DepthOptions.InForce (arguments.overwrite options) (.int depth) := by
  apply DepthOptions.InForce.first
  rw [get?_maxDepth_overwrite, given]

theorem inForce_overwrite_of_none {value : Json} (missing : arguments.maxDepth = none)
    (inForce : DepthOptions.InForce options value) :
    DepthOptions.InForce (arguments.overwrite options) value := by
  have first : Members.get? "maxDepth" (arguments.overwrite options) =
      Members.get? "maxDepth" options := by rw [get?_maxDepth_overwrite, missing]
  rw [DepthOptions.inForce_iff] at inForce ⊢
  rw [← inForce, DepthOptions.limit, DepthOptions.limit, first, get?_max_depth_overwrite]

theorem taken_overwrite (taken : DepthOptions.Taken (Members.get? "ignore" options) read.ignore) :
    DepthOptions.Taken (Members.get? "ignore" (arguments.overwrite options))
      (if arguments.ignore = [] then read.ignore else arguments.ignore) := by
  rw [get?_ignore_overwrite]
  by_cases none : arguments.ignore = []
  · simpa only [if_pos none] using taken
  · simpa only [if_neg none] using DepthOptions.Taken.given .names

/-- Options that were read can be read again unless a limit below zero was written over them. -/
theorem read_overwrite (arguments : Arguments) (accepted : DepthOptions.read options = .ok read) :
    (∃ depth < 0, arguments.maxDepth = some depth ∧
      DepthOptions.read (arguments.overwrite options) =
        .error (.reported (.maxDepth (.int depth)))) ∨
    ∃ found : DepthOptions, (found.maxDepth : Int) = arguments.maxDepth.getD read.maxDepth ∧
      found.ignore = (if arguments.ignore = [] then read.ignore else arguments.ignore) ∧
      DepthOptions.read (arguments.overwrite options) = .ok found := by
  obtain ⟨inForce, taken⟩ := DepthOptions.read_eq_ok_iff.mp accepted
  have takenToo : DepthOptions.Taken (Members.get? "ignore" (arguments.overwrite options)) _ :=
    taken_overwrite taken
  generalize (if arguments.ignore = [] then read.ignore else arguments.ignore) = names at takenToo ⊢
  cases given : arguments.maxDepth with
  | none =>
    have limit := inForce_overwrite_of_none given inForce
    exact .inr ⟨⟨read.maxDepth, names⟩, rfl, rfl, DepthOptions.read_eq_ok_iff.mpr ⟨limit, takenToo⟩⟩
  | some depth =>
    have limit : DepthOptions.InForce (arguments.overwrite options) _ := inForce_overwrite given
    by_cases negative : depth < 0
    · have noLimit : ∀ n : Nat, Json.int depth ≠ .ofNat n := by
        intro n same
        have := Json.int.inj same
        omega
      have listable : ¬ DepthOptions.Unlistable
          (Members.get? "ignore" (arguments.overwrite options)) := by
        intro unlistable
        have listed := DepthOptions.listed_of_taken takenToo
        rw [DepthOptions.listed_of_unlistable unlistable] at listed
        cases listed
      exact .inl ⟨depth, negative, rfl, (DepthOptions.Reads.limit listable limit noLimit).read_eq⟩
    · obtain ⟨n, rfl⟩ := Int.eq_ofNat_of_zero_le (Int.not_lt.mp negative)
      exact .inr ⟨⟨n, names⟩, rfl, rfl, DepthOptions.read_eq_ok_iff.mpr ⟨limit, takenToo⟩⟩

/-- Each argument has its own field, but a limit or names to ignore also turn the depth rule on. -/
theorem override_eq (cwd : Path) : start.override cwd arguments =
    { start with
      schema := (arguments.schema.map (·.text)).getD start.schema
      documents := if arguments.documents.isEmpty then start.documents else
        arguments.documents.map fun d => (cwd.join (.ofText d)).text
      depth := ⟨start.depth.enabled || arguments.maxDepth.isSome || !arguments.ignore.isEmpty,
        arguments.overwrite start.depth.options⟩
      unused := (arguments.unusedFields.map fun enabled => ⟨enabled, []⟩).getD start.unused
      logLevel := arguments.logLevel.getD start.logLevel } := by
  obtain ⟨schema, _, maxDepth, ignore, unusedFields, _, logLevel, documents⟩ := arguments
  cases maxDepth <;> cases ignore <;> cases schema <;> cases documents <;> cases unusedFields <;>
    cases logLevel <;> simp [Config.override, Arguments.overwrite]

/-- The level of log lines, if one is given, is one of those that can be chosen. -/
def Leveled (arguments : Arguments) : Prop :=
  ∀ level, arguments.logLevel = some level → level ∈ logLevelChoices

theorem Leveled.apply {given : Given} {after : Arguments} (leveled : Leveled arguments)
    (taken : apply fs arguments given = .ok after) : Leveled after := by
  cases given with
  | logLevel value =>
    simp only [CommandLine.apply] at taken
    split at taken
    next choice found =>
      cases taken
      intro level same
      exact Option.some.inj same ▸ List.mem_of_find?_eq_some found
    next => cases taken
  | schema value =>
    obtain ⟨path, _, same⟩ := ok_of_bind taken
    cases same
    exact leveled
  | config value =>
    obtain ⟨path, _, same⟩ := ok_of_bind taken
    cases same
    exact leveled
  | maxDepth value =>
    simp only [CommandLine.apply] at taken
    split at taken
    · cases taken
      exact leveled
    · cases taken
  | format value =>
    simp only [CommandLine.apply] at taken
    split at taken
    · cases taken
      exact leveled
    · split at taken
      · cases taken
        exact leveled
      · cases taken
  | ignore value | unusedFields enabled | help =>
    cases taken
    exact leveled

theorem leveled_of_read {words : List String}
    (accepted : Arguments.read fs words = .ok (some arguments)) : Leveled arguments := by
  obtain ⟨⟨givens, documents⟩, _, accepted⟩ := ok_of_bind accepted
  dsimp only at accepted
  split at accepted
  · cases accepted
  · obtain ⟨read, folded, same⟩ := ok_of_bind accepted
    cases same
    have before : Leveled { documents } := fun level given => by cases given
    exact keeps_of_foldlM (fun _ _ _ leveled => leveled.apply) before folded

/-- An accepted configuration has options that can be read and a known level. -/
theorem accepted_of_start (loaded : arguments.start fs = .ok start) :
    (∃ read, start.depthOptions = .ok read) ∧ Text.upper start.logLevel ∈ logLevelNames := by
  rw [Arguments.start] at loaded
  split at loaded
  · obtain ⟨members, accepted⟩ := Config.read_of_load loaded
    exact ⟨Config.depthOptions_of_read accepted, Config.logLevel_of_read accepted⟩
  · cases loaded
    exact ⟨⟨⟨7, []⟩, rfl⟩, by decide +kernel⟩

theorem upper_of_choice {level : String} (choice : level ∈ logLevelChoices) :
    Text.upper level ∈ logLevelNames := by
  have choices : ∀ level ∈ logLevelChoices, Text.upper level ∈ logLevelNames := by decide +kernel
  exact choices level choice

theorem overridden_override {options : DepthOptions} (leveled : Leveled arguments)
    (level : Text.upper start.logLevel ∈ logLevelNames) (cwd : Path)
    (limit : (options.maxDepth : Int) = arguments.maxDepth.getD read.maxDepth)
    (ignore : options.ignore = if arguments.ignore = [] then read.ignore else arguments.ignore)
    (accepted : (start.override cwd arguments).depthOptions = .ok options) :
    Overridden arguments start read options (start.override cwd arguments) where
  limit := limit
  ignore := ignore
  depth := by
    have enabled (config : Config) : config.isEnabled "selection-set-depth" =
      config.depth.enabled := config.isEnabled_id .selectionDepth
    rw [enabled, enabled, override_eq]
    simp [or_assoc, Option.isSome_iff_ne_none]
  unused := by
    have enabled (config : Config) : config.isEnabled "no-unused-fields" =
      config.unused.enabled := config.isEnabled_id .unusedFields
    rw [enabled, enabled, override_eq]
    cases arguments.unusedFields <;> simp
  level := by
    rw [override_eq]
    refine ⟨rfl, ?_⟩
    cases given : arguments.logLevel with
    | none => simpa [given] using level
    | some choice => simpa [given] using upper_of_choice (leveled choice given)
  checked := accepted
  rules := by
    intro session same
    exact Session.rules_of_depthOptions (same ▸ accepted)

theorem depthOptions_override (cwd : Path) : (start.override cwd arguments).depthOptions =
    DepthOptions.read (arguments.overwrite start.depth.options) := by
  rw [override_eq]
  rfl

section Configure

variable (loaded : arguments.start fs = .ok start)
include loaded

theorem configure_of_start : configure fs arguments =
    ((start.override fs.cwd arguments).validate.mapError configStop >>= fun config =>
      if config.schema = "" then .error (.usage .schemaRequired) else .ok config) := by
  rw [Arguments.start] at loaded
  rw [configure]
  cases given : arguments.config with
  | some path =>
    rw [given] at loaded
    dsimp only at loaded
    simp only [loaded]
    rfl
  | none =>
    rw [given] at loaded
    cases loaded
    rfl

theorem configure_of_refused {failure : ConfigFailure}
    (refused : (start.override fs.cwd arguments).depthOptions = .error failure) :
    configure fs arguments = .error (configStop failure) := by
  rw [configure_of_start loaded, Config.validate, refused]
  rfl

theorem configure_of_accepted {options : DepthOptions}
    (accepted : (start.override fs.cwd arguments).depthOptions = .ok options) :
    configure fs arguments = if (start.override fs.cwd arguments).schema = "" then
      .error (.usage .schemaRequired) else .ok (start.override fs.cwd arguments) := by
  rw [configure_of_start loaded, Config.validate, accepted]
  rfl

end Configure

/-- A command stops at its overridden configuration exactly if a limit below zero is given, and says
so. Otherwise each argument that is given wins over the configuration it overrides. -/
theorem configure_overridden {words : List String}
    (accepted : Arguments.read fs words = .ok (some arguments))
    (loaded : arguments.start fs = .ok start) :
    ∃ read, start.depthOptions = .ok read ∧
    (∀ error, configure fs arguments = .error (.usage (.configuration error)) ↔
      ∃ depth < 0, arguments.maxDepth = some depth ∧ error = .maxDepth (.int depth)) ∧
    (∀ depth < 0, arguments.maxDepth = some depth →
      run fs words = .ofStop [] (.usage (.configuration (.maxDepth (.int depth))))) ∧
    ((∀ depth, arguments.maxDepth = some depth → 0 ≤ depth) →
      let config := start.override fs.cwd arguments
      (∃ options, Overridden arguments start read options config) ∧ configure fs arguments =
        if config.schema = "" then .error (.usage .schemaRequired) else .ok config) := by
  obtain ⟨⟨read, readable⟩, level⟩ := accepted_of_start loaded
  refine ⟨read, readable, ?_⟩
  rcases read_overwrite arguments readable with
    ⟨depth, negative, given, refused⟩ | ⟨options, limit, ignore, found⟩
  · rw [← depthOptions_override fs.cwd] at refused
    have stopped := configure_of_refused loaded refused
    refine ⟨fun error => ?_, ?_, ?_⟩
    · rw [stopped, given]
      simp [configStop, negative, eq_comm]
    · intro other _ same
      cases given.symm.trans same
      simp only [run, accepted, runWith, stopped]
      rfl
    · intro nonnegative
      exact absurd (nonnegative depth given) (Int.not_le.mpr negative)
  · rw [← depthOptions_override fs.cwd] at found
    have configured := configure_of_accepted loaded found
    have impossible (depth : Int) (negative : depth < 0) : arguments.maxDepth ≠ some depth := by
      intro given
      rw [given, Option.getD_some] at limit
      omega
    refine ⟨fun error => ?_, ?_, ?_⟩
    · constructor
      · intro stopped
        rw [configured] at stopped
        split at stopped <;> cases stopped
      · rintro ⟨depth, negative, given, _⟩
        exact absurd given (impossible depth negative)
    · intro depth negative given
      exact absurd given (impossible depth negative)
    · intro _
      have overridden := overridden_override (leveled_of_read accepted) level fs.cwd limit ignore
        found
      exact ⟨⟨options, overridden⟩, configured⟩

/-- One file of a given content. -/
def alone (content : ByteArray) : FileSystem := ⟨.directory [("c", .file content)], ⟨"/", []⟩⟩

/-- A configuration that turns the depth rule off and spells its limit the second way. -/
def disabled : String := "\x7b\"schema\":\"s\",\"rules\":\x7b\"selection-set-depth\":" ++
  "\x7b\"enabled\":false,\"max_depth\":3\x7d\x7d\x7d"

def disabledStart : Config :=
  { schema := "s", depth := ⟨false, [("max_depth", .int 3)]⟩, baseDir := "/" }

theorem load_disabled : Config.load (alone disabled.toUTF8) ⟨"/", ["c"]⟩ = .ok disabledStart :=
  ok_of_toOption (by decide +kernel)

theorem read_ignoring : Arguments.read (alone disabled.toUTF8) ["-c", "c", "--ignore", "a"] =
    .ok (some { config := some ⟨"/", ["c"]⟩, ignore := ["a"] }) :=
  ok_of_toOption (by decide +kernel)

/-- The rule is turned on by names to ignore, and keeps the limit of the file. -/
theorem ignoring_overridden :
    let fs := alone disabled.toUTF8
    let arguments : Arguments := { config := some ⟨"/", ["c"]⟩, ignore := ["a"] }
    let config := disabledStart.override fs.cwd arguments
    Arguments.read fs ["-c", "c", "--ignore", "a"] = .ok (some arguments) ∧
      arguments.start fs = .ok disabledStart ∧
      disabledStart.isEnabled "selection-set-depth" = false ∧
      configure fs arguments = .ok config ∧
      config.isEnabled "selection-set-depth" = true ∧ config.depthOptions = .ok ⟨3, ["a"]⟩ := by
  intro fs arguments config
  have accepted : Arguments.read fs ["-c", "c", "--ignore", "a"] = .ok (some arguments) :=
    read_ignoring
  have loaded : arguments.start fs = .ok disabledStart := load_disabled
  obtain ⟨read, readable, _, _, overrides⟩ := configure_overridden accepted loaded
  obtain ⟨⟨options, overridden⟩, configured⟩ := overrides (by simp [arguments])
  cases readable
  have limit : options.maxDepth = 3 := Int.ofNat.inj overridden.limit
  have ignore : options.ignore = ["a"] := overridden.ignore
  have checked := overridden.checked
  rw [show options = ⟨3, ["a"]⟩ from limit ▸ ignore ▸ rfl] at checked
  have enabled := overridden.depth.mpr (.inr (.inr (by simp [arguments])))
  exact ⟨accepted, loaded, by decide, configured, enabled, checked⟩

end CommandLine

end QueryAudit
