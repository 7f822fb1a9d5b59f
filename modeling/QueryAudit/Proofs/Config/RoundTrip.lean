import Mathlib.Data.List.Nodup
import QueryAudit.Config.Basic
import QueryAudit.Proofs.Config.DepthOptions
import QueryAudit.Proofs.Json.Members
import QueryAudit.Proofs.Results

/-! Configurations as they are read and written. Taking in members one by one comes to looking up the
fields, which is why neither the order of the keys nor any other key can change an outcome. A
dictionary is read as a configuration if the configuration reflects it, field by field, and a
configuration that was read reflects what it is written as; so it is read back. -/
namespace QueryAudit

theorem RuleName.ofId?_eq_some_iff {id : String} {rule : RuleName} :
    ofId? id = some rule ↔ rule.id = id := by
  constructor
  · intro found
    simpa using List.find?_some found
  · rintro rfl
    cases rule <;> decide

namespace RuleSetting

/-- The setting that a value states: a flag, or options that may hold the flag. -/
inductive Stated : Json → RuleSetting → Prop where
  | flag : Stated (.bool on) ⟨on, []⟩
  | options : Members.get? "enabled" members = none → Stated (.obj members) ⟨true, members⟩
  | both : Members.get? "enabled" members = some (.bool on) →
      Stated (.obj members) ⟨on, Members.erase "enabled" members⟩

theorem read_eq_ok_iff {rule : String} {value : Json} {setting : RuleSetting} :
    read rule value = .ok setting ↔ Stated value setting := by
  constructor
  · intro accepted
    cases value with
    | bool on =>
      cases accepted
      exact .flag
    | obj members =>
      simp only [read] at accepted
      cases present : Members.get? "enabled" members with
      | none =>
        rw [present] at accepted
        cases accepted
        rw [Members.erase_of_get? present]
        exact .options present
      | some flag =>
        rw [present] at accepted
        cases flag with
        | bool on =>
          cases accepted
          exact .both present
        | _ => cases accepted
    | _ => cases accepted
  · intro stated
    cases stated with
    | flag => rfl
    | options missing => simp [read, missing, Members.erase_of_get? missing]
    | both present => simp [read, present]

theorem Stated.unique {value : Json} {setting other : RuleSetting} (left : Stated value setting)
    (right : Stated value other) : setting = other := by
  have first : read "" value = .ok setting := read_eq_ok_iff.mpr left
  have second : read "" value = .ok other := read_eq_ok_iff.mpr right
  exact Except.ok.inj (first.symm.trans second)

/-- A setting that was stated states itself: no option bears the name of the flag. -/
theorem Stated.toJson {value : Json} {setting : RuleSetting} (stated : Stated value setting) :
    Stated setting.toJson setting := by
  have separate : Members.get? "enabled" setting.options = none := by
    cases stated with
    | flag => rfl
    | options missing => exact missing
    | both present => exact Members.get?_erase_self
  have written : Members.erase "enabled" (("enabled", .bool setting.enabled) :: setting.options) =
      setting.options := by
    simpa [Members.erase] using Members.erase_of_get? separate
  have restated : Stated setting.toJson ⟨setting.enabled,
      Members.erase "enabled" (("enabled", .bool setting.enabled) :: setting.options)⟩ := .both rfl
  rwa [written] at restated

end RuleSetting

namespace Config

/-- The fields of a configuration. -/
def fields : List String := ["schema", "documents", "rules", "base_dir", "log_level", "log_format"]

/-- The members that are fields. -/
def known (members : Members) : Members := members.filter (·.1 ∈ fields)

/-- The patterns that a value gives: one, or a list of them. -/
inductive Patterns : Json → List String → Prop where
  | one : Patterns (.str pattern) [pattern]
  | list : Patterns (.strings patterns) patterns

/-- The setting of a rule by what is said of it, where another one stood before. -/
inductive Settled (standing : RuleSetting) : Option Json → RuleSetting → Prop where
  | stated : RuleSetting.Stated value stated → Settled standing (some value) stated
  | unsaid : Settled standing none standing

/-- The rules are an object that names none but the known ones, and each has its setting. -/
structure Ruled (value : Json) (config : Config) (rules : Members) : Prop where
  object : value = .obj rules
  named : ∀ id ∈ Members.keys rules, ∃ rule : RuleName, rule.id = id
  settled : ∀ rule : RuleName,
    Settled (({} : Config).setting rule) (Members.get? rule.id rules) (config.setting rule)

/-- A configuration holds what members say, with the values that hold where they say nothing. -/
structure Reflects (members : Members) (config : Config) : Prop where
  schema : (Members.get? "schema" members).getD (.str "") = .str config.schema
  documents : Patterns ((Members.get? "documents" members).getD (.arr [])) config.documents
  rules : ∃ rules, Ruled ((Members.get? "rules" members).getD (.obj [])) config rules
  baseDir : (Members.get? "base_dir" members).getD (.str ".") = .str config.baseDir
  logLevel : (Members.get? "log_level" members).getD (.str "WARNING") = .str config.logLevel
  logFormat : (Members.get? "log_format" members).getD (.str "console") = .str config.logFormat
  level : Text.upper config.logLevel ∈ logLevelNames
  format : config.logFormat ∈ logFormatNames

/-- Members as a dictionary has them: each key once, and each rule once. -/
structure Dictionary (members : Members) : Prop where
  keys : (Members.keys members).Nodup
  rules : ∀ rules, Members.get? "rules" members = some (.obj rules) → (Members.keys rules).Nodup

variable {members others entries : Members} {config other : Config} {draft : Draft}

theorem strings_injective : Function.Injective Json.strings := by
  intro texts others same
  have texts_map : texts.map Json.str = others.map Json.str := Json.arr.inj same
  exact List.map_injective_iff.mpr (fun _ _ => Json.str.inj) texts_map

theorem patterns_iff {value : Json} {patterns : List String} :
    Patterns value patterns ↔ Draft.listed value = .strings patterns := by
  constructor
  · intro given
    cases given with
    | one => rfl
    | list => rfl
  · intro same
    cases value with
    | str pattern =>
      cases strings_injective same
      exact .one
    | arr items =>
      cases same
      exact .list
    | _ => cases same

theorem Settled.unique {standing setting other : RuleSetting} {value : Option Json}
    (left : Settled standing value setting) (right : Settled standing value other) :
    setting = other := by
  cases left with
  | stated stated =>
    cases right with
    | stated statedToo => exact stated.unique statedToo
  | unsaid =>
    cases right with
    | unsaid => rfl

theorem eq_of_setting (schema : config.schema = other.schema)
    (documents : config.documents = other.documents)
    (settings : ∀ rule, config.setting rule = other.setting rule)
    (baseDir : config.baseDir = other.baseDir) (logLevel : config.logLevel = other.logLevel)
    (logFormat : config.logFormat = other.logFormat) : config = other := by
  have depth := settings .selectionDepth
  have unused := settings .unusedFields
  cases config
  cases other
  simp_all [setting]

namespace RuleSettings

variable {settings after : RuleSettings} {entry : String × Json}

def setting (settings : RuleSettings) : RuleName → RuleSetting
  | .selectionDepth => settings.depth
  | .unusedFields => settings.unused

theorem setting_put (settings : RuleSettings) (named rule : RuleName) (setting : RuleSetting) :
    (settings.put named setting).setting rule =
      if named = rule then setting else settings.setting rule := by
  cases named <;> cases rule <;> rfl

theorem unknown_put (settings : RuleSettings) (named : RuleName) (setting : RuleSetting) :
    (settings.put named setting).unknown = settings.unknown := by
  cases named <;> rfl

/-- What one entry can do: it settles its rule, or its id is noted as one that no rule has. -/
theorem assign_cases (done : settings.assign entry = .ok after) : ∃ stated,
    RuleSetting.Stated entry.2 stated ∧
      ((∃ rule : RuleName, rule.id = entry.1 ∧ after = settings.put rule stated) ∨
        (∀ rule : RuleName, rule.id ≠ entry.1) ∧
          after = { settings with unknown := settings.unknown ++ [entry.1] }) := by
  obtain ⟨stated, read, done⟩ := ok_of_bind done
  refine ⟨stated, RuleSetting.read_eq_ok_iff.mp read, ?_⟩
  cases found : RuleName.ofId? entry.1 with
  | some rule =>
    rw [found] at done
    cases done
    exact .inl ⟨rule, RuleName.ofId?_eq_some_iff.mp found, rfl⟩
  | none =>
    rw [found] at done
    cases done
    refine .inr ⟨fun rule same => ?_, rfl⟩
    rw [RuleName.ofId?_eq_some_iff.mpr same] at found
    cases found

theorem assign_of_stated {rule : RuleName} {stated : RuleSetting} (same : rule.id = entry.1)
    (states : RuleSetting.Stated entry.2 stated) :
    settings.assign entry = .ok (settings.put rule stated) := by
  rw [assign, RuleSetting.read_eq_ok_iff.mpr states, RuleName.ofId?_eq_some_iff.mpr same]
  rfl

theorem setting_assign (done : settings.assign entry = .ok after) (rule : RuleName) :
    (entry.1 = rule.id ∧ RuleSetting.Stated entry.2 (after.setting rule)) ∨
      (entry.1 ≠ rule.id ∧ after.setting rule = settings.setting rule) := by
  obtain ⟨stated, states, ⟨named, same, rfl⟩ | ⟨unnamed, rfl⟩⟩ := assign_cases done
  · rw [setting_put]
    by_cases here : named = rule
    · rw [if_pos here, ← here]
      exact .inl ⟨same.symm, states⟩
    · rw [if_neg here]
      refine .inr ⟨fun eq => here ?_, rfl⟩
      have first := RuleName.ofId?_eq_some_iff.mpr (same.trans eq)
      exact Option.some.inj (first.symm.trans (RuleName.ofId?_eq_some_iff.mpr rfl))
  · refine .inr ⟨fun eq => unnamed rule eq.symm, ?_⟩
    cases rule <;> rfl

/-- Each rule ends up with the setting that is stated for its id, if there is one. -/
theorem settled_foldlM (distinct : (Members.keys entries).Nodup)
    (done : entries.foldlM assign settings = .ok after) (rule : RuleName) :
    Settled (settings.setting rule) (Members.get? rule.id entries) (after.setting rule) := by
  induction entries generalizing settings with
  | nil =>
    cases done
    exact .unsaid
  | cons entry rest ih =>
    obtain ⟨first, others⟩ := List.nodup_cons.mp distinct
    rw [List.foldlM_cons] at done
    obtain ⟨next, taken, done⟩ := ok_of_bind done
    have later := ih others done
    rw [Members.get?_cons]
    rcases setting_assign taken rule with ⟨here, states⟩ | ⟨apart, kept⟩
    · -- no later entry has the id, so what is stated here stays
      rw [Members.get?_eq_none_iff.mpr (here ▸ first)] at later
      rw [if_pos here]
      generalize after.setting rule = last at later
      cases later
      exact .stated states
    · rw [if_neg apart, ← kept]
      exact later

/-- If no id is noted at the end, each is the id of a rule. -/
theorem named_of_foldlM (done : entries.foldlM assign settings = .ok after)
    (none : after.unknown = []) :
    settings.unknown = [] ∧ ∀ id ∈ Members.keys entries, ∃ rule : RuleName, rule.id = id := by
  induction entries generalizing settings with
  | nil =>
    cases done
    exact ⟨none, by simp [Members.keys]⟩
  | cons entry rest ih =>
    rw [List.foldlM_cons] at done
    obtain ⟨next, taken, done⟩ := ok_of_bind done
    obtain ⟨before, later⟩ := ih done
    obtain ⟨stated, _, ⟨rule, same, rfl⟩ | ⟨_, rfl⟩⟩ := assign_cases taken
    · rw [unknown_put] at before
      exact ⟨before, List.forall_mem_cons.mpr ⟨⟨rule, same⟩, later⟩⟩
    · simp at before

/-- Entries that settle known rules are all taken in. -/
theorem exists_foldlM (each : ∀ entry ∈ entries, (∃ rule : RuleName, rule.id = entry.1) ∧
    ∃ stated, RuleSetting.Stated entry.2 stated) (settings : RuleSettings) :
    ∃ after, entries.foldlM assign settings = .ok after ∧ after.unknown = settings.unknown := by
  induction entries generalizing settings with
  | nil => exact ⟨settings, rfl, rfl⟩
  | cons entry rest ih =>
    obtain ⟨⟨⟨rule, same⟩, stated, states⟩, others⟩ := List.forall_mem_cons.mp each
    obtain ⟨after, done, unknown⟩ := ih others (settings.put rule stated)
    rw [unknown_put] at unknown
    refine ⟨after, ?_, unknown⟩
    rw [List.foldlM_cons, assign_of_stated same states]
    exact done

theorem elim_take_eq_ok_iff {value : Option Json} :
    value.elim (.ok settings) settings.take = .ok after ↔ ∃ entries,
      value.getD (.obj []) = .obj entries ∧ entries.foldlM assign settings = .ok after := by
  cases value with
  | none =>
    constructor
    · exact fun same => ⟨[], rfl, same⟩
    · rintro ⟨entries, empty, done⟩
      cases empty
      exact done
  | some value => cases value <;> simp [take]

end RuleSettings

theorem setting_draft (config : Config) (rule : RuleName) :
    config.draft.rules.setting rule = config.setting rule := by
  cases rule <;> rfl

namespace Draft

/-- What a draft becomes by looking up each field among members. -/
def lookUp (draft : Draft) (members : Members) : Except ConfigError Draft := do
  let rules ← (Members.get? "rules" members).elim (.ok draft.rules) draft.rules.take
  return {
    rules
    schema := (Members.get? "schema" members).getD draft.schema
    documents := ((Members.get? "documents" members).map listed).getD draft.documents
    baseDir := (Members.get? "base_dir" members).getD draft.baseDir
    logLevel := (Members.get? "log_level" members).getD draft.logLevel
    logFormat := (Members.get? "log_format" members).getD draft.logFormat }

theorem take_of_not_field {member : String × Json} (other : member.1 ∉ fields) :
    draft.take member = .ok draft := by
  simp only [fields, List.mem_cons, List.not_mem_nil, or_false, not_or] at other
  simp [take, other]

/-- Taking in one member and looking up the others is looking up all. -/
theorem lookUp_cons {member : String × Json} {rest : Members}
    (fresh : Members.get? member.1 rest = none) (draft : Draft) :
    draft.take member >>= (lookUp · rest) = draft.lookUp (member :: rest) := by
  obtain ⟨key, value⟩ := member
  by_cases field : key ∈ fields
  · simp only [fields, List.mem_cons, List.not_mem_nil, or_false] at field
    rcases field with rfl | rfl | rfl | rfl | rfl | rfl <;>
      simp [take, lookUp, fresh, ok_bind, -bind_pure_comp]
  · rw [take_of_not_field field]
    simp only [fields, List.mem_cons, List.not_mem_nil, or_false, not_or] at field
    simp [lookUp, field, ok_bind]

/-- Members that are taken in one by one come to what is looked up among them. -/
theorem foldlM_take (distinct : (Members.keys members).Nodup) (draft : Draft) :
    members.foldlM take draft = draft.lookUp members := by
  induction members generalizing draft with
  | nil => rfl
  | cons member rest ih =>
    obtain ⟨first, others⟩ := List.nodup_cons.mp distinct
    rw [List.foldlM_cons, funext (ih others)]
    exact lookUp_cons (Members.get?_eq_none_iff.mpr first) draft

/-- Only the members that are fields are taken in. -/
theorem foldlM_take_known (members : Members) (draft : Draft) :
    (known members).foldlM take draft = members.foldlM take draft := by
  induction members generalizing draft with
  | nil => rfl
  | cons member rest ih =>
    rw [known, List.filter_cons, List.foldlM_cons]
    by_cases field : member.1 ∈ fields
    · rw [if_pos (decide_eq_true field), List.foldlM_cons]
      exact congrArg _ (funext ih)
    · rw [if_neg (by simpa using field), take_of_not_field field]
      exact ih draft

/-- A draft whose values pass, with the configuration that they make. -/
structure Passes (draft : Draft) (config : Config) : Prop where
  schema : draft.schema = .str config.schema
  documents : draft.documents = .strings config.documents
  settings : ∀ rule, draft.rules.setting rule = config.setting rule
  unknown : draft.rules.unknown = []
  baseDir : draft.baseDir = .str config.baseDir
  logLevel : draft.logLevel = .str config.logLevel
  logFormat : draft.logFormat = .str config.logFormat
  level : Text.upper config.logLevel ∈ logLevelNames
  format : config.logFormat ∈ logFormatNames

theorem text_eq_ok_iff {key : String} {value : Json} {found : String} :
    text key value = .ok found ↔ value = .str found := by
  cases value <;> simp [text]

theorem patterns_eq_ok_iff {value : Json} {found : List String} :
    patterns value = .ok found ↔ value = .strings found := by
  rw [patterns, Json.strings]
  cases value with
  | arr items =>
    rw [Json.arr.injEq, ← Json.mapM_asString?_eq_some_iff]
    rw [Json.asArray?, Option.bind_some]
    cases items.mapM Json.asString? <;> simp
  | _ => simp [Json.asArray?]

theorem check_eq_ok_iff {holds : Bool} {error : ConfigError} {done : Unit} :
    check holds error = .ok done ↔ holds = true := by
  cases holds <;> simp [check]

theorem finish_eq_ok_iff : draft.finish = .ok config ↔ draft.Passes config := by
  simp only [finish, bind_eq_ok_iff, text_eq_ok_iff, patterns_eq_ok_iff, check_eq_ok_iff,
    decide_eq_true_eq, List.isEmpty_iff]
  constructor
  · rintro ⟨schema, isSchema, baseDir, isBaseDir, logLevel, isLevel, logFormat, isFormat, documents,
      listed, _, level, _, format, _, unknown, made⟩
    cases made
    refine ⟨isSchema, listed, fun rule => ?_, unknown, isBaseDir, isLevel, isFormat, level, format⟩
    cases rule <;> rfl
  · intro passes
    refine ⟨_, passes.schema, _, passes.baseDir, _, passes.logLevel, _, passes.logFormat, _,
      passes.documents, (), passes.level, (), passes.format, (), passes.unknown, ?_⟩
    refine congrArg Except.ok (eq_of_setting rfl rfl (fun rule => ?_) rfl rfl rfl)
    rw [← passes.settings rule]
    cases rule <;> rfl

end Draft

theorem read_eq_ok_iff : read (.obj members) = .ok config ↔
    readMembers members = .ok config ∧ ∃ options, config.depthOptions = .ok options := by
  rw [read]
  cases readMembers members with
  | error e => simp
  | ok found =>
    simp only [validate, bind_eq_ok_iff, Except.ok.injEq]
    constructor
    · rintro ⟨options, accepted, same⟩
      cases same
      exact ⟨rfl, options, accepted⟩
    · rintro ⟨rfl, options, accepted⟩
      exact ⟨options, accepted, rfl⟩

theorem Dictionary.rules_nodup (dictionary : Dictionary members)
    (object : (Members.get? "rules" members).getD (.obj []) = .obj entries) :
    (Members.keys entries).Nodup := by
  cases given : Members.get? "rules" members with
  | none =>
    rw [given] at object
    cases object
    exact List.nodup_nil
  | some value =>
    rw [given] at object
    cases object
    exact dictionary.rules entries given

/-- What is read reflects what it is read from. -/
theorem reflects_of_readMembers (dictionary : Dictionary members)
    (accepted : readMembers members = .ok config) : Reflects members config := by
  obtain ⟨draft, taken, finished⟩ := ok_of_bind accepted
  rw [Draft.foldlM_take dictionary.keys] at taken
  obtain ⟨rules, read, made⟩ := ok_of_bind taken
  obtain ⟨entries, object, read⟩ := RuleSettings.elim_take_eq_ok_iff.mp read
  cases made
  have passes := Draft.finish_eq_ok_iff.mp finished
  refine ⟨passes.schema, patterns_iff.mpr ?_, ⟨entries, object, ?_, fun rule => ?_⟩, passes.baseDir,
    passes.logLevel, passes.logFormat, passes.level, passes.format⟩
  · rw [← passes.documents]
    exact (Option.getD_map _ _ _).symm
  · exact (RuleSettings.named_of_foldlM read passes.unknown).2
  · rw [← setting_draft, ← passes.settings rule]
    exact RuleSettings.settled_foldlM (dictionary.rules_nodup object) read rule

/-- A configuration is read from whatever it reflects. -/
theorem Reflects.readMembers (reflects : Reflects members config)
    (dictionary : Dictionary members) : readMembers members = .ok config := by
  obtain ⟨entries, object, named, settled⟩ := reflects.rules
  have distinct := dictionary.rules_nodup object
  have each : ∀ entry ∈ entries, (∃ rule : RuleName, rule.id = entry.1) ∧
      ∃ stated, RuleSetting.Stated entry.2 stated := by
    intro entry member
    obtain ⟨rule, same⟩ := named entry.1 (List.mem_map_of_mem member)
    have present : Members.get? rule.id entries = some entry.2 :=
      (Members.get?_eq_some_iff distinct).mpr (by simpa [same] using member)
    have said := settled rule
    rw [present] at said
    cases said with
    | stated stated => exact ⟨⟨rule, same⟩, _, stated⟩
  obtain ⟨rules, read, unknown⟩ := RuleSettings.exists_foldlM each ({} : Config).draft.rules
  rw [Config.readMembers, Draft.foldlM_take dictionary.keys, Draft.lookUp,
    RuleSettings.elim_take_eq_ok_iff.mpr ⟨entries, object, read⟩]
  refine Draft.finish_eq_ok_iff.mpr ⟨reflects.schema, ?_, fun rule => ?_, unknown, reflects.baseDir,
    reflects.logLevel, reflects.logFormat, reflects.level, reflects.format⟩
  · rw [← patterns_iff.mp reflects.documents]
    exact Option.getD_map Draft.listed (.arr []) (Members.get? "documents" members)
  · have found := RuleSettings.settled_foldlM distinct read rule
    rw [setting_draft] at found
    exact found.unique (settled rule)

theorem readMembers_iff_reflects (dictionary : Dictionary members) :
    Config.readMembers members = .ok config ↔ Reflects members config :=
  ⟨reflects_of_readMembers dictionary, fun reflects => reflects.readMembers dictionary⟩

theorem dictionary_written (config : Config) : Dictionary config.written where
  keys := by
    change fields.Nodup
    decide
  rules rules written := by
    cases written
    change (RuleName.all.map (·.id)).Nodup
    decide

theorem stated_default (rule : RuleName) :
    RuleSetting.Stated (({} : Config).setting rule).toJson (({} : Config).setting rule) := by
  cases rule with
  | selectionDepth => exact (RuleSetting.Stated.options rfl).toJson
  | unusedFields => exact RuleSetting.Stated.flag.toJson

theorem Settled.toJson {rule : RuleName} {value : Option Json} {setting : RuleSetting}
    (settled : Settled (({} : Config).setting rule) value setting) :
    RuleSetting.Stated setting.toJson setting := by
  cases settled with
  | stated stated => exact stated.toJson
  | unsaid => exact stated_default rule

/-- What reflects anything reflects what it is written as. -/
theorem Reflects.written (reflects : Reflects members config) :
    Reflects config.written config := by
  obtain ⟨rules, _, _, settled⟩ := reflects.rules
  refine ⟨rfl, .list, ⟨_, rfl, ?_, fun rule => ?_⟩, rfl, rfl, rfl, reflects.level, reflects.format⟩
  · intro id member
    obtain ⟨rule, _, same⟩ := List.mem_map.mp (by simpa [Members.keys] using member)
    exact ⟨rule, same⟩
  · have stated := (settled rule).toJson
    cases rule with
    | selectionDepth => exact .stated stated
    | unusedFields => exact .stated stated

theorem lookUp_perm (distinct : (Members.keys members).Nodup) (reordered : members.Perm others)
    (draft : Draft) : draft.lookUp members = draft.lookUp others := by
  have same (key : String) : Members.get? key members = Members.get? key others :=
    Members.get?_perm distinct reordered
  simp only [Draft.lookUp, same]

theorem read_known_perm (distinct : (Members.keys members).Nodup)
    (reordered : (known others).Perm (known members)) :
    read (.obj others) = read (.obj members) := by
  have knownDistinct : (Members.keys (known members)).Nodup :=
    distinct.sublist (List.filter_sublist.map _)
  have othersDistinct : (Members.keys (known others)).Nodup :=
    (reordered.map _).nodup_iff.mpr knownDistinct
  have taken (draft : Draft) : others.foldlM Draft.take draft = members.foldlM Draft.take draft := by
    rw [← Draft.foldlM_take_known others, ← Draft.foldlM_take_known members,
      Draft.foldlM_take othersDistinct, Draft.foldlM_take knownDistinct]
    exact lookUp_perm othersDistinct reordered draft
  rw [read, read, Config.readMembers, Config.readMembers, taken]

/-- What is known of whatever is read. -/
structure Faithful (members : Members) : Prop where
  /-- A configuration is read if it reflects the members and its limits on depth can be read. -/
  accepted : ∀ config, read (.obj members) = .ok config ↔
    Reflects members config ∧ ∃ options, config.depthOptions = .ok options
  /-- It is read back from what it is written as. -/
  back : ∀ config, read (.obj members) = .ok config → read config.toJson = .ok config
  /-- The rules that are enabled run, the one on depth first. -/
  order : ∀ config, read (.obj members) = .ok config →
    config.enabledRules.Sublist [.selectionDepth, .unusedFields] ∧
    ∀ rule, rule ∈ config.enabledRules ↔ (config.setting rule).enabled
  /-- Other orders of the keys and other keys that are no fields have the same outcome. -/
  insensitive : ∀ others, (known others).Perm (known members) →
    read (.obj others) = read (.obj members)

theorem read_faithful (dictionary : Dictionary members) : Faithful members where
  accepted config := by
    rw [read_eq_ok_iff, readMembers_iff_reflects dictionary]
  back config accepted := by
    obtain ⟨accepted, limits⟩ := read_eq_ok_iff.mp accepted
    have reflects := (reflects_of_readMembers dictionary accepted).written
    exact read_eq_ok_iff.mpr
      ⟨(readMembers_iff_reflects config.dictionary_written).mpr reflects, limits⟩
  order config _ := by
    refine ⟨List.filter_sublist, fun rule => ?_⟩
    have listed : rule ∈ RuleName.all := by cases rule <;> simp [RuleName.all]
    simp [enabledRules, listed]
  insensitive others reordered := read_known_perm dictionary.keys reordered

/-- Rules in the other order, a flag among options, a single pattern and a key that is no field. -/
def stirred : Members :=
  [("rules", .obj [("no-unused-fields", .obj [("strict", .null), ("enabled", .bool true)]),
      ("selection-set-depth", .obj [("max_depth", .ofNat 0), ("ignore", .str "ab")])]),
    ("theme", .arr [.bool false]), ("log_level", .str "info"), ("documents", .str "*.graphql")]

theorem stirred_faithful :
    let config : Config :=
      { documents := ["*.graphql"], logLevel := "info"
        depth := ⟨true, [("max_depth", .ofNat 0), ("ignore", .str "ab")]⟩
        unused := ⟨true, [("strict", .null)]⟩ }
    Dictionary stirred ∧ read (.obj stirred) = .ok config ∧ read config.toJson = .ok config ∧
      config.enabledRules = [.selectionDepth, .unusedFields] ∧
      read (.obj (("colour", .null) :: (known stirred).reverse)) = .ok config := by
  intro config
  have dictionary : Dictionary stirred := by
    refine ⟨by decide, fun rules given => ?_⟩
    cases given
    decide
  have accepted : read (.obj stirred) = .ok config := ok_of_toOption (by decide +kernel)
  have faithful := read_faithful dictionary
  have reordered : known (("colour", .null) :: (known stirred).reverse) =
      (known stirred).reverse := by decide
  refine ⟨dictionary, accepted, faithful.back config accepted, by decide, ?_⟩
  rw [faithful.insensitive _ (reordered ▸ List.reverse_perm _), accepted]

end Config

end QueryAudit
