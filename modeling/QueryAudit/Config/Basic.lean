import QueryAudit.Config.Depth
import QueryAudit.Event
import QueryAudit.Text.Upper

/-! Configurations. The members of an object are taken in one by one, and keys that no one knows are
ignored. Only then the values are checked in a fixed order, and last the options of the depth
rule. -/
namespace QueryAudit

/-- Whether a rule runs, and its options. -/
structure RuleSetting where
  enabled : Bool := true
  options : Members := []
deriving DecidableEq, Repr, Inhabited

/-- A boolean, or an object of options that may say whether the rule is enabled. -/
def RuleSetting.read (rule : String) : Json → Except ConfigError RuleSetting
  | .bool enabled => .ok { enabled }
  | .obj members =>
    match (Members.get? "enabled" members).getD (.bool true) with
    | .bool enabled => .ok ⟨enabled, Members.erase "enabled" members⟩
    | _ => .error (.enabledFlag rule)
  | value => .error (.ruleValue rule value)

def RuleSetting.toJson (setting : RuleSetting) : Json :=
  .obj (("enabled", .bool setting.enabled) :: setting.options)

structure Config where
  schema : String := ""
  documents : List String := []
  depth : RuleSetting := ⟨true, [("maxDepth", .ofNat DepthOptions.defaultMaxDepth)]⟩
  unused : RuleSetting := ⟨false, []⟩
  baseDir : String := "."
  logLevel : String := "WARNING"
  logFormat : String := "console"
deriving DecidableEq, Repr, Inhabited

namespace Config

def setting (config : Config) : RuleName → RuleSetting
  | .selectionDepth => config.depth
  | .unusedFields => config.unused

def depthOptions (config : Config) : Except ConfigFailure DepthOptions :=
  DepthOptions.read config.depth.options

def isEnabled (config : Config) (id : String) : Bool :=
  (RuleName.ofId? id).any fun rule => (config.setting rule).enabled

def enabledRules (config : Config) : List RuleName :=
  RuleName.all.filter fun rule => (config.setting rule).enabled

/-- The settings of the rules while they are read, and the ids that no rule has. -/
structure RuleSettings where
  depth : RuleSetting
  unused : RuleSetting
  unknown : List String := []
deriving Repr

namespace RuleSettings

def put (settings : RuleSettings) (rule : RuleName) (setting : RuleSetting) : RuleSettings :=
  match rule with
  | .selectionDepth => { settings with depth := setting }
  | .unusedFields => { settings with unused := setting }

/-- Gives the rule of an id the setting that a value states. -/
def assign (settings : RuleSettings) (entry : String × Json) : Except ConfigError RuleSettings := do
  let setting ← RuleSetting.read entry.1 entry.2
  match RuleName.ofId? entry.1 with
  | some rule => return settings.put rule setting
  | none => return { settings with unknown := settings.unknown ++ [entry.1] }

/-- Takes in an object of settings by ids, one after the other. -/
def take (settings : RuleSettings) : Json → Except ConfigError RuleSettings
  | .obj entries => entries.foldlM assign settings
  | _ => .error .rulesValue

end RuleSettings

/-- A configuration while its members are taken in. Other values than settings are not checked
yet. -/
structure Draft where
  schema : Json
  documents : Json
  rules : RuleSettings
  baseDir : Json
  logLevel : Json
  logFormat : Json
deriving Repr

def draft (config : Config) : Draft where
  schema := .str config.schema
  documents := .strings config.documents
  rules := { depth := config.depth, unused := config.unused }
  baseDir := .str config.baseDir
  logLevel := .str config.logLevel
  logFormat := .str config.logFormat

namespace Draft

/-- A single pattern is a list of one. -/
def listed : Json → Json
  | .str pattern => .strings [pattern]
  | value => value

/-- Takes in one member. A key that is no field changes nothing. -/
def take (draft : Draft) (member : String × Json) : Except ConfigError Draft :=
  match member.1 with
  | "rules" => do
    let rules ← draft.rules.take member.2
    return { draft with rules }
  | "documents" => .ok { draft with documents := listed member.2 }
  | "schema" => .ok { draft with schema := member.2 }
  | "base_dir" => .ok { draft with baseDir := member.2 }
  | "log_level" => .ok { draft with logLevel := member.2 }
  | "log_format" => .ok { draft with logFormat := member.2 }
  | _ => .ok draft

def text (key : String) : Json → Except ConfigError String
  | .str s => .ok s
  | value => .error (.notText key value)

def patterns (value : Json) : Except ConfigError (List String) :=
  match value.asArray?.bind (·.mapM (·.asString?)) with
  | some patterns => .ok patterns
  | none => .error .documents

def check (holds : Bool) (error : ConfigError) : Except ConfigError Unit :=
  if holds then .ok () else .error error

/-- The configuration that a draft comes to, if all of its values pass. -/
def finish (draft : Draft) : Except ConfigError Config := do
  let schema ← text "schema" draft.schema
  let baseDir ← text "base_dir" draft.baseDir
  let logLevel ← text "log_level" draft.logLevel
  let logFormat ← text "log_format" draft.logFormat
  let documents ← patterns draft.documents
  check (Text.upper logLevel ∈ logLevelNames) .logLevel
  check (logFormat ∈ logFormatNames) .logFormat
  let unknown := draft.rules.unknown
  check unknown.isEmpty (.unknownRules (unknown.mergeSort fun a b => decide (a ≤ b)))
  let { depth, unused, .. } := draft.rules
  return { schema, documents, depth, unused, baseDir, logLevel, logFormat }

end Draft

/-- Everything but the options of the depth rule. -/
def readMembers (members : Members) : Except ConfigError Config := do
  let draft ← members.foldlM Draft.take ({} : Config).draft
  draft.finish

/-- Checks what is left to check of a configuration: the options of the depth rule. -/
def validate (config : Config) : Except ConfigFailure Config := do
  let _ ← config.depthOptions
  return config

def read (value : Json) : Except ConfigFailure Config :=
  match value with
  | .obj members =>
    match readMembers members with
    | .ok config => config.validate
    | .error e => .error (.reported e)
  | _ => .error .notObject

/-- The members that a configuration is written as. -/
def written (config : Config) : Members :=
  [("schema", .str config.schema), ("documents", .strings config.documents),
    ("rules", .obj (RuleName.all.map fun rule => (rule.id, (config.setting rule).toJson))),
    ("base_dir", .str config.baseDir), ("log_level", .str config.logLevel),
    ("log_format", .str config.logFormat)]

def toJson (config : Config) : Json := .obj config.written

end Config

/-- The level of a name; an unknown name stands for the level of information. -/
def Level.ofName (name : String) : Level :=
  match Text.upper name with
  | "DEBUG" => .debug
  | "WARN" | "WARNING" => .warning
  | "ERROR" => .error
  | _ => .info

end QueryAudit
