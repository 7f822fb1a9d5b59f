import QueryAudit.Depth.Limits
import QueryAudit.Files.Error
import QueryAudit.Json.Reader

/-! What can be wrong with a configuration. -/
namespace QueryAudit

/-- The rules that a configuration knows, in the order they run. -/
inductive RuleName where
  | selectionDepth
  | unusedFields
deriving DecidableEq, Repr, Inhabited

namespace RuleName

def id : RuleName → String
  | selectionDepth => "selection-set-depth"
  | unusedFields => "no-unused-fields"

def all : List RuleName := [selectionDepth, unusedFields]

def ofId? (id : String) : Option RuleName := all.find? (·.id = id)

end RuleName

def logLevelNames : List String := ["DEBUG", "INFO", "WARN", "WARNING", "ERROR"]

def logFormatNames : List String := ["console", "json"]

inductive ConfigError where
  /-- Limits that fail where depths are measured. -/
  | limits (error : DepthLimitsError)
  | maxDepth (value : Json)
  | ignoreNames
  | enabledFlag (rule : String)
  | ruleValue (rule : String) (value : Json)
  | rulesValue
  | notText (key : String) (value : Json)
  | documents
  | logLevel
  | logFormat
  | unknownRules (rules : List String)
  | unreadable (path : String) (error : FileError)
  | invalidJson (path : String) (error : Json.ReadError)
  | notObject (path : String)
deriving Repr

def ConfigError.message : ConfigError → String
  | limits error => error.message
  | maxDepth value => RuleName.selectionDepth.id ++
    ": maxDepth must be a non-negative integer, got " ++ value.quoted
  | ignoreNames => RuleName.selectionDepth.id ++ ": ignore must be a list of field names"
  | enabledFlag rule => s!"{rule}: enabled must be a boolean"
  | ruleValue rule value =>
    s!"{rule}: expected a boolean or an options object, got {value.quoted}"
  | rulesValue => "rules must be an object keyed by rule id"
  | notText key value => s!"{key} must be a string, got {value.quoted}"
  | documents => "documents must be a list of glob patterns"
  | logLevel => "log_level must be one of " ++ ", ".intercalate logLevelNames
  | logFormat => "log_format must be one of " ++ ", ".intercalate logFormatNames
  | unknownRules rules => "Unknown rules: " ++ ", ".intercalate rules
  | unreadable path error => s!"Cannot read config {path}: {error.message}"
  | invalidJson path error => s!"Invalid JSON in config {path}: {error.message}"
  | notObject path => s!"Config {path} must contain a JSON object"

/-- A configuration that cannot be had: a reported error, or a value of a shape that nobody
foresaw, which stops whoever asked for it. -/
inductive ConfigFailure where
  | reported (error : ConfigError)
  /-- A list is wanted, and the value has nothing to list. -/
  | notListable
  /-- An object is wanted. -/
  | notObject
  | undecodable
  /-- The path of the file holds a character that no path can. -/
  | nullCharacter
  /-- A number in the file has too many digits. -/
  | longNumber
deriving Repr

def ConfigFailure.ofLimits : DepthLimitsFailure → ConfigFailure
  | .reported error => .reported (.limits error)
  | .notListable => .notListable

end QueryAudit
