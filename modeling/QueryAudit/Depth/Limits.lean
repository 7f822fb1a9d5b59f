import QueryAudit.Json.Basic
import QueryAudit.Pattern.Match

/-! How deep a selection may nest, and which fields open no level. -/
namespace QueryAudit

inductive IgnoreRule where
  | name (name : String)
  | pattern (pattern : Pattern)
deriving DecidableEq, Repr, Inhabited

def IgnoreRule.covers (fieldName : String) : IgnoreRule → Bool
  | name n => n == fieldName
  | pattern p => p.fullMatch fieldName

structure DepthLimits where
  maxDepth : Nat
  ignore : List IgnoreRule := []
deriving DecidableEq, Repr, Inhabited

def DepthLimits.isIgnored (limits : DepthLimits) (fieldName : String) : Bool :=
  limits.ignore.any (·.covers fieldName)

/-- Values that are no limits. -/
inductive DepthLimitsError where
  | maxDepth (value : Json)
  | ignoreEntry (value : Json)
deriving Repr

def DepthLimitsError.message : DepthLimitsError → String
  | maxDepth value => s!"max_depth must be a non-negative integer, got {value.quoted}"
  | ignoreEntry value => s!"ignore entries must be strings or patterns, got {value.quoted}"

/-- Limits that cannot be had: a reported error, or nothing to list where entries should be. -/
inductive DepthLimitsFailure where
  | reported (error : DepthLimitsError)
  | notListable
deriving Repr

/-- An entry of an ignore list before it is checked. -/
inductive IgnoreEntry where
  | value (value : Json)
  | pattern (pattern : Pattern)
deriving Repr, Inhabited

def IgnoreEntry.rule : IgnoreEntry → Except DepthLimitsError IgnoreRule
  | value (.str name) => .ok (.name name)
  | value other => .error (.ignoreEntry other)
  | pattern p => .ok (.pattern p)

/-- Checks the limit first, then the entries in order, if something lists them. -/
def DepthLimits.ofValues (maxDepth : Json) (ignore : Option (List IgnoreEntry)) :
    Except DepthLimitsFailure DepthLimits :=
  match maxDepth.asNat?, ignore with
  | none, _ => .error (.reported (.maxDepth maxDepth))
  | some _, none => .error .notListable
  | some depth, some entries => do
    let rules ← (entries.mapM IgnoreEntry.rule).mapError .reported
    return ⟨depth, rules⟩

end QueryAudit
