import QueryAudit.Source.Label

/-! What an analysis tells about its work: events, and values that come with the events met on
the way to them. -/
namespace QueryAudit

inductive Level where
  | debug
  | info
  | warning
  | error
deriving DecidableEq, Repr, Inhabited

def Level.word : Level → String
  | debug => "debug"
  | info => "info"
  | warning => "warning"
  | error => "error"

/-- The weight by which levels are compared. -/
def Level.weight : Level → Nat
  | debug => 10
  | info => 20
  | warning => 30
  | error => 40

inductive Event where
  | schemaLoaded (source : Label) (types : Nat)
  | patternMatchedNothing (pattern : String)
  | documentLoadFailed (path : Label) (error : String)
  | documentsLoaded (count failed : Nat)
  | corpusIndexed (operations fragments : Nat)
  | duplicateFragment (fragment : String) (previous current : Label)
  | fragmentNotFound (fragment : String) (source : Label)
  | usedFieldsComputed (documents selections types : Nat)
  | usedFieldsCacheHit (documents : Nat)
  | siblingsUnavailable (rules : List Label)
  | ruleStarted (rule : Label)
  | ruleFailed (rule : Label) (target : String)
  | analysisFinished (diagnostics failures : Nat)
deriving DecidableEq, Repr, Inhabited

namespace Event

def name : Event → String
  | schemaLoaded .. => "schema_loaded"
  | patternMatchedNothing _ => "pattern_matched_nothing"
  | documentLoadFailed .. => "document_load_failed"
  | documentsLoaded .. => "documents_loaded"
  | corpusIndexed .. => "corpus_indexed"
  | duplicateFragment .. => "duplicate_fragment"
  | fragmentNotFound .. => "fragment_not_found"
  | usedFieldsComputed .. => "used_fields_computed"
  | usedFieldsCacheHit _ => "used_fields_cache_hit"
  | siblingsUnavailable _ => "siblings_unavailable"
  | ruleStarted _ => "rule_started"
  | ruleFailed .. => "rule_failed"
  | analysisFinished .. => "analysis_finished"

def level : Event → Level
  | schemaLoaded .. | documentsLoaded .. | corpusIndexed .. | fragmentNotFound ..
  | usedFieldsComputed .. | usedFieldsCacheHit _ | ruleStarted _ => .debug
  | analysisFinished .. => .info
  | patternMatchedNothing _ | documentLoadFailed .. | duplicateFragment ..
  | siblingsUnavailable _ => .warning
  | ruleFailed .. => .error

/-- What an event says besides its name, in a fixed order. -/
def fields : Event → Members
  | schemaLoaded source types => [("source", source.value), ("types", .ofNat types)]
  | patternMatchedNothing pattern => [("pattern", .str pattern)]
  | documentLoadFailed path error => [("path", path.value), ("error", .str error)]
  | documentsLoaded count failed => [("count", .ofNat count), ("failed", .ofNat failed)]
  | corpusIndexed operations fragments =>
    [("operations", .ofNat operations), ("fragments", .ofNat fragments)]
  | duplicateFragment fragment previous current =>
    [("fragment", .str fragment), ("previous", previous.value), ("current", current.value)]
  | fragmentNotFound fragment source => [("fragment", .str fragment), ("source", source.value)]
  | usedFieldsComputed documents selections types =>
    [("documents", .ofNat documents), ("selections", .ofNat selections), ("types", .ofNat types)]
  | usedFieldsCacheHit documents => [("documents", .ofNat documents)]
  | siblingsUnavailable rules =>
    [("rules", .arr (rules.map (·.value))),
      ("hint", .str "no operation or fragment documents were loaded")]
  | ruleStarted rule => [("rule", rule.value)]
  | ruleFailed rule target =>
    [("rule", rule.value), ("target", .str target), ("exc_info", .bool true)]
  | analysisFinished diagnostics failures =>
    [("diagnostics", .ofNat diagnostics), ("failures", .ofNat failures)]

end Event

/-- A value and the events met on the way to it, in order. -/
structure Logged (α : Type) where
  events : List Event
  value : α
deriving Repr, Inhabited

namespace Logged

protected def pure (value : α) : Logged α := ⟨[], value⟩

protected def bind (first : Logged α) (next : α → Logged β) : Logged β :=
  let second := next first.value
  ⟨first.events ++ second.events, second.value⟩

instance : Monad Logged where
  pure := Logged.pure
  bind := Logged.bind

/-- Tells a single event. -/
def tell (event : Event) : Logged Unit := ⟨[event], ()⟩

@[simp] theorem events_pure (value : α) : (pure value : Logged α).events = [] := rfl

@[simp] theorem value_pure (value : α) : (pure value : Logged α).value = value := rfl

@[simp] theorem events_bind (first : Logged α) (next : α → Logged β) :
    (first >>= next).events = first.events ++ (next first.value).events := rfl

@[simp] theorem value_bind (first : Logged α) (next : α → Logged β) :
    (first >>= next).value = (next first.value).value := rfl

end Logged

end QueryAudit
