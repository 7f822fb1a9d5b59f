import QueryAudit.Config.Basic
import QueryAudit.Report.Basic
import QueryAudit.Corpus.Closure
import QueryAudit.UsedFields.Cache

/-! Rules and the session they run in. A session holds a schema, a corpus and a configuration, and
work in it may fill the store of used fields and tells events. -/
namespace QueryAudit

structure Session where
  schema : Ref Schema
  index : Ref CorpusIndex
  config : Config
deriving Repr, Inhabited

namespace Session

/-- Work in a session, from the store of used fields before to the one after. -/
abbrev Work (α : Type) := StateT UsedFields.Cache Logged α

def logged (result : Logged α) : Work α := fun cache => ⟨result.events, (result.value, cache)⟩

def tell (event : Event) : Work Unit := logged (.tell event)

def usedFields (session : Session) : Work UsedFields := do
  let used ← fun cache => cache.fetch session.schema session.index
  return used.value

def closure (session : Session) (d : CorpusDocument) : Work Closure :=
  logged (Closure.logged session.index.value d)

end Session

/-- What stops a rule at a target. -/
structure RuleError where
  text : String
deriving DecidableEq, Repr, Inhabited

/-- A rule looks at its targets one at a time. -/
structure Rule where
  id : Label
  /-- Whether the other documents of a corpus matter. -/
  requiresSiblings : Bool
  Target : Type
  name : Target → String
  path : Target → Label
  targets : Session → Session.Work (List Target)
  check : Session → Target → Session.Work (Except RuleError (List Diagnostic))

end QueryAudit
