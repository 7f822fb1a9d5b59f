import QueryAudit.Proofs.Rule.Check
import QueryAudit.Proofs.Rule.UnusedFields

/-! What a session answers does not depend on what it was asked before. The store of used fields is
all that changes in a session, and it is filled from within rules, also from within rules that fail
later. But work sees of the store only the used fields that it asks for, and those are the same
whether they are held or not. -/
namespace QueryAudit

open UsedFields (Cache)

namespace Session

/-- Work that comes to the store only for the used fields of the session, as often as it likes and
with whatever it does next depending on them. -/
inductive Asks (session : Session) : ∀ {α : Type}, Work α → Prop where
  | logged {α : Type} (result : Logged α) : Asks session (logged result)
  | usedFields : Asks session session.usedFields
  | bind {α β : Type} {first : Work α} {next : α → Work β} :
      Asks session first → (∀ a, Asks session (next a)) → Asks session (first >>= next)

/-- The entry of a session. -/
def entry (session : Session) (id : Nat) : UsedFields.CacheEntry :=
  ⟨session.schema, session.index,
    ⟨id, UsedFields.ofCorpus session.schema.value session.index.value⟩⟩

/-- The store of a session: it holds the used fields of the session or nothing at all. -/
inductive Owns (session : Session) : Cache → Prop where
  | empty (builds : Nat) : Owns session ⟨[], builds⟩
  | held (id builds : Nat) : Owns session ⟨[session.entry id], builds⟩

variable {session : Session} {cache : Cache} {α : Type}

/-- What work answers in a session that was asked nothing before. -/
def afresh (work : Work α) : α := (work {}).value.1

/-- How often used fields will have been computed once they are asked for again. -/
def reckoned (cache : Cache) : Nat :=
  if cache.entries.isEmpty then cache.builds + 1 else cache.builds

theorem builds_le_reckoned (cache : Cache) : cache.builds ≤ reckoned cache := by
  rw [reckoned]
  split <;> omega

theorem reckoned_invalidate_le : reckoned cache.invalidate ≤ reckoned cache + 1 :=
  Nat.succ_le_succ (builds_le_reckoned cache)

theorem Owns.invalidate : session.Owns cache.invalidate := .empty cache.builds

/-- Work leaves the store to be the session's own, at the same reckoning, and answers as it would
afresh. -/
structure Keeps (session : Session) (work : Work α) (cache : Cache) : Prop where
  same : (work cache).value.1 = afresh work
  owns : session.Owns (work cache).value.2
  reckoned : reckoned (work cache).value.2 = reckoned cache

theorem keeps_usedFields (owns : session.Owns cache) : session.Keeps session.usedFields cache := by
  cases owns with
  | empty builds => exact ⟨rfl, .held builds _, rfl⟩
  | held id builds =>
    have found : Cache.find? ⟨[session.entry id], builds⟩ session.schema session.index =
        some (session.entry id) := by simp [Cache.find?, entry]
    have answer : (session.usedFields ⟨[session.entry id], builds⟩).value =
        ((session.entry id).used.value, ⟨[session.entry id], builds⟩) := by
      rw [usedFields, value_bind, Cache.fetch, found]
      rfl
    refine ⟨?_, ?_, ?_⟩ <;> rw [answer]
    · rfl
    · exact .held id builds

theorem Asks.keeps {work : Work α} (asks : session.Asks work) (owns : session.Owns cache) :
    session.Keeps work cache := by
  induction asks generalizing cache with
  | logged result => exact ⟨rfl, owns, rfl⟩
  | usedFields => exact keeps_usedFields owns
  | @bind _ _ first next _ _ before after =>
    have here := before owns
    have onward := after (first cache).value.1 here.owns
    refine ⟨?_, onward.owns, onward.reckoned.trans here.reckoned⟩
    -- the empty store, too, leads to a store of the session, from where `next` answers alike
    have there := before (.empty 0)
    calc ((first >>= next) cache).value.1
        = afresh (next (afresh first)) := by rw [value_bind, onward.same, here.same]
      _ = afresh (first >>= next) := (after (afresh first) there.owns).same.symm

theorem Asks.pure (a : α) : session.Asks (pure a) := .logged ⟨[], a⟩

theorem Asks.tell (event : Event) : session.Asks (tell event) := .logged _

end Session

/-- The rule asks a session for nothing but used fields. -/
structure Rule.Asks (session : Session) (rule : Rule) : Prop where
  targets : session.Asks (rule.targets session)
  check : ∀ target, session.Asks (rule.check session target)

theorem Rule.asks_selectionDepth (session : Session) (limits : DepthLimits) :
    (Rule.selectionDepth limits).Asks session where
  targets := .logged _
  check _ := .bind (.logged _) fun _ => .pure _

theorem Rule.asks_unusedFields (session : Session) : Rule.unusedFields.Asks session where
  targets := .pure _
  check _ := .bind .usedFields fun _ => .pure _

namespace Session

variable {session : Session} {cache : Cache} {rule : Rule} {α : Type}

theorem asks_of_rules {rules : List Rule} (made : session.rules = .ok rules) :
    ∀ rule ∈ rules, rule.Asks session := by
  intro rule member
  obtain ⟨name, _, made⟩ := mem_of_mapM made member
  cases name with
  | selectionDepth =>
    rw [Session.rule] at made
    split at made
    · cases made
      exact Rule.asks_selectionDepth session _
    · cases made
  | unusedFields =>
    cases made
    exact Rule.asks_unusedFields session

theorem asks_runTargets (asks : rule.Asks session) (targets : List rule.Target) :
    session.Asks (session.runTargets rule targets) := by
  induction targets with
  | nil => exact .pure _
  | cons target rest ih =>
    refine .bind (asks.check target) fun result => ?_
    have onward (found : Report) : session.Asks do
        return found ++ (← session.runTargets rule rest) := .bind ih fun _ => .pure _
    cases result with
    | ok _ => exact .bind (.pure _) onward
    | error _ => exact .bind (.tell _) fun _ => .bind (.pure _) onward

theorem asks_runRules {rules : List Rule} (asks : ∀ rule ∈ rules, rule.Asks session) :
    session.Asks (session.runRules rules) := by
  induction rules with
  | nil => exact .pure _
  | cons rule rest ih =>
    obtain ⟨here, onward⟩ := List.forall_mem_cons.mp asks
    exact .bind (.tell _) fun _ => .bind here.targets fun targets =>
      .bind (asks_runTargets here targets) fun _ => .bind (ih onward) fun _ => .pure _

theorem asks_warn (rules : List Rule) : session.Asks (session.warn rules) := by
  rw [warn]
  split
  · exact .bind (.tell _) fun _ => .pure _
  · exact .pure _

theorem asks_run {rules : List Rule} (asks : ∀ rule ∈ rules, rule.Asks session) :
    session.Asks (session.run rules) :=
  .bind (asks_warn rules) fun _ => .bind (asks_runRules asks) fun _ => .bind (.tell _) fun _ =>
    .pure _

theorem asks_checkTargets (asks : rule.Asks session) (targets : List rule.Target) :
    session.Asks (session.checkTargets rule targets) := by
  induction targets with
  | nil => exact .pure _
  | cons target rest ih =>
    refine .bind (asks.check target) fun result => ?_
    cases result with
    | error _ => exact .pure _
    | ok _ =>
      refine .bind ih fun others => ?_
      cases others <;> exact .pure _

theorem asks_check (asks : rule.Asks session) : session.Asks (session.check rule) :=
  .bind asks.targets fun targets => asks_checkTargets asks targets

/-- What can be asked of a session, by the kind of answer. -/
inductive Step : Type → Type 1 where
  | run (rules : List Rule) : Step Report
  /-- Runs the rules that are enabled. -/
  | runEnabled : Step (Except ConfigFailure Report)
  | check (rule : Rule) : Step (Except RuleError (List Diagnostic))
  | targets (rule : Rule) : Step (List rule.Target)
  | usedFields : Step UsedFields
  /-- Drops all used fields. -/
  | invalidate : Step Unit
  | closure (d : CorpusDocument) : Step Closure
  | checkDepth (d : CorpusDocument) (maxDepth : Json) (ignore : Option (List IgnoreEntry)) :
      Step (Except DepthLimitsFailure (List Violation))
  | createRules : Step (Except ConfigFailure (List Json))

namespace Step

/-- The rules that a step brings with it. -/
def rules : Step α → List Rule
  | run rules => rules
  | check rule | targets rule => [rule]
  | _ => []

def work (session : Session) : Step α → Work α
  | run rules => session.run rules
  | runEnabled =>
    match session.rules with
    | .ok rules => return .ok (← session.run rules)
    | .error failure => return .error failure
  | check rule => session.check rule
  | targets rule => rule.targets session
  | usedFields => session.usedFields
  | invalidate => fun cache => ⟨[], ((), cache.invalidate)⟩
  | closure d => session.closure d
  | checkDepth d maxDepth ignore => session.checkDepth d maxDepth ignore
  | createRules =>
    match session.rules with
    | .ok _ => return .ok session.ruleOutlines
    | .error failure => return .error failure

def isInvalidate : Step α → Bool
  | invalidate => true
  | _ => false

/-- Nothing but an invalidation does more to the store than to ask. -/
theorem asks_work (step : Step α) (asks : ∀ rule ∈ step.rules, rule.Asks session)
    (other : step.isInvalidate = false) : session.Asks (step.work session) := by
  cases step with
  | run rules => exact asks_run asks
  | runEnabled =>
    rw [work]
    split
    case h_1 made => exact .bind (asks_run (asks_of_rules made)) fun _ => .pure _
    case h_2 => exact .pure _
  | check rule => exact asks_check (asks rule List.mem_cons_self)
  | targets rule => exact (asks rule List.mem_cons_self).targets
  | usedFields => exact .usedFields
  | invalidate => cases other
  | closure d => exact .logged _
  | checkDepth d maxDepth ignore => exact .bind (.logged _) fun _ => .pure _
  | createRules =>
    rw [work]
    split <;> exact .pure _

/-- A step answers as it would afresh and leaves a store of the session; one more computation is to
come at most, and only after an invalidation. -/
theorem keeps_work (step : Step α) (asks : ∀ rule ∈ step.rules, rule.Asks session)
    (owns : session.Owns cache) :
    (step.work session cache).value.1 = afresh (step.work session) ∧
    session.Owns (step.work session cache).value.2 ∧
    reckoned (step.work session cache).value.2 ≤
      reckoned cache + if step.isInvalidate then 1 else 0 := by
  cases invalidates : step.isInvalidate with
  | false =>
    have keeps := (step.asks_work asks invalidates).keeps owns
    exact ⟨keeps.same, keeps.owns, keeps.reckoned.le⟩
  | true =>
    cases step with
    | invalidate => exact ⟨rfl, .invalidate, reckoned_invalidate_le⟩
    | _ => cases invalidates

end Step

/-- The store after steps. -/
def after (session : Session) (cache : Cache) : List (Σ α, Step α) → Cache
  | [] => cache
  | ⟨_, step⟩ :: rest => session.after (step.work session cache).value.2 rest

theorem owns_after {steps : List (Σ α, Step α)}
    (asks : ∀ step ∈ steps, ∀ rule ∈ step.2.rules, rule.Asks session)
    (owns : session.Owns cache) :
    session.Owns (session.after cache steps) ∧
      reckoned (session.after cache steps) ≤
        reckoned cache + steps.countP (·.2.isInvalidate) := by
  induction steps generalizing cache with
  | nil => exact ⟨owns, Nat.le_refl _⟩
  | cons step rest ih =>
    obtain ⟨here, onward⟩ := List.forall_mem_cons.mp asks
    obtain ⟨_, owned, once⟩ := step.2.keeps_work here owns
    obtain ⟨kept, more⟩ := ih onward owned
    refine ⟨kept, ?_⟩
    rw [after, List.countP_cons]
    omega

/-- Whatever steps came before, a step answers as it would in a session that was just opened, and
used fields are computed once and again at most once for each invalidation. -/
theorem answers_afresh (session : Session) (past : List (Σ α, Step α))
    (asks : ∀ step ∈ past, ∀ rule ∈ step.2.rules, rule.Asks session) :
    (∀ (α : Type) (step : Step α), (∀ rule ∈ step.rules, rule.Asks session) →
      (step.work session (session.after {} past)).value.1 = afresh (step.work session)) ∧
    (session.after {} past).builds ≤ 1 + past.countP (·.2.isInvalidate) := by
  obtain ⟨owns, reckoned⟩ := owns_after asks (.empty 0)
  exact ⟨fun _ step asks => (step.keeps_work asks owns).1, (builds_le_reckoned _).trans reckoned⟩

/-- Looks for unused fields, but fails at a type once it has asked for the used ones. -/
def failingAt (name : String) : Rule :=
  { Rule.unusedFields with
    check session (t : TypeDef) := do
      let used ← session.usedFields
      if t.name = name then return .error ⟨"failed on " ++ name⟩
      else return .ok ((Rule.unusedFieldsOf used t).map (Rule.unusedDiagnostic t)) }

theorem asks_failingAt (session : Session) (name : String) : (failingAt name).Asks session where
  targets := .pure _
  check t := by
    refine .bind .usedFields fun used => ?_
    split <;> exact .pure _

/-- The failing rule fills the store, which is dropped and filled once more. -/
def refilled : List (Σ α, Step α) :=
  [⟨_, .run [failingAt "Node", Rule.unusedFields]⟩, ⟨_, .invalidate⟩, ⟨_, .runEnabled⟩,
    ⟨_, .check (failingAt "Query")⟩, ⟨_, .usedFields⟩]

theorem answers_afresh_refilled :
    (∀ step ∈ refilled, ∀ rule ∈ step.2.rules, rule.Asks shadowedUse) ∧
    (shadowedUse.run [failingAt "Query"] (shadowedUse.after {} refilled)).value.1 =
      afresh (shadowedUse.run [failingAt "Query"]) ∧
    (shadowedUse.after {} refilled).builds ≤ 2 := by
  have asks : ∀ step ∈ refilled, ∀ rule ∈ step.2.rules, rule.Asks shadowedUse := by
    simp [refilled, Step.rules, asks_failingAt, Rule.asks_unusedFields]
  obtain ⟨same, builds⟩ := answers_afresh shadowedUse refilled asks
  exact ⟨asks, same _ (.run [failingAt "Query"]) (by simp [Step.rules, asks_failingAt]), builds⟩

end Session

end QueryAudit
