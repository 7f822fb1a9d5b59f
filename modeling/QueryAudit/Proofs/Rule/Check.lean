import QueryAudit.Session.Run

/-! Checking a rule that fails nowhere. What it finds at a target may rest on the store of used
fields, which changes from target to target; it is enough that what is needed of the store is kept
on the way. -/
namespace QueryAudit.Session

theorem value_bind (first : Work α) (next : α → Work β) (cache : UsedFields.Cache) :
    ((first >>= next) cache).value = (next (first cache).value.1 (first cache).value.2).value :=
  rfl

theorem value_pure (a : α) (cache : UsedFields.Cache) :
    ((pure a : Work α) cache).value = (a, cache) := rfl

theorem value_logged (result : Logged α) (cache : UsedFields.Cache) :
    ((logged result) cache).value = (result.value, cache) := rfl

theorem value_tell (event : Event) (cache : UsedFields.Cache) :
    ((tell event) cache).value = ((), cache) := rfl

/-- A rule that fails nowhere finds what it finds at each target, in their order. -/
theorem value_checkTargets (session : Session) {rule : Rule} {found : rule.Target → List Diagnostic}
    (kept : UsedFields.Cache → Prop)
    (sure : ∀ target cache, kept cache →
      ((rule.check session target) cache).value.1 = .ok (found target) ∧
        kept ((rule.check session target) cache).value.2)
    (targets : List rule.Target) (cache : UsedFields.Cache) (start : kept cache) :
    ((session.checkTargets rule targets) cache).value.1 = .ok (targets.flatMap found) := by
  induction targets generalizing cache with
  | nil => rfl
  | cons target rest ih =>
    obtain ⟨here, onward⟩ := sure target cache start
    rw [checkTargets, value_bind, here]
    dsimp only
    rw [value_bind, ih _ onward]
    rfl

theorem value_check (session : Session) {rule : Rule} {found : rule.Target → List Diagnostic}
    (kept : UsedFields.Cache → Prop)
    (sure : ∀ target cache, kept cache →
      ((rule.check session target) cache).value.1 = .ok (found target) ∧
        kept ((rule.check session target) cache).value.2)
    (cache : UsedFields.Cache) (start : kept ((rule.targets session) cache).value.2) :
    ((session.check rule) cache).value.1 =
      .ok (((rule.targets session) cache).value.1.flatMap found) := by
  rw [check, value_bind, value_checkTargets session kept sure _ _ start]

end QueryAudit.Session
