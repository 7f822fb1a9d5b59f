import Mathlib.Data.List.Forall2

/-! Work that may fail: what is known of work that came to its end, step by step and item by
item. -/
namespace QueryAudit

theorem ok_bind (a : α) (next : α → Except ε β) : Except.ok a >>= next = next a := rfl

theorem ok_of_toOption {work : Except ε α} {a : α} (done : work.toOption = some a) :
    work = .ok a := by
  cases work with
  | error e => cases done
  | ok b =>
    cases done
    rfl

theorem ok_of_isOk {work : Except ε α} (done : work.isOk) : ∃ a, work = .ok a := by
  cases work with
  | error e => cases done
  | ok a => exact ⟨a, rfl⟩

/-- Work that comes to an end has gone through each of its steps. -/
theorem ok_of_bind {first : Except ε α} {next : α → Except ε β} {b : β}
    (done : first >>= next = .ok b) : ∃ a, first = .ok a ∧ next a = .ok b := by
  cases first with
  | error e => cases done
  | ok a => exact ⟨a, rfl, done⟩

theorem bind_eq_ok_iff {first : Except ε α} {next : α → Except ε β} {b : β} :
    first >>= next = .ok b ↔ ∃ a, first = .ok a ∧ next a = .ok b := by
  constructor
  · exact ok_of_bind
  · rintro ⟨a, done, after⟩
    rw [done]
    exact after

/-- What each result keeps of its item, the results keep of the items. -/
theorem map_of_mapM {f : α → Except ε β} {g : α → γ} {h : β → γ}
    (same : ∀ a b, f a = .ok b → h b = g a) {items : List α} {results : List β}
    (done : items.mapM f = .ok results) : results.map h = items.map g := by
  induction items generalizing results with
  | nil =>
    cases done
    rfl
  | cons a rest ih =>
    rw [List.mapM_cons] at done
    obtain ⟨b, here, done⟩ := ok_of_bind done
    obtain ⟨more, after, done⟩ := ok_of_bind done
    cases done
    rw [List.map_cons, List.map_cons, same a b here, ih after]

theorem mem_of_mapM {f : α → Except ε β} {items : List α} {results : List β} {b : β}
    (done : items.mapM f = .ok results) (member : b ∈ results) : ∃ a ∈ items, f a = .ok b := by
  induction items generalizing results with
  | nil =>
    cases done
    cases member
  | cons a rest ih =>
    rw [List.mapM_cons] at done
    obtain ⟨first, here, done⟩ := ok_of_bind done
    obtain ⟨more, after, done⟩ := ok_of_bind done
    cases done
    rcases List.mem_cons.mp member with rfl | later
    · exact ⟨a, List.mem_cons_self, here⟩
    · obtain ⟨source, listed, read⟩ := ih after later
      exact ⟨source, List.mem_cons_of_mem a listed, read⟩

theorem exists_of_mapM {f : α → Except ε β} {items : List α} {results : List β} {a : α}
    (done : items.mapM f = .ok results) (listed : a ∈ items) : ∃ b ∈ results, f a = .ok b := by
  induction items generalizing results with
  | nil => cases listed
  | cons first rest ih =>
    rw [List.mapM_cons] at done
    obtain ⟨b, here, done⟩ := ok_of_bind done
    obtain ⟨more, after, done⟩ := ok_of_bind done
    cases done
    rcases List.mem_cons.mp listed with rfl | later
    · exact ⟨b, List.mem_cons_self, here⟩
    · obtain ⟨found, member, given⟩ := ih after later
      exact ⟨found, List.mem_cons_of_mem b member, given⟩

/-- A list of results has one result for each item, and all items came to theirs. -/
theorem mapM_eq_ok_iff {f : α → Except ε β} {items : List α} {results : List β} :
    items.mapM f = .ok results ↔ List.Forall₂ (fun a b => f a = .ok b) items results := by
  induction items generalizing results with
  | nil =>
    rw [List.forall₂_nil_left_iff]
    exact ⟨fun done => by cases done; rfl, fun empty => empty ▸ rfl⟩
  | cons a rest ih =>
    rw [List.mapM_cons, List.forall₂_cons_left_iff]
    constructor
    · intro done
      obtain ⟨b, here, done⟩ := ok_of_bind done
      obtain ⟨more, after, done⟩ := ok_of_bind done
      cases done
      exact ⟨b, more, here, ih.mp after, rfl⟩
    · rintro ⟨b, more, here, after, rfl⟩
      rw [here, ih.mpr after]
      rfl

/-- If every item comes to a result, so do all of them. -/
theorem exists_mapM_ok {f : α → Except ε β} {items : List α}
    (each : ∀ a ∈ items, ∃ b, f a = .ok b) : ∃ results, items.mapM f = .ok results := by
  induction items with
  | nil => exact ⟨[], rfl⟩
  | cons a rest ih =>
    obtain ⟨⟨b, here⟩, onward⟩ := List.forall_mem_cons.mp each
    obtain ⟨more, after⟩ := ih onward
    refine ⟨b :: more, ?_⟩
    rw [List.mapM_cons, here, after]
    rfl

/-- What every step keeps, a fold that came to its end has kept. -/
theorem keeps_of_foldlM {f : β → α → Except ε β} {holds : β → Prop}
    (step : ∀ b a b', holds b → f b a = .ok b' → holds b') {items : List α} {b b' : β}
    (before : holds b) (done : items.foldlM f b = .ok b') : holds b' := by
  induction items generalizing b with
  | nil =>
    cases done
    exact before
  | cons a rest ih =>
    rw [List.foldlM_cons] at done
    obtain ⟨next, taken, done⟩ := ok_of_bind done
    exact ih (step b a next before taken) done

end QueryAudit
