import Mathlib.Data.List.Nodup
import QueryAudit.Corpus.Closure

/-! Fragments by name. Where names are distinct, every fragment of a list is the one that its name
stands for. -/
namespace QueryAudit

variable {name : String} {fragments : List (Sourced Fragment)} {f g : Sourced Fragment}

theorem lastNamed_eq_none_iff :
    lastNamed name fragments = none ↔ ∀ f ∈ fragments, f.node.name.text ≠ name := by
  induction fragments with
  | nil => simp [lastNamed]
  | cons g rest ih =>
    rw [lastNamed, List.forall_mem_cons, ← ih]
    cases lastNamed name rest <;> simp

theorem lastNamed_of_mem (distinct : (fragments.map (·.node.name.text)).Nodup)
    (member : f ∈ fragments) : lastNamed f.node.name.text fragments = some f := by
  cases found : lastNamed f.node.name.text fragments with
  | none => exact absurd rfl (lastNamed_eq_none_iff.mp found f member)
  | some g =>
    obtain ⟨listed, same⟩ := Closure.lastNamed_some found
    rw [List.inj_on_of_nodup_map distinct listed member same]

/-- Distinct names stand for all the fragments that bear them. -/
theorem lastNamed_eq_some_iff (distinct : (fragments.map (·.node.name.text)).Nodup) :
    lastNamed name fragments = some f ↔ f ∈ fragments ∧ f.node.name.text = name := by
  constructor
  · exact Closure.lastNamed_some
  · rintro ⟨member, rfl⟩
    exact lastNamed_of_mem distinct member

/-- The order of fragments does not matter to distinct names. -/
theorem lastNamed_perm {reordered : List (Sourced Fragment)}
    (distinct : (fragments.map (·.node.name.text)).Nodup) (perm : reordered.Perm fragments)
    (name : String) : lastNamed name reordered = lastNamed name fragments := by
  have distinctToo : (reordered.map (·.node.name.text)).Nodup := (perm.map _).nodup_iff.mpr distinct
  ext f
  rw [lastNamed_eq_some_iff distinctToo, lastNamed_eq_some_iff distinct, perm.mem_iff]

/-- Dropping fragments of other names leaves what a name stands for. -/
theorem lastNamed_filter (keep : Sourced Fragment → Bool)
    (kept : ∀ f ∈ fragments, f.node.name.text = name → keep f) :
    lastNamed name (fragments.filter keep) = lastNamed name fragments := by
  induction fragments with
  | nil => rfl
  | cons g rest ih =>
    rw [List.forall_mem_cons] at kept
    rw [List.filter_cons]
    split
    · rw [lastNamed, lastNamed, ih kept.2]
    · next dropped =>
      have other : g.node.name.text ≠ name := fun same => dropped (kept.1 same)
      rw [ih kept.2, lastNamed]
      cases lastNamed name rest <;> simp [other]

/-- A later fragment of a name stands before all earlier ones. -/
theorem lastNamed_append (name : String) (front back : List (Sourced Fragment)) :
    lastNamed name (front ++ back) = (lastNamed name back).or (lastNamed name front) := by
  induction front with
  | nil => rw [List.nil_append, lastNamed, Option.or_none]
  | cons f rest ih =>
    rw [List.cons_append, lastNamed, lastNamed, ih]
    cases lastNamed name back <;> cases lastNamed name rest <;> rfl

/-- Changing fragments without renaming them changes what a name stands for in the same way. -/
theorem lastNamed_map (change : Sourced Fragment → Sourced Fragment)
    (named : ∀ f, (change f).node.name.text = f.node.name.text) (name : String)
    (fragments : List (Sourced Fragment)) :
    lastNamed name (fragments.map change) = (lastNamed name fragments).map change := by
  induction fragments with
  | nil => rfl
  | cons f rest ih =>
    rw [List.map_cons, lastNamed, lastNamed, ih, named]
    cases lastNamed name rest with
    | some later => rfl
    | none => by_cases same : f.node.name.text = name <;> simp [same]

namespace CorpusIndex

/-- No two fragments bear the same name. -/
def DistinctNames (index : CorpusIndex) : Prop :=
  (index.fragments.map (·.node.name.text)).Nodup

instance (index : CorpusIndex) : Decidable index.DistinctNames :=
  inferInstanceAs (Decidable (List.Nodup _))

namespace DistinctNames

variable {index : CorpusIndex}

theorem indexed (distinct : index.DistinctNames) (member : f ∈ index.fragments) :
    index.fragment? f.node.name.text = some f :=
  lastNamed_of_mem distinct member

theorem eq_of_name (distinct : index.DistinctNames) (left : f ∈ index.fragments)
    (right : g ∈ index.fragments) (same : f.node.name.text = g.node.name.text) : f = g :=
  List.inj_on_of_nodup_map distinct left right same

end DistinctNames

end CorpusIndex

end QueryAudit
