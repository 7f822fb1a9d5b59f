import QueryAudit.Proofs.Depth.Targets

/-! Whether targets reach one another. Operations reach no target, but of two fragments on cycles,
one that comes early in the corpus is taken although a later one reaches it. When this does not
happen is said in terms of entrances, the fragments that reach back whatever reaches them. -/
namespace QueryAudit.Depth

variable {index : CorpusIndex} {f g h : Sourced Fragment}

/-- No target reaches a fragment that is another target. -/
def Antichain (index : CorpusIndex) : Prop :=
  ∀ f : Sourced Fragment, f.map .fragment ∈ targets index → ∀ d ∈ targets index,
    d ≠ f.map .fragment → f.node.name.text ∉ (Closure.resolve index d).names

/-- An entrance reaches back every fragment that reaches it: it lies on a cycle that nothing else
leads into, or nothing leads to it at all. -/
def Entrance (index : CorpusIndex) (f : Sourced Fragment) : Prop :=
  ∀ g ∈ index.fragments, Reaching index g f → Reaching index f g

/-- Whatever no operation reaches and is no entrance lies behind an entrance that is taken first:
one that stands before it in the corpus, or one that nothing reaches. -/
def EntrancesFirst (index : CorpusIndex) : Prop :=
  ∀ f ∈ standalone index, Entrance index f ∨
    ∃ g ∈ index.fragments, Entrance index g ∧ Reaching index g f ∧
      ([g, f].Sublist index.fragments ∨ ∀ h ∈ index.fragments, ¬ Reaching index h g)

theorem precedes_trans {a b c : α} {list : List α} (distinct : list.Nodup)
    (first : [a, b].Sublist list) (second : [b, c].Sublist list) : [a, c].Sublist list := by
  induction list with
  | nil => simp at first
  | cons x rest ih =>
    rw [List.nodup_cons] at distinct
    rcases precedes_cons.mp second with ⟨rfl, after⟩ | second
    · have again : b ∈ rest := by
        rcases precedes_cons.mp first with ⟨_, later⟩ | first
        · exact later
        · exact first.subset (by simp)
      exact absurd again distinct.1
    · refine precedes_cons.mpr ?_
      rcases precedes_cons.mp first with ⟨same, _⟩ | first
      · exact .inl ⟨same, second.subset (by simp)⟩
      · exact .inr (ih distinct.2 first second)

theorem precedes_total {a b : α} {list : List α} (left : a ∈ list) (right : b ∈ list)
    (apart : a ≠ b) : [a, b].Sublist list ∨ [b, a].Sublist list := by
  induction list with
  | nil => simp at left
  | cons x rest ih =>
    simp only [precedes_cons]
    rcases List.mem_cons.mp left with first | left
    · rcases List.mem_cons.mp right with second | right
      · exact absurd (first.trans second.symm) apart
      · exact .inl (.inl ⟨first, right⟩)
    · rcases List.mem_cons.mp right with second | right
      · exact .inr (.inl ⟨second, left⟩)
      · exact (ih left right).imp .inr .inr

/-- Leaving out what operations reach keeps the order of the rest. -/
theorem precedes_standalone (first : g ∈ standalone index) (second : f ∈ standalone index)
    (before : [g, f].Sublist index.fragments) : [g, f].Sublist (standalone index) := by
  have kept := before.filter fun f => decide (f.node.name.text ∉ coveredByOperations index)
  rw [List.filter_eq_self.mpr] at kept
  · exact kept
  · intro h member
    rcases List.mem_pair.mp member with rfl | rfl
    · simpa using (mem_standalone.mp first).2
    · simpa using (mem_standalone.mp second).2

/-- Being apart is a matter of fragments: operations never reach a target. -/
theorem antichain_iff : Antichain index ↔ ∀ f ∈ fragmentTargets index,
    ∀ g ∈ fragmentTargets index, ¬ Reaching index g f := by
  constructor
  · intro apart f target g other reaching
    refine apart f (fragment_mem_targets_iff.mpr target) _ (fragment_mem_targets_iff.mpr other) ?_
      reaching
    intro same
    exact reaching.name_ne (congrArg (·.node.name.text) (fragmentDocument_injective same)).symm
  · intro apart f target d checked _ reached
    have target := fragment_mem_targets_iff.mp target
    rcases mem_targets_iff.mp checked with ⟨o, member, rfl⟩ | ⟨g, other, rfl⟩
    · have alone := (mem_standalone.mp (fragmentTargets_sublist.subset target)).2
      exact alone ((mem_coveredByOperations _).mpr ⟨o, member, reached⟩)
    · exact apart f target g other reached

/-- If the targets are apart then all of them are entrances: what reaches a target and is not
reached back would be covered by some other target, which then reaches the first. -/
theorem entrance_of_antichain (distinct : index.DistinctNames) (apart : Antichain index)
    (target : f ∈ fragmentTargets index) : Entrance index f := by
  intro g member reaching
  have last := fragmentTarget_mem target
  have alone : g ∈ standalone index :=
    standalone_of_reaching distinct member (fragmentTargets_sublist.subset target) reaching
  by_contra oneWay
  have unchosen : g ∉ fragmentTargets index :=
    fun other => antichain_iff.mp apart f target g other reaching
  obtain ⟨h, other, covers, _⟩ := reached_of_not_target distinct alone unchosen
  have different : f ≠ h := by
    rintro rfl
    exact oneWay covers
  exact antichain_iff.mp apart f target h other
    (covers.trans distinct (fragmentTarget_mem other) member last reaching different)

/-- Of two targets that reach each other, the later one would not have been taken. -/
theorem antichain_of_entrances (distinct : index.DistinctNames)
    (entrances : ∀ f ∈ fragmentTargets index, Entrance index f) : Antichain index := by
  refine antichain_iff.mpr fun f target g other reaching => ?_
  have back := entrances f target g (fragmentTarget_mem other) reaching
  have alone := fragmentTargets_sublist.subset target
  have aloneToo := fragmentTargets_sublist.subset other
  have different : g ≠ f := by
    rintro rfl
    exact reaching.name_ne rfl
  rcases precedes_total aloneToo alone different with before | after
  · exact (mem_fragmentTargets_iff distinct alone).mp target g other (.inr before) reaching
  · exact (mem_fragmentTargets_iff distinct aloneToo).mp other f target (.inr after) back

/-- Nothing that comes early enough to be taken first reaches a target, taken or not: what keeps it
from being taken would reach the target as well. -/
theorem not_reaching_of_target (distinct : index.DistinctNames)
    (target : f ∈ fragmentTargets index) (alone : g ∈ standalone index)
    (early : g ∈ sources index ∨ [g, f].Sublist (standalone index)) : ¬ Reaching index g f := by
  intro reaching
  have last := fragmentTargets_sublist.subset target
  have unreached := (mem_fragmentTargets_iff distinct last).mp target
  have member := standalone_sublist.subset alone
  by_cases other : g ∈ fragmentTargets index
  · exact unreached g other early reaching
  rcases early with source | before
  · exact other (source_mem_fragmentTargets distinct source)
  obtain ⟨h, chosen, covers, early⟩ := reached_of_not_target distinct alone other
  have early : h ∈ sources index ∨ [h, f].Sublist (standalone index) :=
    early.imp_right fun earlier => precedes_trans (standalone_nodup distinct) earlier before
  have different : f ≠ h := by
    rintro rfl
    rcases early with source | twice
    · exact (mem_sources_iff distinct last).mp source g member reaching
    · exact absurd (twice.nodup (standalone_nodup distinct)) (by simp)
  exact unreached h chosen early
    (covers.trans distinct (fragmentTarget_mem chosen) member (fragmentTarget_mem target) reaching
      different)

/-- An entrance that is taken early keeps all that it reaches from being taken. -/
theorem entrance_of_first (distinct : index.DistinctNames) (first : EntrancesFirst index)
    (target : f ∈ fragmentTargets index) : Entrance index f := by
  have alone := fragmentTargets_sublist.subset target
  rcases first f alone with entrance | ⟨g, member, _, reaching, taken⟩
  · exact entrance
  have aloneToo := standalone_of_reaching distinct member alone reaching
  refine absurd reaching (not_reaching_of_target distinct target aloneToo ?_)
  rcases taken with before | free
  · exact .inr (precedes_standalone aloneToo alone before)
  · exact .inl ((mem_sources_iff distinct aloneToo).mpr free)

theorem entrancesFirst_of_entrances (distinct : index.DistinctNames)
    (entrances : ∀ f ∈ fragmentTargets index, Entrance index f) : EntrancesFirst index := by
  intro f alone
  by_cases target : f ∈ fragmentTargets index
  · exact .inl (entrances f target)
  · obtain ⟨g, other, reaching, early⟩ := reached_of_not_target distinct alone target
    refine .inr ⟨g, fragmentTarget_mem other, entrances g other, reaching, ?_⟩
    rcases early with source | before
    · exact .inr ((mem_sources_iff distinct (mem_sources.mp source).1).mp source)
    · exact .inl (before.trans standalone_sublist)

/-- The targets are apart exactly if entrances come first: a corpus in which a cycle stands before
the fragments that lead into it has targets that reach one another. -/
theorem targets_antichain_iff (index : CorpusIndex) (distinct : index.DistinctNames) :
    Antichain index ↔ EntrancesFirst index := by
  constructor
  · intro apart
    exact entrancesFirst_of_entrances distinct fun f => entrance_of_antichain distinct apart
  · intro first
    exact antichain_of_entrances distinct fun f => entrance_of_first distinct first

theorem enteredCycle_antichain_iff :
    enteredCycle.DistinctNames ∧ (Antichain enteredCycle ↔ EntrancesFirst enteredCycle) :=
  ⟨by decide, targets_antichain_iff enteredCycle (by decide)⟩

open Sketch in
/-- Targets that are not apart: the cycle that stands first is checked by itself, and once more
through the fragment that leads into it. -/
theorem enteredCycle_not_antichain : enteredCycle.DistinctNames ∧ ¬ Antichain enteredCycle := by
  refine ⟨by decide, fun apart => ?_⟩
  have checked : targets enteredCycle = [(query [field "a" [spread "E"]]).map .operation,
      (fragment "C" [spread "D"]).map .fragment,
      (fragment "A" [spread "B", spread "C"]).map .fragment] := by cbv
  have reached : (Closure.resolve enteredCycle
      ((fragment "A" [spread "B", spread "C"]).map .fragment)).names = ["B", "C", "D"] := by cbv
  refine apart (fragment "C" [spread "D"]) (by simp [checked])
    ((fragment "A" [spread "B", spread "C"]).map .fragment) (by simp [checked]) ?_ ?_
  · simp [fragment, Sourced.map, name]
  · rw [reached]
    decide

end QueryAudit.Depth
