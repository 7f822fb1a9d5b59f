import QueryAudit.Depth.Targets
import QueryAudit.Proofs.Corpus.Closure
import QueryAudit.Proofs.Corpus.Sketch

/-! Which fragments the check of depth starts from. A fragment that no operation reaches is taken
unless one taken earlier reaches it, and so, between them, the targets cover every fragment of a
corpus. -/
namespace QueryAudit.Depth

variable {index : CorpusIndex} {f g h : Sourced Fragment}

/-- One fragment reaches another, so that it need not be checked on its own. -/
def Reaching (index : CorpusIndex) (f g : Sourced Fragment) : Prop :=
  g.node.name.text ∈ reachedBy index (fragmentDocument f)

namespace Reaching

theorem iff_leads (distinct : index.DistinctNames) (left : f ∈ index.fragments)
    (right : g ∈ index.fragments) :
    Reaching index f g ↔
      index.Leads f.node.name.text g.node.name.text ∧ g.node.name.text ≠ f.node.name.text := by
  have known : (index.fragment? g.node.name.text).isSome := by simp [distinct.indexed right]
  rw [Reaching, reachedBy, fragmentDocument, Closure.mem_resolve_names,
    Closure.reachable_fragment (distinct.indexed left), and_iff_left known]

theorem name_ne (reaching : Reaching index f g) : g.node.name.text ≠ f.node.name.text := by
  have reached := ((Closure.mem_resolve_names ..).mp reaching).1.not_mem_avoid
  simpa [fragmentDocument, Sourced.map, Executable.fragmentName?] using reached

theorem trans (distinct : index.DistinctNames) (first : f ∈ index.fragments)
    (middle : g ∈ index.fragments) (last : h ∈ index.fragments) (fg : Reaching index f g)
    (gh : Reaching index g h) (apart : h ≠ f) : Reaching index f h := by
  rw [iff_leads distinct first last]
  refine ⟨?_, fun same => apart (distinct.eq_of_name last first same)⟩
  exact ((iff_leads distinct first middle).mp fg).1.trans
    ((iff_leads distinct middle last).mp gh).1

end Reaching

theorem mem_coveredByOperations (name : String) : name ∈ coveredByOperations index ↔
    ∃ o ∈ index.operations, name ∈ reachedBy index (o.map .operation) := by
  rw [coveredByOperations, operationDocuments, List.flatMap_map, List.mem_flatMap]

theorem mem_standalone : f ∈ standalone index ↔
    f ∈ index.fragments ∧ f.node.name.text ∉ coveredByOperations index := by
  simp [standalone]

theorem standalone_sublist : (standalone index).Sublist index.fragments := List.filter_sublist

/-- What reaches a standalone fragment is standalone itself, since an operation that reaches the
one reaches the other. -/
theorem standalone_of_reaching (distinct : index.DistinctNames) (first : f ∈ index.fragments)
    (alone : g ∈ standalone index) (reaching : Reaching index f g) : f ∈ standalone index := by
  obtain ⟨last, apart⟩ := mem_standalone.mp alone
  refine mem_standalone.mpr ⟨first, fun covered => apart ?_⟩
  obtain ⟨o, member, reached⟩ := (mem_coveredByOperations _).mp covered
  refine (mem_coveredByOperations _).mpr ⟨o, member, ?_⟩
  have leads := ((Reaching.iff_leads distinct first last).mp reaching).1
  have reachable := ((Closure.mem_resolve_names ..).mp reached).1
  exact (Closure.mem_resolve_names ..).mpr
    ⟨reachable.trans_of_unnamed rfl leads, by simp [distinct.indexed last]⟩

theorem mem_spreadNames (distinct : index.DistinctNames) (alone : f ∈ standalone index) :
    f.node.name.text ∈ spreadNames index ↔ ∃ g ∈ index.fragments, Reaching index g f := by
  simp only [spreadNames, List.mem_flatMap]
  constructor
  · rintro ⟨g, member, reaching⟩
    exact ⟨g, (mem_standalone.mp member).1, reaching⟩
  · rintro ⟨g, member, reaching⟩
    exact ⟨g, standalone_of_reaching distinct member alone reaching, reaching⟩

theorem mem_sources : f ∈ sources index ↔
    f ∈ standalone index ∧ f.node.name.text ∉ spreadNames index := by
  simp [sources]

theorem mem_coveredBy : f.node.name.text ∈ coveredBy index g ↔
    f.node.name.text = g.node.name.text ∨ Reaching index g f := by
  simp [coveredBy, Reaching]

theorem precedes_cons {a b x : α} {rest : List α} :
    [a, b].Sublist (x :: rest) ↔ a = x ∧ b ∈ rest ∨ [a, b].Sublist rest := by
  constructor
  · intro before
    cases before with
    | cons _ before => exact .inr before
    | cons_cons _ after => exact .inl ⟨rfl, List.singleton_sublist.mp after⟩
  · rintro (⟨rfl, after⟩ | before)
    · exact (List.singleton_sublist.mpr after).cons_cons _
    · exact before.cons _

theorem chosen_sublist (spread covered : List String) (list : List (Sourced Fragment)) :
    (chosen index spread covered list).Sublist list := by
  fun_induction chosen index spread covered list with
  | case1 => exact .refl _
  | case2 _ f rest _ ih => exact ih.cons_cons f
  | case3 _ f rest _ _ ih => exact ih.cons f
  | case4 _ f rest _ _ ih => exact ih.cons_cons f

/-- An item in front matters only to what stands behind it. -/
theorem forall_precedes_cons {picks rest : List α} {a b : α} {p q : α → Prop} (fresh : a ∉ rest)
    (inside : picks.Sublist rest) :
    (∀ c ∈ picks, p c → [c, b].Sublist (a :: rest) → q c) ↔
      ∀ c ∈ picks, p c → [c, b].Sublist rest → q c := by
  refine forall₂_congr fun c picked => ?_
  have apart : c ≠ a := by
    rintro rfl
    exact fresh (inside.subset picked)
  simp [precedes_cons, apart]

/-- Which fragments of a list are chosen: those that are spread nowhere, and those not covered to
begin with nor by one that was chosen before them for want of cover. -/
theorem mem_chosen_iff {spread covered : List String} {list : List (Sourced Fragment)}
    (distinct : list.Nodup) (member : f ∈ list) :
    f ∈ chosen index spread covered list ↔
      f.node.name.text ∉ spread ∨ f.node.name.text ∉ covered ∧
        ∀ g ∈ chosen index spread covered list, g.node.name.text ∈ spread →
          [g, f].Sublist list → f.node.name.text ∉ coveredBy index g := by
  -- What is covered grows along the list, by what the fragments in front of `f` add to it.
  fun_induction chosen index spread covered list with
  | case1 => simp at member
  | case2 covered a rest unspread ih =>
    obtain ⟨fresh, distinct⟩ := List.nodup_cons.mp distinct
    rcases List.mem_cons.mp member with rfl | later
    · simp [unspread]
    · have apart : f ≠ a := fun same => fresh (same ▸ later)
      rw [List.mem_cons, or_iff_right apart, ih distinct later, List.forall_mem_cons,
        forall_precedes_cons fresh (chosen_sublist ..)]
      simp [unspread]
  | case3 covered a rest inSpread old ih =>
    obtain ⟨fresh, distinct⟩ := List.nodup_cons.mp distinct
    rcases List.mem_cons.mp member with rfl | later
    · have missing : f ∉ chosen index spread covered rest :=
        fun picked => fresh ((chosen_sublist ..).subset picked)
      simp [missing, old, not_not.mp inSpread]
    · rw [ih distinct later, forall_precedes_cons fresh (chosen_sublist ..)]
  | case4 covered a rest inSpread new ih =>
    obtain ⟨fresh, distinct⟩ := List.nodup_cons.mp distinct
    rcases List.mem_cons.mp member with rfl | later
    · have unpreceded (g : Sourced Fragment) : ¬ [g, f].Sublist (f :: rest) := by
        rw [precedes_cons]
        rintro (⟨_, again⟩ | before)
        · exact fresh again
        · exact fresh (before.subset (by simp))
      simp [new, unpreceded]
    · have apart : f ≠ a := fun same => fresh (same ▸ later)
      have behind : [a, f].Sublist (a :: rest) := precedes_cons.mpr (.inl ⟨rfl, later⟩)
      rw [List.mem_cons, or_iff_right apart, ih distinct later, List.forall_mem_cons,
        forall_precedes_cons fresh (chosen_sublist ..), List.mem_append, not_or]
      simp [behind, not_not.mp inSpread, and_assoc, and_left_comm]

theorem fragmentTargets_sublist : (fragmentTargets index).Sublist (standalone index) :=
  chosen_sublist ..

theorem standalone_nodup (distinct : index.DistinctNames) : (standalone index).Nodup :=
  standalone_sublist.nodup (List.Nodup.of_map _ distinct)

theorem mem_sources_iff (distinct : index.DistinctNames) (alone : f ∈ standalone index) :
    f ∈ sources index ↔ ∀ g ∈ index.fragments, ¬ Reaching index g f := by
  rw [mem_sources, and_iff_right alone, mem_spreadNames distinct alone]
  exact ⟨fun none g member reaching => none ⟨g, member, reaching⟩,
    fun none ⟨g, member, reaching⟩ => none g member reaching⟩

theorem source_mem_fragmentTargets (distinct : index.DistinctNames) (source : f ∈ sources index) :
    f ∈ fragmentTargets index := by
  obtain ⟨alone, unspread⟩ := mem_sources.mp source
  exact (mem_chosen_iff (standalone_nodup distinct) alone).mpr (.inl unspread)

theorem mem_coveredBySources (alone : f ∈ standalone index) :
    f.node.name.text ∈ coveredBySources index ↔
      ∃ g ∈ sources index, f.node.name.text ∈ coveredBy index g := by
  rw [coveredBySources, List.mem_append, or_iff_right (mem_standalone.mp alone).2,
    List.mem_flatMap]

/-- A standalone fragment is a target unless a target taken earlier reaches it. Taken earlier are
the sources and, of the others, those that stand before it. -/
theorem mem_fragmentTargets_iff (distinct : index.DistinctNames) (alone : f ∈ standalone index) :
    f ∈ fragmentTargets index ↔ ∀ g ∈ fragmentTargets index,
      g ∈ sources index ∨ [g, f].Sublist (standalone index) → ¬ Reaching index g f := by
  rw [fragmentTargets, mem_chosen_iff (standalone_nodup distinct) alone, ← fragmentTargets]
  constructor
  · intro reason g target early reaching
    have other := fragmentTargets_sublist.subset target
    have spread : f.node.name.text ∈ spreadNames index :=
      (mem_spreadNames distinct alone).mpr ⟨g, standalone_sublist.subset other, reaching⟩
    have covers := mem_coveredBy.mpr (.inr reaching)
    obtain ⟨uncovered, unpreceded⟩ := reason.resolve_left (· spread)
    have unsourced : g ∉ sources index :=
      fun source => uncovered ((mem_coveredBySources alone).mpr ⟨g, source, covers⟩)
    have again : g.node.name.text ∈ spreadNames index := by
      simpa [mem_sources, other] using unsourced
    exact unpreceded g target again (early.resolve_left unsourced) covers
  · intro unreached
    by_cases spread : f.node.name.text ∈ spreadNames index
    · refine .inr ⟨fun covered => ?_, fun g target _ before covers => ?_⟩
      · obtain ⟨g, source, covers⟩ := (mem_coveredBySources alone).mp covered
        have target := source_mem_fragmentTargets distinct source
        rcases mem_coveredBy.mp covers with same | reaching
        · rw [same] at spread
          exact (mem_sources.mp source).2 spread
        · exact unreached g target (.inl source) reaching
      · rcases mem_coveredBy.mp covers with same | reaching
        · have other := standalone_sublist.subset (fragmentTargets_sublist.subset target)
          have equal := distinct.eq_of_name (standalone_sublist.subset alone) other same
          subst equal
          exact absurd (before.nodup (standalone_nodup distinct)) (by simp)
        · exact unreached g target (.inr before) reaching
    · exact .inl spread

theorem reached_of_not_target (distinct : index.DistinctNames) (alone : f ∈ standalone index)
    (dropped : f ∉ fragmentTargets index) :
    ∃ g ∈ fragmentTargets index, Reaching index g f ∧
      (g ∈ sources index ∨ [g, f].Sublist (standalone index)) := by
  by_contra unreached
  refine dropped ((mem_fragmentTargets_iff distinct alone).mpr fun g target early reaching => ?_)
  exact unreached ⟨g, target, reaching, early⟩

theorem operation_mem_targets {o : Sourced Operation} (member : o ∈ index.operations) :
    o.map .operation ∈ targets index :=
  List.mem_append_left _ (List.mem_map_of_mem member)

theorem mem_targets_iff {d : CorpusDocument} : d ∈ targets index ↔
    (∃ o ∈ index.operations, o.map .operation = d) ∨
      ∃ f ∈ fragmentTargets index, fragmentDocument f = d := by
  rw [targets, List.mem_append, operationDocuments, List.mem_map, List.mem_map]

theorem fragmentDocument_injective (same : fragmentDocument f = fragmentDocument g) : f = g := by
  cases f
  cases g
  simpa [fragmentDocument, Sourced.map] using same

theorem fragment_mem_targets_iff :
    fragmentDocument f ∈ targets index ↔ f ∈ fragmentTargets index := by
  rw [mem_targets_iff]
  constructor
  · rintro (⟨o, _, same⟩ | ⟨g, target, same⟩)
    · simp [fragmentDocument, Sourced.map] at same
    · exact fragmentDocument_injective same ▸ target
  · exact fun target => .inr ⟨f, target, rfl⟩

theorem fragmentTarget_mem (target : f ∈ fragmentTargets index) : f ∈ index.fragments :=
  standalone_sublist.subset (fragmentTargets_sublist.subset target)

/-- Every fragment is a target or is reached from one. -/
theorem fragment_covered (distinct : index.DistinctNames) (member : f ∈ index.fragments) :
    f ∈ fragmentTargets index ∨ ∃ d ∈ targets index, f.node.name.text ∈ reachedBy index d := by
  by_cases alone : f ∈ standalone index
  · by_cases target : f ∈ fragmentTargets index
    · exact .inl target
    · obtain ⟨g, chosen, reaching, _⟩ := reached_of_not_target distinct alone target
      exact .inr ⟨fragmentDocument g, fragment_mem_targets_iff.mpr chosen, reaching⟩
  · have covered : f.node.name.text ∈ coveredByOperations index := by
      simpa [mem_standalone, member] using alone
    obtain ⟨o, listed, reached⟩ := (mem_coveredByOperations _).mp covered
    exact .inr ⟨o.map .operation, operation_mem_targets listed, reached⟩

/-- Under distinct names, what is reached by name is reached as the fragment itself. -/
theorem mem_resolve_of_reachedBy (distinct : index.DistinctNames) (member : f ∈ index.fragments)
    {d : CorpusDocument} (reached : f.node.name.text ∈ reachedBy index d) :
    f ∈ (Closure.resolve index d).fragments :=
  (Closure.mem_resolve_fragments ..).mpr
    ⟨distinct.indexed member, ((Closure.mem_resolve_names ..).mp reached).1⟩

/-- What the targets of a corpus are: all operations, then some of its fragments, enough of them
that every fragment is checked. -/
structure Cover (index : CorpusIndex) (roots : List (Sourced Fragment)) : Prop where
  listed : targets index = index.operations.map (·.map .operation) ++ roots.map (·.map .fragment)
  inOrder : roots.Sublist index.fragments
  once : (roots.map (·.node.name.text)).Nodup
  unreached : ∀ f ∈ roots, ∀ o ∈ index.operations,
    f.node.name.text ∉ (Closure.resolve index (o.map .operation)).names
  complete : ∀ f ∈ index.fragments,
    f ∈ roots ∨ ∃ d ∈ targets index, f ∈ (Closure.resolve index d).fragments

/-- The targets of a corpus cover it, whatever cycles its spreads make. -/
theorem targets_cover (index : CorpusIndex) (distinct : index.DistinctNames) :
    ∃ roots, Cover index roots := by
  have inOrder : (fragmentTargets index).Sublist index.fragments :=
    fragmentTargets_sublist.trans standalone_sublist
  refine ⟨fragmentTargets index, rfl, inOrder, (inOrder.map _).nodup distinct, ?_, ?_⟩
  · intro f target o member reached
    have apart := (mem_standalone.mp (fragmentTargets_sublist.subset target)).2
    exact apart ((mem_coveredByOperations _).mpr ⟨o, member, reached⟩)
  · intro f member
    rcases fragment_covered distinct member with target | ⟨d, checked, reached⟩
    · exact .inl target
    · exact .inr ⟨d, checked, mem_resolve_of_reachedBy distinct member reached⟩

open Sketch in
/-- Two cycles, a fragment that spreads itself and a spread of nothing. The cycle that stands first
is entered from the other. -/
def enteredCycle : CorpusIndex where
  operations := [query [field "a" [spread "E"]]]
  fragments := [fragment "C" [spread "D"], fragment "D" [spread "C"],
    fragment "A" [spread "B", spread "C"], fragment "B" [spread "A"],
    fragment "E" [spread "E", spread "missing"]]

theorem enteredCycle_cover :
    enteredCycle.DistinctNames ∧ ∃ roots, Cover enteredCycle roots :=
  ⟨by decide, targets_cover enteredCycle (by decide)⟩

end QueryAudit.Depth
