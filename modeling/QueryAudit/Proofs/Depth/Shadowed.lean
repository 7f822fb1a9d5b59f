import QueryAudit.Proofs.Depth.Agreement
import QueryAudit.Proofs.Depth.Entrances

/-! Shadowed definitions and the targets of a corpus. A name stands for the last fragment that bears
it, but the fragments that it shadows are looked at for targets as well, and one that is taken
counts as cover for its own name and for all that it reaches. So a fragment that is a target
without them is one still, or a shadowed definition that is taken covers it. What its walk then sees
of the fragment depends on the ways that lead there. -/
namespace QueryAudit

variable {list : List (Sourced Fragment)} {f g : Sourced Fragment}

/-- The fragments of a list that their names stand for. -/
def unshadowed : List (Sourced Fragment) → List (Sourced Fragment)
  | [] => []
  | f :: rest =>
    if (lastNamed f.node.name.text rest).isSome then unshadowed rest else f :: unshadowed rest

/-- A later fragment bears the same name. -/
def Shadowed (list : List (Sourced Fragment)) (f : Sourced Fragment) : Prop :=
  ∃ g, [f, g].Sublist list ∧ g.node.name.text = f.node.name.text

theorem unshadowed_sublist (list : List (Sourced Fragment)) : (unshadowed list).Sublist list := by
  induction list with
  | nil => exact .slnil
  | cons f rest ih =>
    rw [unshadowed]
    split
    · exact ih.cons f
    · exact ih.cons_cons f

theorem lastNamed_unshadowed (name : String) (list : List (Sourced Fragment)) :
    lastNamed name (unshadowed list) = lastNamed name list := by
  induction list with
  | nil => rfl
  | cons f rest ih =>
    rw [unshadowed]
    split
    · next later =>
      rw [ih, lastNamed]
      cases found : lastNamed name rest with
      | some _ => rfl
      | none =>
        have other : f.node.name.text ≠ name := by
          rintro rfl
          simp [found] at later
        simp [other]
    · rw [lastNamed, lastNamed, ih]

theorem nodup_unshadowed (list : List (Sourced Fragment)) :
    ((unshadowed list).map (·.node.name.text)).Nodup := by
  induction list with
  | nil => exact .nil
  | cons f rest ih =>
    rw [unshadowed]
    split
    · exact ih
    · next last =>
      have fresh := lastNamed_eq_none_iff.mp (Option.not_isSome_iff_eq_none.mp last)
      refine List.nodup_cons.mpr ⟨fun again => ?_, ih⟩
      obtain ⟨g, member, same⟩ := List.mem_map.mp again
      exact fresh g ((unshadowed_sublist rest).subset member) same

/-- Leaving names out does not change which fragments the others stand for. -/
theorem unshadowed_filter (keep : String → Bool) (list : List (Sourced Fragment)) :
    unshadowed (list.filter fun f => keep f.node.name.text) =
      (unshadowed list).filter fun f => keep f.node.name.text := by
  induction list with
  | nil => rfl
  | cons f rest ih =>
    rw [unshadowed, List.filter_cons]
    split
    · next kept =>
      rw [unshadowed, lastNamed_filter _ fun g _ same => by rw [same]; exact kept, ih]
      split
      · rfl
      · simp [kept]
    · next dropped =>
      rw [ih]
      split
      · rfl
      · simp [dropped]

namespace Shadowed

theorem mono {longer : List (Sourced Fragment)} (inside : list.Sublist longer)
    (shadowed : Shadowed list f) : Shadowed longer f := by
  obtain ⟨g, later, same⟩ := shadowed
  exact ⟨g, later.trans inside, same⟩

theorem of_later (later : (lastNamed f.node.name.text list).isSome) : Shadowed (f :: list) f := by
  obtain ⟨g, found⟩ := Option.isSome_iff_exists.mp later
  obtain ⟨member, same⟩ := Closure.lastNamed_some found
  exact ⟨g, Depth.precedes_cons.mpr (.inl ⟨rfl, member⟩), same⟩

end Shadowed

theorem mem_unshadowed (member : f ∈ list) (last : ¬ Shadowed list f) : f ∈ unshadowed list := by
  induction list with
  | nil => simp at member
  | cons h rest ih =>
    have behind (later : f ∈ rest) : f ∈ unshadowed rest :=
      ih later fun shadowed => last (shadowed.mono (List.sublist_cons_self h rest))
    rw [unshadowed]
    split
    · next later =>
      rcases List.mem_cons.mp member with rfl | member
      · exact absurd (.of_later later) last
      · exact behind member
    · exact List.mem_cons.mpr ((List.mem_cons.mp member).imp_right behind)

/-- Among the fragments that names stand for, an unshadowed one keeps its place. -/
theorem precedes_unshadowed (before : [f, g].Sublist list) (last : ¬ Shadowed list f)
    (member : g ∈ unshadowed list) (apart : f ≠ g) : [f, g].Sublist (unshadowed list) := by
  induction list with
  | nil => simp at before
  | cons h rest ih =>
    have lastToo : ¬ Shadowed rest f :=
      fun shadowed => last (shadowed.mono (List.sublist_cons_self h rest))
    rw [unshadowed] at member ⊢
    split at member
    · next later =>
      rw [if_pos later]
      rcases Depth.precedes_cons.mp before with ⟨rfl, _⟩ | before
      · exact absurd (.of_later later) last
      · exact ih before lastToo member
    · next final =>
      rw [if_neg final]
      rcases Depth.precedes_cons.mp before with ⟨rfl, _⟩ | behind
      · rcases List.mem_cons.mp member with same | member
        · exact absurd same.symm apart
        · exact Depth.precedes_cons.mpr (.inl ⟨rfl, member⟩)
      · rcases List.mem_cons.mp member with rfl | member
        -- A fragment that is kept here does not stand further on.
        · have fresh := lastNamed_eq_none_iff.mp (Option.not_isSome_iff_eq_none.mp final)
          exact absurd rfl (fresh g (behind.subset (by simp)))
        · exact (ih behind lastToo member).cons h

namespace CorpusIndex

/-- The corpus without its shadowed definitions. -/
def withoutShadowed (index : CorpusIndex) : CorpusIndex :=
  { index with fragments := unshadowed index.fragments }

variable (index : CorpusIndex)

theorem fragment?_withoutShadowed (name : String) :
    index.withoutShadowed.fragment? name = index.fragment? name :=
  lastNamed_unshadowed name index.fragments

theorem distinctNames_withoutShadowed : index.withoutShadowed.DistinctNames :=
  nodup_unshadowed index.fragments

theorem resolve_withoutShadowed (d : CorpusDocument) :
    Closure.resolve index.withoutShadowed d = Closure.resolve index d :=
  Closure.follow_eq_of_agree fun name _ => index.fragment?_withoutShadowed name

/-- The fragment that one name stands for spreads the other name in sight of walks. -/
def Shows (name next : String) : Prop :=
  ∃ f, index.fragment? name = some f ∧ InSight next f.node.body

end CorpusIndex

namespace Depth

variable {index : CorpusIndex} {s t : Sourced Fragment}

theorem reachedBy_withoutShadowed (d : CorpusDocument) :
    reachedBy index.withoutShadowed d = reachedBy index d := by
  rw [reachedBy, index.resolve_withoutShadowed, reachedBy]

theorem reaching_withoutShadowed :
    Reaching index.withoutShadowed f g ↔ Reaching index f g := by
  rw [Reaching, reachedBy_withoutShadowed, Reaching]

theorem standalone_withoutShadowed :
    standalone index.withoutShadowed = unshadowed (standalone index) := by
  have covered : coveredByOperations index.withoutShadowed = coveredByOperations index := by
    rw [coveredByOperations, coveredByOperations, operationDocuments, operationDocuments]
    exact List.flatMap_congr fun d _ => reachedBy_withoutShadowed d
  simp only [standalone, covered]
  exact (unshadowed_filter (fun name => decide (name ∉ coveredByOperations index)) _).symm

theorem spreadNames_of_withoutShadowed {name : String}
    (spread : name ∈ spreadNames index.withoutShadowed) : name ∈ spreadNames index := by
  simp only [spreadNames, standalone_withoutShadowed, reachedBy_withoutShadowed,
    List.mem_flatMap] at spread ⊢
  obtain ⟨g, member, reached⟩ := spread
  exact ⟨g, (unshadowed_sublist _).subset member, reached⟩

theorem mem_chosen_of_unspread {spread covered : List String} (member : f ∈ list)
    (unspread : f.node.name.text ∉ spread) : f ∈ chosen index spread covered list := by
  fun_induction chosen index spread covered list with
  | case1 => simp at member
  | case2 _ a rest _ ih => exact List.mem_cons.mpr ((List.mem_cons.mp member).imp_right ih)
  | case3 _ a rest inSpread _ ih =>
    rcases List.mem_cons.mp member with rfl | later
    · exact absurd unspread inSpread
    · exact ih later
  | case4 _ a rest _ _ ih => exact List.mem_cons.mpr ((List.mem_cons.mp member).imp_right ih)

/-- Whatever is not chosen was covered to begin with, or by one chosen before it. -/
theorem covered_of_not_chosen {spread covered : List String} (member : f ∈ list)
    (dropped : f ∉ chosen index spread covered list) :
    f.node.name.text ∈ covered ∨ ∃ g ∈ chosen index spread covered list,
      [g, f].Sublist list ∧ f.node.name.text ∈ coveredBy index g := by
  fun_induction chosen index spread covered list with
  | case1 => simp at member
  | case2 covered a rest _ ih =>
    obtain ⟨apart, dropped⟩ := not_or.mp (mt List.mem_cons.mpr dropped)
    refine (ih ((List.mem_cons.mp member).resolve_left apart) dropped).imp_right ?_
    rintro ⟨g, picked, before, covers⟩
    exact ⟨g, List.mem_cons_of_mem _ picked, before.cons a, covers⟩
  | case3 covered a rest _ old ih =>
    rcases List.mem_cons.mp member with rfl | later
    · exact .inl old
    · refine (ih later dropped).imp_right ?_
      rintro ⟨g, picked, before, covers⟩
      exact ⟨g, picked, before.cons a, covers⟩
  | case4 covered a rest _ _ ih =>
    obtain ⟨apart, dropped⟩ := not_or.mp (mt List.mem_cons.mpr dropped)
    have later := (List.mem_cons.mp member).resolve_left apart
    rcases ih later dropped with old | ⟨g, picked, before, covers⟩
    · rcases List.mem_append.mp old with covers | old
      · exact .inr ⟨a, List.mem_cons_self, precedes_cons.mpr (.inl ⟨rfl, later⟩), covers⟩
      · exact .inl old
    · exact .inr ⟨g, List.mem_cons_of_mem _ picked, before.cons a, covers⟩

/-- A standalone fragment that is not taken is covered by one that was taken before it. -/
theorem covered_of_not_target (alone : f ∈ standalone index) (dropped : f ∉ fragmentTargets index) :
    ∃ g ∈ fragmentTargets index, f.node.name.text ∈ coveredBy index g ∧
      (g ∈ sources index ∨ [g, f].Sublist (standalone index)) := by
  rcases covered_of_not_chosen alone dropped with old | ⟨g, picked, before, covers⟩
  · obtain ⟨g, source, covers⟩ := (mem_coveredBySources alone).mp old
    obtain ⟨aloneToo, unspread⟩ := mem_sources.mp source
    exact ⟨g, mem_chosen_of_unspread aloneToo unspread, covers, .inl source⟩
  · exact ⟨g, picked, covers, .inr before⟩

/-- A target of the corpus without shadowed definitions is a target of the whole, unless a shadowed
definition that is one bears its name or reaches it. What is not shadowed would have kept it from
being a target in the first place. -/
theorem target_of_withoutShadowed (wanted : t ∈ fragmentTargets index.withoutShadowed)
    (unshaded : ∀ s ∈ fragmentTargets index, Shadowed index.fragments s →
      t.node.name.text ∉ coveredBy index s) : t ∈ fragmentTargets index := by
  by_contra dropped
  have distinct := index.distinctNames_withoutShadowed
  have alone : t ∈ unshadowed (standalone index) :=
    standalone_withoutShadowed ▸ fragmentTargets_sublist.subset wanted
  obtain ⟨s, target, covers, early⟩ :=
    covered_of_not_target ((unshadowed_sublist _).subset alone) dropped
  have last : ¬ Shadowed (standalone index) s :=
    fun shadowed => unshaded s target (shadowed.mono standalone_sublist) covers
  have aloneToo := mem_unshadowed (fragmentTargets_sublist.subset target) last
  have apart : s ≠ t := by
    rintro rfl
    exact dropped target
  rw [← standalone_withoutShadowed] at alone aloneToo
  rcases mem_coveredBy.mp covers with same | reaching
  · exact apart (distinct.eq_of_name (standalone_sublist.subset aloneToo)
      (standalone_sublist.subset alone) same.symm)
  · refine not_reaching_of_target distinct wanted aloneToo ?_
      (reaching_withoutShadowed.mpr reaching)
    rcases early with source | before
    · refine .inl (mem_sources.mpr ⟨aloneToo, fun spread => ?_⟩)
      exact (mem_sources.mp source).2 (spreadNames_of_withoutShadowed spread)
    · rw [standalone_withoutShadowed] at alone ⊢
      exact .inr (precedes_unshadowed before last alone apart)

/-- A way that a walk can take from a fragment to a name, and the names that it has crossed before:
the fragment's own and those of the fragments entered. Nothing is crossed twice. -/
inductive Way (index : CorpusIndex) (s : Sourced Fragment) : List String → String → Prop where
  | start : InSight name s.node.body → name ∉ [s.node.name.text] →
      Way index s [s.node.name.text] name
  | step : Way index s crossed via → index.Shows via name → name ∉ via :: crossed →
      Way index s (via :: crossed) name

variable {limits : DepthLimits} {rootName name : String} {crossed : List String}
  {enterable : List (Sourced Fragment)} {place : Place} {level : Nat}

/-- A walk that finds nothing has gone every way that it can take. -/
theorem Way.hits_eq_nil (way : Way index s crossed name)
    (uncrossed : Uncrossed index.fragments [s.node.name.text] enterable)
    (clear : hits limits rootName enterable place level 0 s.node.body = [])
    (found : index.fragment? name = some f) :
    ∃ enterable place level, Uncrossed index.fragments (name :: crossed) enterable ∧
      hits limits rootName enterable place level 0 f.node.body = [] := by
  induction way generalizing f with
  | start seen fresh =>
    obtain ⟨deeper, entered⟩ :=
      hits_eq_nil_inSight seen ((uncrossed ..).mpr ⟨fresh, found⟩) clear
    exact ⟨_, _, deeper, uncrossed.leaving _, entered⟩
  | step _ shows fresh ih =>
    obtain ⟨g, known, seen⟩ := shows
    obtain ⟨enterable, place, level, uncrossed, clear⟩ := ih known
    obtain ⟨deeper, entered⟩ :=
      hits_eq_nil_inSight seen ((uncrossed ..).mpr ⟨fresh, found⟩) clear
    exact ⟨_, _, deeper, uncrossed.leaving _, entered⟩

theorem check_eq_nil_iff_rootHits (d : CorpusDocument) :
    check limits d (Closure.resolve index d).fragments = [] ↔
      rootHits limits d index.fragments = [] := by
  rw [check_eq, firstsBy_eq_nil_iff, rootHits_resolve]

/-- What a clear fragment has a way to is clear itself, unless it leads back to where the way has
come by: there the walk along the way is cut short, and a walk of its own is not. -/
theorem check_eq_nil_of_way
    (clear : check limits (fragmentDocument s)
      (Closure.resolve index (fragmentDocument s)).fragments = [])
    (way : Way index s crossed t.node.name.text)
    (indexed : index.fragment? t.node.name.text = some t)
    (onward : ∀ name ∈ crossed, ¬ Relation.TransGen index.Shows t.node.name.text name) :
    check limits (fragmentDocument t)
      (Closure.resolve index (fragmentDocument t)).fragments = [] := by
  rw [check_eq_nil_iff_rootHits] at clear ⊢
  obtain ⟨enterable, place, level, uncrossed, clear⟩ :=
    way.hits_eq_nil (uncrossed_enterableFrom (fragmentDocument s) index.fragments) clear indexed
  have own := uncrossed_enterableFrom (fragmentDocument t) index.fragments
  have offers : OffersOf (Relation.TransGen index.Shows t.node.name.text) enterable
      (enterableFrom (fragmentDocument t) index.fragments) := by
    constructor
    · intro name f leads found
      obtain ⟨foreign, found⟩ := (own name f).mp found
      refine (uncrossed name f).mpr ⟨fun member => ?_, found⟩
      rcases List.mem_cons.mp member with rfl | member
      · exact foreign List.mem_cons_self
      · exact onward name member leads
    · intro name f leads found other seen
      exact leads.tail ⟨f, ((own name f).mp found).2, seen⟩
  exact offers.hits_eq_nil (fun name seen => .single ⟨t, indexed, seen⟩) (Nat.zero_le level) clear

/-- A shadowed definition is checked and found clear, and so a fragment goes unchecked that would be
checked without it and would not be found clear. The definition bears the fragment's name, or it
reaches the fragment, which on each way to it leads back to something crossed on that way. -/
structure Eclipses (limits : DepthLimits) (index : CorpusIndex) (s t : Sourced Fragment) :
    Prop where
  shadowed : Shadowed index.fragments s
  checked : fragmentDocument s ∈ targets index
  clear : check limits (fragmentDocument s)
    (Closure.resolve index (fragmentDocument s)).fragments = []
  wanted : fragmentDocument t ∈ targets index.withoutShadowed
  unchecked : fragmentDocument t ∉ targets index
  deep : check limits (fragmentDocument t)
    (Closure.resolve index (fragmentDocument t)).fragments ≠ []
  covers : s.node.name.text = t.node.name.text ∨
    t.node.name.text ∈ (Closure.resolve index (fragmentDocument s)).names ∧
      ∀ crossed, Way index s crossed t.node.name.text →
        ∃ name ∈ crossed, Relation.TransGen index.Shows t.node.name.text name

/-- What a check finds without the shadowed definitions it finds with them, or one of them is in the
way of it. -/
theorem found_or_eclipsed {d : CorpusDocument} (wanted : d ∈ targets index.withoutShadowed)
    (deep : check limits d (Closure.resolve index d).fragments ≠ []) :
    (∃ d ∈ targets index, check limits d (Closure.resolve index d).fragments ≠ []) ∨
      ∃ s t, Eclipses limits index s t := by
  rcases mem_targets_iff.mp wanted with ⟨o, member, rfl⟩ | ⟨t, chosen, rfl⟩
  · exact .inl ⟨_, operation_mem_targets member, deep⟩
  by_cases target : t ∈ fragmentTargets index
  · exact .inl ⟨_, fragment_mem_targets_iff.mpr target, deep⟩
  obtain ⟨s, taken, shadowed, covers⟩ : ∃ s ∈ fragmentTargets index,
      Shadowed index.fragments s ∧ t.node.name.text ∈ coveredBy index s := by
    by_contra unshaded
    refine target (target_of_withoutShadowed chosen fun s taken shadowed covers => ?_)
    exact unshaded ⟨s, taken, shadowed, covers⟩
  have checked := fragment_mem_targets_iff.mpr taken
  by_cases clear : check limits (fragmentDocument s)
      (Closure.resolve index (fragmentDocument s)).fragments = []
  · have indexed : index.fragment? t.node.name.text = some t := by
      rw [← index.fragment?_withoutShadowed]
      exact index.distinctNames_withoutShadowed.indexed (fragmentTarget_mem chosen)
    refine .inr ⟨s, t, shadowed, checked, clear, wanted, mt fragment_mem_targets_iff.mp target,
      deep, ?_⟩
    refine (mem_coveredBy.mp covers).imp Eq.symm fun reaching => ⟨reaching, fun crossed way => ?_⟩
    by_contra onward
    refine deep (check_eq_nil_of_way clear way indexed fun name member leads => ?_)
    exact onward ⟨name, member, leads⟩
  · exact .inl ⟨_, checked, clear⟩

end Depth

end QueryAudit
