import QueryAudit.Proofs.Depth.Targets
import QueryAudit.Proofs.Depth.Walk
import QueryAudit.Proofs.Rule.Check

/-! The rule on depth checks its targets only. In a corpus without cycles that is as good as
checking every document: a walk from a target that finds nothing has come through each fragment
that the target reaches, and a walk that starts in that fragment sees no more than a part of what
the first one saw, at levels that are no deeper. -/
namespace QueryAudit

/-- In no document does a spread hide beneath a field that walks pass over. -/
def CorpusIndex.SpreadsVisible (index : CorpusIndex) : Prop :=
  ∀ d ∈ index.documents, QueryAudit.SpreadsVisible d.node.body

namespace Depth

variable {index : CorpusIndex} {limits : DepthLimits} {rootName : String}
  {ahead : String → Prop} {body : List Selection} {d : CorpusDocument} {f : Sourced Fragment}

/-- Some walk goes through a body and finds nothing, free to enter whatever lies ahead of it. -/
def ClearAhead (index : CorpusIndex) (limits : DepthLimits) (rootName : String)
    (ahead : String → Prop) (body : List Selection) : Prop :=
  ∃ enterable place level, hits limits rootName enterable place level 0 body = [] ∧
    ∀ name f, ahead name → index.fragment? name = some f → lastNamed name enterable = some f

/-- The walk enters a fragment that is spread in the body. What that one leads to is still free to
enter, as it does not lead back to itself. -/
theorem ClearAhead.enter (acyclic : index.Acyclic)
    (clear : ClearAhead index limits rootName ahead body) (visible : SpreadsVisible body)
    (spread : SpreadIn name body) (reached : ahead name)
    (onward : ∀ other, index.Leads name other → ahead other)
    (found : index.fragment? name = some f) :
    ClearAhead index limits rootName (index.Leads name) f.node.body := by
  obtain ⟨enterable, place, level, clear, free⟩ := clear
  obtain ⟨deeper, entered⟩ :=
    hits_eq_nil_inSight (inSight_of_visible visible spread) (free name f reached found) clear
  refine ⟨leaving name enterable, .ofFragment f, deeper, entered, ?_⟩
  intro other g leads known
  have apart : other ≠ name := by
    rintro rfl
    exact acyclic _ leads
  rw [lastNamed_leaving apart]
  exact free other g (onward other leads) known

/-- A check of a root may enter exactly what the root reaches. -/
theorem lastNamed_enterableFrom_iff (root : CorpusDocument) (name : String) :
    lastNamed name (enterableFrom root (Closure.resolve index root).fragments) = some f ↔
      Closure.Reachable index root name ∧ index.fragment? name = some f := by
  rw [← Closure.lastNamed_resolve_iff]
  cases named : root.node.fragmentName? with
  | none => simp [enterableFrom, named]
  | some own =>
    simp only [enterableFrom, named]
    by_cases same : name = own
    · have unreached : ¬ Closure.Reachable index root own := by
        intro reached
        exact reached.not_mem_avoid (by simp [named])
      rw [Closure.lastNamed_resolve_iff, same, lastNamed_leaving_self]
      simp [unreached]
    · rw [lastNamed_leaving same]

theorem fragmentDocument_mem (member : f ∈ index.fragments) :
    fragmentDocument f ∈ index.documents :=
  List.mem_append_right _ (List.mem_map_of_mem member)

theorem target_mem_documents (target : d ∈ targets index) : d ∈ index.documents := by
  rcases mem_targets_iff.mp target with ⟨o, member, rfl⟩ | ⟨f, chosen, rfl⟩
  · exact List.mem_append_left _ (List.mem_map_of_mem member)
  · exact fragmentDocument_mem (fragmentTarget_mem chosen)

/-- A document that is clear has had each fragment it reaches walked through. -/
theorem clearAhead_of_reachable (distinct : index.DistinctNames) (acyclic : index.Acyclic)
    (visible : index.SpreadsVisible) (member : d ∈ index.documents)
    (clear : check limits d (Closure.resolve index d).fragments = [])
    (reached : Closure.Reachable index d name) (found : index.fragment? name = some f) :
    ClearAhead index limits d.node.displayName (index.Leads name) f.node.body := by
  have start : ClearAhead index limits d.node.displayName (Closure.Reachable index d) d.node.body :=
    ⟨_, _, _, (check_eq_nil_iff ..).mp clear, fun name f reached found =>
      (lastNamed_enterableFrom_iff d name).mpr ⟨reached, found⟩⟩
  -- Along the way to the fragment: first into one that the document itself spreads, then from one
  -- fragment to the next.
  induction reached generalizing f with
  | start spread fresh =>
    have reached : Closure.Reachable index d _ := .start spread fresh
    exact start.enter acyclic (visible d member) spread reached
      (fun _ => reached.trans_of_acyclic distinct acyclic member) found
  | step _ edge _ ih =>
    have ⟨g, known, spread⟩ := edge
    have seen : SpreadsVisible g.node.body :=
      visible _ (fragmentDocument_mem (Closure.lastNamed_some known).1)
    exact (ih known).enter acyclic seen spread (.single edge)
      (fun _ leads => .head edge leads) found

/-- A walk of its own through a fragment is clear if one that came there from elsewhere is. -/
theorem check_fragment_eq_nil (indexed : index.fragment? f.node.name.text = some f)
    (clear : ClearAhead index limits rootName (index.Leads f.node.name.text) f.node.body) :
    check limits (fragmentDocument f)
      (Closure.resolve index (fragmentDocument f)).fragments = [] := by
  obtain ⟨enterable, place, level, clear, free⟩ := clear
  rw [check_eq_nil_iff]
  refine hits_eq_nil_mono (fun name g found => ?_) (Nat.zero_le level) clear
  obtain ⟨reached, known⟩ := (lastNamed_enterableFrom_iff _ name).mp found
  exact free name g ((Closure.reachable_fragment indexed name).mp reached).1 known

/-- All documents are clear as soon as the targets are. -/
theorem documents_clear_of_targets (distinct : index.DistinctNames) (acyclic : index.Acyclic)
    (visible : index.SpreadsVisible)
    (clear : ∀ d ∈ targets index, check limits d (Closure.resolve index d).fragments = []) :
    ∀ d ∈ index.documents, check limits d (Closure.resolve index d).fragments = [] := by
  intro d member
  rcases List.mem_append.mp member with operation | fragment
  · obtain ⟨o, listed, rfl⟩ := List.mem_map.mp operation
    exact clear _ (operation_mem_targets listed)
  · obtain ⟨f, listed, rfl⟩ := List.mem_map.mp fragment
    rcases fragment_covered distinct listed with target | ⟨t, target, reached⟩
    · exact clear _ (fragment_mem_targets_iff.mpr target)
    · have reached := ((Closure.mem_resolve_names ..).mp reached).1
      have indexed := distinct.indexed listed
      exact check_fragment_eq_nil indexed (clearAhead_of_reachable distinct acyclic visible
        (target_mem_documents target) (clear t target) reached indexed)

end Depth

namespace Session

/-- The rule on depth finds the violations of its targets. -/
theorem value_check_selectionDepth (session : Session) (limits : DepthLimits)
    (cache : UsedFields.Cache) :
    ((session.check (Rule.selectionDepth limits)) cache).value.1 =
      .ok ((Depth.targets session.index.value).flatMap fun d => (Depth.check limits d
        (Closure.resolve session.index.value d).fragments).map Rule.depthDiagnostic) :=
  value_check session (fun _ => True) (fun _ _ _ => ⟨rfl, trivial⟩) cache trivial

/-- Without cycles and hidden spreads, the rule on depth is silent exactly if every document of the
corpus is clear, targets or not. -/
theorem check_selectionDepth_eq_nil_iff (session : Session) (limits : DepthLimits)
    (cache : UsedFields.Cache) (distinct : session.index.value.DistinctNames)
    (acyclic : session.index.value.Acyclic) (visible : session.index.value.SpreadsVisible) :
    ((session.check (Rule.selectionDepth limits)) cache).value.1 = .ok [] ↔
      ∀ d ∈ session.index.value.documents,
        Depth.check limits d (Closure.resolve session.index.value d).fragments = [] := by
  rw [value_check_selectionDepth, Except.ok.injEq, List.flatMap_eq_nil_iff]
  simp only [List.map_eq_nil_iff]
  constructor
  · exact Depth.documents_clear_of_targets distinct acyclic visible
  · exact fun clear d target => clear d (Depth.target_mem_documents target)

open Sketch in
/-- A query and fragments that spread one another in several ways, with one spread of nothing. -/
def layered : CorpusIndex where
  operations := [query [field "a" [spread "B"], field "__schema" [field "types" []]]]
  fragments := [fragment "A" [field "x" [spread "B"], spread "C"], fragment "B" [spread "C"],
    fragment "C" [field "y" [field "z" []], spread "missing"]]

theorem layered_acyclic : layered.Acyclic := by
  refine CorpusIndex.acyclic_of_rank
    (fun name => if name = "A" then 3 else if name = "B" then 2 else if name = "C" then 1 else 0) ?_
  simp [layered, Sketch.fragment, Sketch.field, Sketch.spread, Sketch.name, or_imp, forall_and]

theorem layered_visible : layered.SpreadsVisible := by
  simp [CorpusIndex.SpreadsVisible, CorpusIndex.documents, layered, Sketch.fragment, Sketch.field,
    Sketch.spread, Sketch.name, Sketch.query, Sourced.map, Executable.body]

theorem layered_check_eq_nil_iff :
    layered.DistinctNames ∧ layered.Acyclic ∧ layered.SpreadsVisible ∧
      (((({ (default : Session) with index := ⟨0, layered⟩ } : Session).check
          (Rule.selectionDepth ⟨2, [.name "x"]⟩)) default).value.1 = .ok [] ↔
        ∀ d ∈ layered.documents,
          Depth.check ⟨2, [.name "x"]⟩ d (Closure.resolve layered d).fragments = []) :=
  ⟨by decide, layered_acyclic, layered_visible,
    check_selectionDepth_eq_nil_iff { (default : Session) with index := ⟨0, layered⟩ }
      ⟨2, [.name "x"]⟩ default (by decide) layered_acyclic layered_visible⟩

end Session

end QueryAudit
