import Mathlib.Data.Fintype.Card
import Mathlib.Data.Set.Finite.Basic
import Mathlib.Order.WellFounded
import QueryAudit.Proofs.Corpus.Documents
import QueryAudit.Proofs.Depth.Targets

/-! Targets of a corpus without cycles. There a fragment that no operation reaches lies behind a
fragment that nothing spreads, since going back along spreads comes to an end. So the fragments
among the targets are the sources of the spread graph: those that no document spreads. -/
namespace QueryAudit

namespace Closure

/-- Whatever a document reaches is spread in some document. -/
theorem Reachable.spread_somewhere {index : CorpusIndex} {d : CorpusDocument} {name : String}
    (member : d ∈ index.documents) (reached : Reachable index d name) :
    ∃ e ∈ index.documents, SpreadIn name e.node.body := by
  obtain ⟨spread | ⟨via, _, f, found, spread⟩, _⟩ := CorpusIndex.Reaches.iff_last.mp reached
  · exact ⟨d, member, spread⟩
  · have listed := (lastNamed_some found).1
    exact ⟨f.map .fragment, List.mem_append_right _ (List.mem_map_of_mem listed), spread⟩

end Closure

namespace CorpusIndex

/-- Whether there are cycles does not depend on the order of documents with distinct names. -/
theorem acyclic_perm {documents reordered : List CorpusDocument} (perm : reordered.Perm documents)
    (distinct : (ofDocuments documents).DistinctNames) (acyclic : (ofDocuments documents).Acyclic) :
    (ofDocuments reordered).Acyclic := by
  have edges : (ofDocuments reordered).SpreadsTo = (ofDocuments documents).SpreadsTo := by
    funext name next
    simp only [SpreadsTo, fragment?_perm perm distinct]
  rw [Acyclic, Leads, edges]
  exact acyclic

end CorpusIndex

namespace Depth

variable {index : CorpusIndex} {f g : Sourced Fragment}

/-- Where all names are covered, the pass over what is left takes nothing. -/
theorem uncovered_eq_nil {covered : List String} {list : List (Sourced Fragment)}
    (all : ∀ f ∈ list, f.node.name.text ∈ covered) : uncovered index covered list = [] := by
  induction list with
  | nil => rfl
  | cons f rest ih =>
    rw [List.forall_mem_cons] at all
    rw [uncovered, if_pos all.1, ih all.2]

theorem chosen_eq_filter {spread covered : List String} {list : List (Sourced Fragment)}
    (all : ∀ f ∈ list, f.node.name.text ∈ covered) :
    chosen index spread covered list = list.filter (·.node.name.text ∉ spread) := by
  induction list with
  | nil => rfl
  | cons f rest ih =>
    rw [List.forall_mem_cons] at all
    rw [chosen, ih all.2, List.filter_cons]
    by_cases unspread : f.node.name.text ∉ spread
    · simp [unspread]
    · simp [unspread, all.1]

section Acyclic

variable (distinct : index.DistinctNames) (acyclic : index.Acyclic)

include distinct acyclic

theorem reaching_iff_leads_of_acyclic (left : f ∈ index.fragments) (right : g ∈ index.fragments) :
    Reaching index f g ↔ index.Leads f.node.name.text g.node.name.text := by
  rw [Reaching.iff_leads distinct left right]
  refine and_iff_left_of_imp fun leads same => ?_
  exact acyclic _ (same ▸ leads)

/-- Going back from a fragment to one that reaches it comes to an end. -/
theorem wellFounded_reaching :
    WellFounded fun g f : {f // f ∈ index.fragments} => Reaching index g.1 f.1 := by
  have leads (g f : {f // f ∈ index.fragments}) :=
    reaching_iff_leads_of_acyclic distinct acyclic g.2 f.2
  have : Finite {f // f ∈ index.fragments} := List.finite_toSet index.fragments
  have : IsTrans {f // f ∈ index.fragments} fun g f => Reaching index g.1 f.1 := by
    refine ⟨fun f g h fg gh => (leads f h).mpr ?_⟩
    exact ((leads f g).mp fg).trans ((leads g h).mp gh)
  have : Std.Irrefl fun g f : {f // f ∈ index.fragments} => Reaching index g.1 f.1 :=
    ⟨fun f reaching => reaching.name_ne rfl⟩
  exact Finite.wellFounded_of_trans_of_irrefl _

/-- A fragment that no operation reaches is a source or is reached from one: of all fragments that
lead to it, take one that no other leads to. -/
theorem exists_source (alone : f ∈ standalone index) :
    ∃ g ∈ sources index, g = f ∨ Reaching index g f := by
  have member := standalone_sublist.subset alone
  obtain ⟨⟨g, listed⟩, leads, first⟩ := (wellFounded_reaching distinct acyclic).has_min
    {g | g.1 = f ∨ Reaching index g.1 f} ⟨⟨f, member⟩, .inl rfl⟩
  have aloneToo : g ∈ standalone index := by
    rcases leads with rfl | reaching
    · exact alone
    · exact standalone_of_reaching distinct listed alone reaching
  refine ⟨g, (mem_sources_iff distinct aloneToo).mpr fun h other before => ?_, leads⟩
  refine first ⟨h, other⟩ (.inr ?_) before
  rcases leads with rfl | reaching
  · exact before
  · rw [reaching_iff_leads_of_acyclic distinct acyclic other listed] at before
    rw [reaching_iff_leads_of_acyclic distinct acyclic listed member] at reaching
    rw [reaching_iff_leads_of_acyclic distinct acyclic other member]
    exact before.trans reaching

/-- Operations and sources leave nothing to be covered. -/
theorem standalone_covered (alone : f ∈ standalone index) :
    f.node.name.text ∈ coveredBySources index := by
  obtain ⟨g, source, leads⟩ := exists_source distinct acyclic alone
  refine (mem_coveredBySources alone).mpr ⟨g, source, mem_coveredBy.mpr (leads.imp_left ?_)⟩
  rintro rfl
  rfl

theorem cycleEntries_eq_nil : cycleEntries index = [] :=
  uncovered_eq_nil fun _ => standalone_covered distinct acyclic

theorem fragmentTargets_eq_sources : fragmentTargets index = sources index :=
  chosen_eq_filter fun _ => standalone_covered distinct acyclic

/-- The sources are the fragments that no document spreads. -/
theorem mem_sources_iff_unspread : f ∈ sources index ↔
    f ∈ index.fragments ∧ ∀ d ∈ index.documents, ¬ SpreadIn f.node.name.text d.node.body := by
  constructor
  · intro source
    have alone := (mem_sources.mp source).1
    obtain ⟨member, uncovered⟩ := mem_standalone.mp alone
    have unreached := (mem_sources_iff distinct alone).mp source
    refine ⟨member, fun d listed spread => ?_⟩
    rcases List.mem_append.mp listed with operation | fragment
    · obtain ⟨o, known, rfl⟩ := List.mem_map.mp operation
      have reached : Closure.Reachable index (o.map .operation) f.node.name.text :=
        .start spread List.not_mem_nil
      refine uncovered ((mem_coveredByOperations _).mpr ⟨o, known, ?_⟩)
      exact (Closure.mem_resolve_names ..).mpr ⟨reached, by simp [distinct.indexed member]⟩
    · obtain ⟨g, known, rfl⟩ := List.mem_map.mp fragment
      have edge : index.SpreadsTo g.node.name.text f.node.name.text :=
        ⟨g, distinct.indexed known, spread⟩
      exact unreached g known
        ((reaching_iff_leads_of_acyclic distinct acyclic known member).mpr (.single edge))
  · rintro ⟨member, unspread⟩
    have unreached (d : CorpusDocument) (listed : d ∈ index.documents) :
        f.node.name.text ∉ reachedBy index d := by
      intro reached
      obtain ⟨e, elsewhere, spread⟩ :=
        ((Closure.mem_resolve_names ..).mp reached).1.spread_somewhere listed
      exact unspread e elsewhere spread
    have alone : f ∈ standalone index := by
      refine mem_standalone.mpr ⟨member, fun covered => ?_⟩
      obtain ⟨o, known, reached⟩ := (mem_coveredByOperations _).mp covered
      exact unreached _ (List.mem_append_left _ (List.mem_map_of_mem known)) reached
    refine (mem_sources_iff distinct alone).mpr fun g known reaching => ?_
    exact unreached _ (List.mem_append_right _ (List.mem_map_of_mem known)) reaching

end Acyclic

/-- The targets among documents: besides the operations, the fragments that none of the documents
spreads. No cycle is left to be entered, and the order of the documents does not matter. -/
structure SourcesOnly (documents : List CorpusDocument) : Prop where
  fragments : ∀ f : Sourced Fragment, f.map .fragment ∈ targets (.ofDocuments documents) ↔
    f.map .fragment ∈ documents ∧ ∀ d ∈ documents, ¬ SpreadIn f.node.name.text d.node.body
  noCycles : cycleEntries (.ofDocuments documents) = [] ∧
    fragmentTargets (.ofDocuments documents) = sources (.ofDocuments documents)
  anyOrder : ∀ reordered : List CorpusDocument, reordered.Perm documents →
    (targets (.ofDocuments reordered)).Perm (targets (.ofDocuments documents))

variable {documents reordered : List CorpusDocument}

theorem fragment_mem_targets_iff_unspread
    (distinct : (CorpusIndex.ofDocuments documents).DistinctNames)
    (acyclic : (CorpusIndex.ofDocuments documents).Acyclic) :
    f.map .fragment ∈ targets (.ofDocuments documents) ↔
      f.map .fragment ∈ documents ∧ ∀ d ∈ documents, ¬ SpreadIn f.node.name.text d.node.body := by
  change fragmentDocument f ∈ _ ↔ _
  rw [fragment_mem_targets_iff, fragmentTargets_eq_sources distinct acyclic,
    mem_sources_iff_unspread distinct acyclic, CorpusIndex.mem_fragments_ofDocuments]
  simp only [CorpusIndex.mem_documents_ofDocuments]

theorem fragmentTargets_nodup (distinct : index.DistinctNames) : (fragmentTargets index).Nodup :=
  fragmentTargets_sublist.nodup (standalone_nodup distinct)

theorem targets_perm (perm : reordered.Perm documents)
    (distinct : (CorpusIndex.ofDocuments documents).DistinctNames)
    (acyclic : (CorpusIndex.ofDocuments documents).Acyclic) :
    (targets (.ofDocuments reordered)).Perm (targets (.ofDocuments documents)) := by
  have distinctToo := CorpusIndex.distinctNames_perm perm distinct
  have acyclicToo := CorpusIndex.acyclic_perm perm distinct acyclic
  refine ((CorpusIndex.operations_perm perm).map _).append (List.Perm.map _ ?_)
  rw [List.perm_ext_iff_of_nodup (fragmentTargets_nodup distinctToo)
    (fragmentTargets_nodup distinct)]
  intro f
  rw [← fragment_mem_targets_iff, ← fragment_mem_targets_iff]
  refine (fragment_mem_targets_iff_unspread distinctToo acyclicToo).trans
    (Iff.trans ?_ (fragment_mem_targets_iff_unspread distinct acyclic).symm)
  simp only [perm.mem_iff]

/-- Without cycles the fragments among the targets are the sources of the spread graph. -/
theorem targets_sourcesOnly (documents : List CorpusDocument)
    (distinct : (CorpusIndex.ofDocuments documents).DistinctNames)
    (acyclic : (CorpusIndex.ofDocuments documents).Acyclic) : SourcesOnly documents where
  fragments _ := fragment_mem_targets_iff_unspread distinct acyclic
  noCycles := ⟨cycleEntries_eq_nil distinct acyclic, fragmentTargets_eq_sources distinct acyclic⟩
  anyOrder _ perm := targets_perm perm distinct acyclic

open Sketch in
/-- A fragment that an operation spreads, one that nothing spreads, and a chain of two. -/
def chained : List CorpusDocument := [
  (fragment "Tail" [field "photos" [field "url" []], spread "missing"]).map .fragment,
  (query [field "viewer" [spread "Used"]]).map .operation,
  (fragment "Used" [field "id" []]).map .fragment,
  (fragment "Unused" [field "photos" [field "url" []]]).map .fragment,
  (fragment "Chained" [field "albums" [spread "Tail"]]).map .fragment]

theorem chained_acyclic : (CorpusIndex.ofDocuments chained).Acyclic := by
  refine CorpusIndex.acyclic_of_rank
    (fun name => if name = "Chained" then 2 else if name = "Tail" then 1 else 0) ?_
  simp [chained, CorpusIndex.ofDocuments, Sketch.fragment, Sketch.field, Sketch.spread, Sketch.name,
    Sketch.query, Sourced.map, or_imp, forall_and]

theorem chained_sourcesOnly : (CorpusIndex.ofDocuments chained).DistinctNames ∧
    (CorpusIndex.ofDocuments chained).Acyclic ∧ SourcesOnly chained :=
  ⟨by decide, chained_acyclic, targets_sourcesOnly chained (by decide) chained_acyclic⟩

end Depth

end QueryAudit
