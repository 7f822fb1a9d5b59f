import QueryAudit.Proofs.Corpus.Named

/-! The index of a list of documents. It holds these documents and no others. What a name stands for
in it is told by the documents that bear the name, and their order matters only where there are
several of them. -/
namespace QueryAudit.CorpusIndex

variable {documents reordered : List CorpusDocument} {d : CorpusDocument} {f : Sourced Fragment}
  {o : Sourced Operation}

theorem mem_operations_ofDocuments :
    o ∈ (ofDocuments documents).operations ↔ o.map .operation ∈ documents := by
  simp only [ofDocuments, List.mem_filterMap]
  constructor
  · rintro ⟨⟨node, origin, path⟩, member, same⟩
    cases node <;> cases same
    exact member
  · exact fun member => ⟨_, member, rfl⟩

theorem mem_fragments_ofDocuments :
    f ∈ (ofDocuments documents).fragments ↔ f.map .fragment ∈ documents := by
  simp only [ofDocuments, List.mem_filterMap]
  constructor
  · rintro ⟨⟨node, origin, path⟩, member, same⟩
    cases node <;> cases same
    exact member
  · exact fun member => ⟨_, member, rfl⟩

theorem mem_documents_ofDocuments : d ∈ (ofDocuments documents).documents ↔ d ∈ documents := by
  rw [CorpusIndex.documents, List.mem_append, List.mem_map, List.mem_map]
  constructor
  · rintro (⟨o, member, rfl⟩ | ⟨f, member, rfl⟩)
    · exact mem_operations_ofDocuments.mp member
    · exact mem_fragments_ofDocuments.mp member
  · intro member
    obtain ⟨node, origin, path⟩ := d
    cases node with
    | operation o => exact .inl ⟨⟨o, origin, path⟩, mem_operations_ofDocuments.mpr member, rfl⟩
    | fragment f => exact .inr ⟨⟨f, origin, path⟩, mem_fragments_ofDocuments.mpr member, rfl⟩

theorem fragments_filter (keep : CorpusDocument → Bool) (documents : List CorpusDocument) :
    (ofDocuments (documents.filter keep)).fragments =
      (ofDocuments documents).fragments.filter fun f => keep (f.map .fragment) := by
  induction documents with
  | nil => rfl
  | cons d rest ih =>
    simp only [ofDocuments] at ih ⊢
    obtain ⟨node, origin, path⟩ := d
    cases node with
    | operation o => by_cases kept : keep ⟨.operation o, origin, path⟩ <;> simp [kept, ih]
    | fragment f =>
      by_cases kept : keep ⟨.fragment f, origin, path⟩ <;> simp [kept, ih, Sourced.map]

/-- What a name stands for is told by the documents that bear it. -/
theorem fragment?_filter {keep : CorpusDocument → Bool} {name : String}
    (kept : ∀ d ∈ documents, d.node.fragmentName? = some name → keep d) :
    (ofDocuments (documents.filter keep)).fragment? name =
      (ofDocuments documents).fragment? name := by
  rw [fragment?, fragments_filter, fragment?]
  refine lastNamed_filter _ fun f member same => ?_
  exact kept _ (mem_fragments_ofDocuments.mp member) (congrArg some same)

section Reordered

variable (perm : reordered.Perm documents)

include perm

theorem operations_perm :
    (ofDocuments reordered).operations.Perm (ofDocuments documents).operations :=
  perm.filterMap _

theorem fragments_perm :
    (ofDocuments reordered).fragments.Perm (ofDocuments documents).fragments :=
  perm.filterMap _

theorem distinctNames_perm (distinct : (ofDocuments documents).DistinctNames) :
    (ofDocuments reordered).DistinctNames :=
  ((fragments_perm perm).map _).nodup_iff.mpr distinct

theorem fragment?_perm (distinct : (ofDocuments documents).DistinctNames) (name : String) :
    (ofDocuments reordered).fragment? name = (ofDocuments documents).fragment? name :=
  lastNamed_perm distinct (fragments_perm perm) name

end Reordered

end QueryAudit.CorpusIndex
