import QueryAudit.Proofs.Corpus.Duplicates

/-! Building the index of a corpus. The first definition that is neither an operation nor a fragment
stops the build. Otherwise the index holds all definitions of the inputs in their order, and a name
stands for the last fragment that bears it. -/
namespace QueryAudit

/-- Each item once. -/
theorem nodup_eraseDups [BEq α] [LawfulBEq α] (items : List α) : items.eraseDups.Nodup := by
  induction length : items.length using Nat.strongRecOn generalizing items with
  | ind size ih =>
    cases items with
    | nil => exact List.nodup_nil
    | cons a rest =>
      have shorter : (rest.filter fun b => !b == a).length < size := by
        have := List.length_filter_le (fun b => !b == a) rest
        simp only [List.length_cons] at length
        omega
      rw [List.eraseDups_cons, List.nodup_cons]
      exact ⟨by simp, ih _ shorter _ rfl⟩

namespace CorpusIndex

/-- An index holds definitions, all of them and no others. -/
structure Holds (index : CorpusIndex) (definitions : List (Sourced Definition)) : Prop where
  operations : index.operations.map (·.map .operation) = definitions.filter (·.node.isOperation)
  fragments : index.fragments.map (·.map .fragment) = definitions.filter (·.node.isFragment)
  /-- A name stands for the last fragment that bears it. -/
  named : ∀ name f, index.fragment? name = some f ↔ ∃ front back,
    definitions = front ++ f.map .fragment :: back ∧ f.node.name.text = name ∧
      ∀ d ∈ back, d.node.fragmentName? ≠ some name
  unnamed : ∀ name, index.fragment? name = none ↔
    ∀ d ∈ definitions, d.node.fragmentName? ≠ some name
  names : ∀ name, name ∈ index.fragmentNames ↔ ∃ d ∈ definitions, d.node.fragmentName? = some name
  namesOnce : index.fragmentNames.Nodup
  size : index.size = definitions.length

theorem holds_ofDocuments (documents : List CorpusDocument) :
    (ofDocuments documents).Holds (documents.map (·.map Executable.toDefinition)) where
  operations := operations_ofDocuments documents
  fragments := fragments_ofDocuments documents
  named name f := by
    rw [fragment?, fragments_ofDocuments_filterMap, lastNamed_definitions_eq_some_iff]
  unnamed name := by
    rw [fragment?, fragments_ofDocuments_filterMap, lastNamed_definitions_eq_none_iff]
  names name := by
    rw [fragmentNames, List.mem_eraseDups, fragments_ofDocuments_filterMap]
    constructor
    · intro member
      obtain ⟨f, held, rfl⟩ := List.mem_map.mp member
      obtain ⟨d, given, found⟩ := List.mem_filterMap.mp held
      obtain rfl := fragment?_eq_some_iff.mp found
      exact ⟨_, given, rfl⟩
    · rintro ⟨d, member, named⟩
      obtain ⟨f, rfl, rfl⟩ := fragmentName?_eq_some_iff.mp named
      exact List.mem_map.mpr ⟨f, List.mem_filterMap.mpr ⟨_, member, rfl⟩, rfl⟩
  namesOnce := nodup_eraseDups _
  size := by rw [size_ofDocuments, List.length_map]

/-- What comes of building an index from definitions. -/
structure Indexed (definitions : List (Sourced Definition))
    (built : Logged (Except Unclassifiable CorpusIndex)) : Prop where
  /-- The build fails if something is neither an operation nor a fragment. -/
  fails : (∃ error, built.value = .error error) ↔
    ∃ d ∈ definitions, d.node.isOperation = false ∧ d.node.isFragment = false
  /-- The error names kind and place of the first such definition. What comes before it is told. -/
  first : ∀ error, built.value = .error error → ∃ front d back, definitions = front ++ d :: back ∧
    (∀ e ∈ front, e.node.isOperation = true ∨ e.node.isFragment = true) ∧
    d.node.isOperation = false ∧ d.node.isFragment = false ∧ error.kind = d.node.kindText ∧
    error.place = (d.locate d.node.position).elim d.sourcePath (fun location => location.text) ∧
    Warns front built.events
  /-- Otherwise the index holds everything, and the events end with its numbers. -/
  holds : ∀ index, built.value = .ok index → index.Holds definitions ∧ ∃ warnings,
    built.events = warnings ++
      [.corpusIndexed index.operations.length index.fragments.length] ∧
    Warns definitions warnings

/-- What an index has grown by, where a name stood for the last fragment that bore it. -/
structure Grows (growing grown : Growing) (documents : List CorpusDocument) : Prop where
  operations : grown.operations = growing.operations ++ (ofDocuments documents).operations
  fragments : grown.fragments = growing.fragments ++ (ofDocuments documents).fragments
  named : ∀ name, grown.named name = lastNamed name grown.fragments
  events : grown.events =
    growing.events ++ duplicates growing.fragments (ofDocuments documents).fragments

section Grows

variable {growing : Growing}

theorem grows_add (named : ∀ name, growing.named name = lastNamed name growing.fragments)
    (d : CorpusDocument) : Grows growing (growing.add d) [d] := by
  obtain ⟨node, origin, path⟩ := d
  cases node with
  | operation o =>
    refine ⟨rfl, ?_, named, ?_⟩
    · simp [Growing.add, ofDocuments]
    · simp [Growing.add, ofDocuments, duplicates]
  | fragment f =>
    refine ⟨?_, rfl, fun name => ?_, ?_⟩
    · simp [Growing.add, ofDocuments]
    · by_cases same : f.name.text = name <;>
        simp [Growing.add, lastNamed_append, lastNamed, named, same, eq_comm (a := name)]
    · cases last : lastNamed f.name.text growing.fragments <;>
        simp [Growing.add, ofDocuments, duplicates, named, last]

/-- Documents that are taken in one by one make the index of all of them, and each fragment whose
name was borne before is told of. -/
theorem grows_foldl (named : ∀ name, growing.named name = lastNamed name growing.fragments)
    (documents : List CorpusDocument) :
    Grows growing (documents.foldl .add growing) documents := by
  induction documents generalizing growing with
  | nil =>
    refine ⟨?_, ?_, named, ?_⟩ <;> simp [ofDocuments, duplicates]
  | cons d rest ih =>
    have first := grows_add named d
    have later := ih first.named
    have operations : (ofDocuments (d :: rest)).operations =
        (ofDocuments [d]).operations ++ (ofDocuments rest).operations :=
      operations_append [d] rest
    have fragments : (ofDocuments (d :: rest)).fragments =
        (ofDocuments [d]).fragments ++ (ofDocuments rest).fragments :=
      fragments_append [d] rest
    refine ⟨?_, ?_, later.named, ?_⟩
    · rw [operations, ← List.append_assoc, ← first.operations]
      exact later.operations
    · rw [fragments, ← List.append_assoc, ← first.fragments]
      exact later.fragments
    · rw [fragments, duplicates_append, ← List.append_assoc, ← first.events, ← first.fragments]
      exact later.events

theorem grows_from_nothing (documents : List CorpusDocument) :
    Grows {} (documents.foldl .add {}) documents :=
  grows_foldl (fun _ => rfl) documents

end Grows

theorem build_executable {inputs : List CorpusInput}
    (executable : ∀ d ∈ inputs.flatMap (·.definitions), d.node.executable?.isSome) :
    ∃ documents, documents.map (·.map Executable.toDefinition) = inputs.flatMap (·.definitions) ∧
      build inputs = ⟨duplicates [] (ofDocuments documents).fragments ++
        [.corpusIndexed (ofDocuments documents).operations.length
          (ofDocuments documents).fragments.length], .ok (ofDocuments documents)⟩ := by
  obtain ⟨documents, same, done⟩ := addAll_executable executable {}
  have grows := grows_from_nothing documents
  refine ⟨documents, same, ?_⟩
  rw [build, done]
  simp only [grows.operations, grows.fragments, grows.events, List.nil_append]

theorem build_stops {inputs : List CorpusInput} {front back : List (Sourced Definition)}
    {d : Sourced Definition} (split : inputs.flatMap (·.definitions) = front ++ d :: back)
    (executable : ∀ e ∈ front, e.node.executable?.isSome) (stop : d.node.executable? = none) :
    build inputs = ⟨duplicates [] (front.filterMap (·.fragment?)),
      .error (.ofKind d.node.kindText (d.locate d.node.position) d.sourcePath)⟩ := by
  obtain ⟨documents, rfl, done⟩ := addAll_stops executable stop {} back
  rw [build, split, done, ← fragments_ofDocuments_filterMap]
  simp only [(grows_from_nothing documents).events, List.nil_append]

section Outcomes

variable {inputs : List CorpusInput}

theorem indexed_executable
    (executable : ∀ d ∈ inputs.flatMap (·.definitions), d.node.executable?.isSome) :
    Indexed (inputs.flatMap (·.definitions)) (build inputs) := by
  obtain ⟨documents, same, built⟩ := build_executable executable
  rw [← same] at executable ⊢
  rw [built]
  refine ⟨⟨by simp, ?_⟩, by simp, ?_⟩
  · rintro ⟨d, member, neither⟩
    simpa [executable?_eq_none_iff.mpr neither] using executable d member
  · rintro index ⟨⟩
    refine ⟨holds_ofDocuments documents, _, rfl, ?_⟩
    rw [fragments_ofDocuments_filterMap]
    exact warns_duplicates _

theorem indexed_stops {front back : List (Sourced Definition)} {d : Sourced Definition}
    (split : inputs.flatMap (·.definitions) = front ++ d :: back)
    (executable : ∀ e ∈ front, e.node.executable?.isSome) (stop : d.node.executable? = none) :
    Indexed (inputs.flatMap (·.definitions)) (build inputs) := by
  have neither := executable?_eq_none_iff.mp stop
  rw [build_stops split executable stop, split]
  refine ⟨⟨fun _ => ⟨d, by simp, neither⟩, fun _ => ⟨_, rfl⟩⟩, ?_, by simp⟩
  rintro error ⟨⟩
  refine ⟨front, d, back, rfl, fun e member => executable?_isSome_iff.mp (executable e member),
    neither.1, neither.2, rfl, ?_, warns_duplicates front⟩
  cases d.locate d.node.position <;> rfl

end Outcomes

/-- Building an index takes the definitions of its inputs in order, loses none and adds none. -/
theorem build_indexed (inputs : List CorpusInput) :
    ∃ definitions, (∀ flat, Flattens inputs flat ↔ flat = definitions) ∧
      Indexed definitions (build inputs) := by
  refine ⟨inputs.flatMap (·.definitions), fun flat => flattens_iff, ?_⟩
  cases stop : (inputs.flatMap (·.definitions)).find? (·.node.executable?.isNone) with
  | none =>
    refine indexed_executable fun d member => ?_
    simpa [Option.isSome_iff_ne_none] using List.find?_eq_none.mp stop d member
  | some d =>
    obtain ⟨found, front, back, split, before⟩ := List.find?_eq_some_iff_append.mp stop
    refine indexed_stops split (fun e member => ?_) (by simpa using found)
    simpa [Option.isSome_iff_ne_none] using before e member

end CorpusIndex

end QueryAudit
