import QueryAudit.Proofs.Binding.Typing
import QueryAudit.Proofs.Corpus.Indexing
import QueryAudit.Proofs.Corpus.Sketch
import QueryAudit.Proofs.UsedFields.Content

/-! Used fields of corpora that are put together. A field is used if some definition selects it, so
the used fields of two corpora are those of the one and those of the other, type by type. How the
definitions are ordered, grouped and repeated does not matter, nor does which of several fragments
their name stands for. -/
namespace QueryAudit

/-- All definitions of the inputs can be executed or spread. -/
def Classifiable (inputs : List CorpusInput) : Prop :=
  ∀ d ∈ inputs.flatMap (·.definitions), d.node.executable?.isSome

/-- Every definition of some inputs is found in others too, wherever it comes from there. -/
def Covered (inputs others : List CorpusInput) : Prop :=
  ∀ d ∈ inputs.flatMap (·.definitions), ∃ e ∈ others.flatMap (·.definitions), e.node = d.node

/-- Some definition of the inputs selects a field that binds, by the names of type and field. -/
def SelectedIn (schema : Schema) (inputs : List CorpusInput) (use : String × String) : Prop :=
  ∃ d ∈ inputs.flatMap (·.definitions), ∃ node trail b, d.node.executable? = some node ∧
    schema.Binds node trail b ∧ (b.parent.name, b.head.name.text) = use

section Inputs

variable {schema : Schema} {inputs others : List CorpusInput} {use : String × String}

theorem Classifiable.append (first : Classifiable inputs) (second : Classifiable others) :
    Classifiable (inputs ++ others) := by
  rw [Classifiable, List.flatMap_append, List.forall_mem_append]
  exact ⟨first, second⟩

theorem selectedIn_append : SelectedIn schema (inputs ++ others) use ↔
    SelectedIn schema inputs use ∨ SelectedIn schema others use := by
  simp only [SelectedIn, List.flatMap_append, List.mem_append, or_and_right, exists_or]

theorem SelectedIn.mono (covered : Covered inputs others)
    (selected : SelectedIn schema inputs use) : SelectedIn schema others use := by
  obtain ⟨d, member, node, trail, b, found, binds, named⟩ := selected
  obtain ⟨e, there, same⟩ := covered d member
  exact ⟨e, there, node, trail, b, by rw [same, found], binds, named⟩

theorem SelectedIn.declared {type field : String}
    (selected : SelectedIn schema inputs (type, field)) :
    ∃ t definition, schema.type? type = some t ∧ t.Declares field definition := by
  obtain ⟨_, _, _, _, b, _, binds, named⟩ := selected
  obtain ⟨rfl, rfl⟩ := Prod.mk.inj named
  exact ⟨b.parent, b.field, binds.type?_parent, binds.declares⟩

end Inputs

namespace UsedFields

/-- The fields that one or the other uses, type by type. -/
def union (used other : UsedFields) : UsedFields :=
  ofLists ((used.typeNames ++ other.typeNames.filter (· ∉ used.typeNames)).map fun type =>
    (type, used.fieldsOf type ++ other.fieldsOf type))

section Union

variable {used other : UsedFields} {type field : String}

theorem union_distinct (proper : used.Proper) (others : other.Proper) :
    (((used.typeNames ++ other.typeNames.filter (· ∉ used.typeNames)).map fun type =>
      (type, used.fieldsOf type ++ other.fieldsOf type)).map Prod.fst).Nodup := by
  rw [List.map_map, Function.comp_def, List.map_id']
  refine List.nodup_append.mpr ⟨proper.distinct, others.distinct.filter _, ?_⟩
  intro type first type' second same
  subst same
  simp [first] at second

theorem Proper.union (proper : used.Proper) (others : other.Proper) : (used.union other).Proper :=
  proper_ofLists (union_distinct proper others)

theorem isUsed_union (proper : used.Proper) (others : other.Proper) :
    (used.union other).isUsed type field = true ↔
      used.isUsed type field = true ∨ other.isUsed type field = true := by
  have either : field ∈ used.fieldsOf type ++ other.fieldsOf type ↔
      used.isUsed type field = true ∨ other.isUsed type field = true := by
    simp [isUsed]
  rw [UsedFields.union, isUsed_ofLists (union_distinct proper others)]
  constructor
  · rintro ⟨fields, member, held⟩
    obtain ⟨_, _, same⟩ := List.mem_map.mp member
    cases same
    exact either.mp held
  · intro uses
    refine ⟨_, List.mem_map.mpr ⟨type, ?_, rfl⟩, either.mpr uses⟩
    -- a type that both have stands among those of the first only
    by_cases first : type ∈ used.typeNames
    · exact List.mem_append_left _ first
    · have second : type ∈ other.typeNames := by
        rcases uses with inFirst | inSecond
        · exact absurd (proper.mem_typeNames.mpr ⟨field, inFirst⟩) first
        · exact others.mem_typeNames.mpr ⟨field, inSecond⟩
      exact List.mem_append_right _ (List.mem_filter.mpr ⟨second, by simpa using first⟩)

end Union

/-- The used fields of the corpus that inputs make up. -/
def ofInputs (schema : Schema) (inputs : List CorpusInput) : Except Unclassifiable UsedFields :=
  (CorpusIndex.build inputs).value.map (ofCorpus schema)

/-- Used fields as inputs determine them, up to their order. -/
structure Tells (schema : Schema) (inputs : List CorpusInput) (used : UsedFields) : Prop where
  proper : used.Proper
  selected : ∀ type field,
    used.isUsed type field = true ↔ SelectedIn schema inputs (type, field)

section Tells

variable {schema : Schema} {inputs others : List CorpusInput} {used other both : UsedFields}

/-- An index puts operations before fragments and forgets shadowed ones by name, but it binds all
that it was given. -/
theorem usedIn_ofDocuments {documents : List CorpusDocument} {use : String × String}
    (same : documents.map (·.map Executable.toDefinition) = inputs.flatMap (·.definitions)) :
    UsedIn schema (CorpusIndex.ofDocuments documents).documents use ↔
      SelectedIn schema inputs use := by
  rw [SelectedIn, ← same]
  constructor
  · rintro ⟨d, member, bound, binds, named⟩
    obtain ⟨trail, derived⟩ := Schema.mem_boundFields_iff.mp ⟨bound, binds, rfl⟩
    have given := CorpusIndex.mem_documents_ofDocuments.mp member
    exact ⟨_, List.mem_map_of_mem given, d.node, trail, bound.binding, executable?_toDefinition _,
      derived, named⟩
  · rintro ⟨_, member, node, trail, b, found, binds, named⟩
    obtain ⟨d, given, rfl⟩ := List.mem_map.mp member
    obtain rfl : d.node = node := Option.some.inj ((executable?_toDefinition _).symm.trans found)
    obtain ⟨bound, listed, rfl⟩ := Schema.mem_boundFields_iff.mpr ⟨trail, binds⟩
    exact ⟨d, CorpusIndex.mem_documents_ofDocuments.mpr given, bound, listed, named⟩

theorem ofInputs_tells (schema : Schema) (classifiable : Classifiable inputs) :
    ∃ used, ofInputs schema inputs = .ok used ∧ Tells schema inputs used := by
  obtain ⟨documents, same, built⟩ := CorpusIndex.build_executable classifiable
  refine ⟨ofCorpus schema (.ofDocuments documents), by rw [ofInputs, built]; rfl, ?_⟩
  refine ⟨proper_ofPairs _, fun type field => ?_⟩
  rw [isUsed_ofCorpus, usedIn_ofDocuments same]

namespace Tells

theorem mono (tells : Tells schema inputs used) (tellsOther : Tells schema others other)
    (covered : Covered inputs others) {type field : String}
    (uses : used.isUsed type field = true) : other.isUsed type field = true := by
  rw [tellsOther.selected]
  exact ((tells.selected type field).mp uses).mono covered

theorem beq (tells : Tells schema inputs used) (tellsOther : Tells schema others other)
    (covered : Covered inputs others) (back : Covered others inputs) : (used == other) = true := by
  refine beq_of_isUsed tells.proper tellsOther.proper fun type field => ?_
  rw [Bool.eq_iff_iff]
  exact ⟨tells.mono tellsOther covered, tellsOther.mono tells back⟩

theorem isUsed_append (tells : Tells schema inputs used) (tellsOther : Tells schema others other)
    (tellsBoth : Tells schema (inputs ++ others) both) (type field : String) :
    both.isUsed type field = true ↔
      used.isUsed type field = true ∨ other.isUsed type field = true := by
  rw [tellsBoth.selected, tells.selected, tellsOther.selected, selectedIn_append]

theorem beq_union (tells : Tells schema inputs used) (tellsOther : Tells schema others other)
    (tellsBoth : Tells schema (inputs ++ others) both) : (both == used.union other) = true := by
  refine beq_of_isUsed tellsBoth.proper (tells.proper.union tellsOther.proper) fun type field => ?_
  rw [Bool.eq_iff_iff, isUsed_union tells.proper tellsOther.proper]
  exact tells.isUsed_append tellsOther tellsBoth type field

/-- No entry is empty, and each names fields of a type of the schema. -/
theorem declared (tells : Tells schema inputs used) {type : String} {fields : List String}
    (recorded : (type, fields) ∈ used.entries) : fields ≠ [] ∧ ∀ field ∈ fields,
      ∃ t definition, schema.type? type = some t ∧ t.Declares field definition := by
  refine ⟨tells.proper.filled _ recorded, fun field held => ?_⟩
  have uses : used.isUsed type field = true :=
    isUsed_iff.mpr ⟨fields, tells.proper.get?_of_mem recorded, held⟩
  exact ((tells.selected type field).mp uses).declared

end Tells

/-- What the used fields of two corpora have to do with each other and with those of both. -/
structure Unites (schema : Schema) (inputs others : List CorpusInput)
    (used other both : UsedFields) : Prop where
  union : (both == used.union other) = true
  either : ∀ type field, both.isUsed type field = true ↔
    used.isUsed type field = true ∨ other.isUsed type field = true
  /-- Definitions that are given in another order, several times, by other inputs or from other
  places are used alike. -/
  same : Covered inputs others → Covered others inputs → (used == other) = true
  monotone : Covered inputs others → ∀ type field,
    used.isUsed type field = true → other.isUsed type field = true
  /-- A field is used if and only if some definition selects it where it binds. -/
  selected : ∀ type field,
    used.isUsed type field = true ↔ SelectedIn schema inputs (type, field)
  /-- No entry is empty, and its fields are declared by an object or an interface of its name. -/
  declared : ∀ type fields, (type, fields) ∈ used.entries → fields ≠ [] ∧ ∀ field ∈ fields,
    ∃ t definition, schema.type? type = some t ∧ t.Declares field definition

/-- Two corpora of operations and fragments use together what they use apart. -/
theorem ofInputs_append (schema : Schema) (first : Classifiable inputs)
    (second : Classifiable others) :
    ∃ used other both, ofInputs schema inputs = .ok used ∧ ofInputs schema others = .ok other ∧
      ofInputs schema (inputs ++ others) = .ok both ∧
      Unites schema inputs others used other both := by
  obtain ⟨used, found, tells⟩ := ofInputs_tells schema first
  obtain ⟨other, foundOther, tellsOther⟩ := ofInputs_tells schema second
  obtain ⟨both, foundBoth, tellsBoth⟩ := ofInputs_tells schema (first.append second)
  refine ⟨used, other, both, found, foundOther, foundBoth, ?_⟩
  exact {
    union := tells.beq_union tellsOther tellsBoth
    either := tells.isUsed_append tellsOther tellsBoth
    same := tells.beq tellsOther
    monotone := fun covered _ _ => tells.mono tellsOther covered
    selected := tells.selected
    declared := fun _ _ => tells.declared }

open Sketch in
/-- The second corpus repeats the query of the first and shadows its fragment. -/
theorem ofInputs_append_shadowed :
    let schema : Schema :=
      ⟨[⟨"Query", .object, [⟨"a", .named "Query", none⟩, ⟨"b", .named "ID", none⟩], none⟩],
        ⟨some "Query", none, none⟩⟩
    let inputs : List CorpusInput :=
      [.classified ((fragment "F" [field "b" []]).map .fragment),
        .definition .untracked (.operation (query [spread "F"]).node)]
    let others : List CorpusInput :=
      [.classified ((query [spread "F"]).map .operation),
        .definition .untracked (.fragment (fragment "F" [field "a" [field "missing" []]]).node)]
    Classifiable inputs ∧ Classifiable others ∧
    ∃ used other both, ofInputs schema inputs = .ok used ∧ ofInputs schema others = .ok other ∧
      ofInputs schema (inputs ++ others) = .ok both ∧
      Unites schema inputs others used other both := by
  intro schema inputs others
  have first : Classifiable inputs := by unfold Classifiable; decide
  have second : Classifiable others := by unfold Classifiable; decide
  exact ⟨first, second, ofInputs_append schema first second⟩

end Tells

end UsedFields

end QueryAudit
