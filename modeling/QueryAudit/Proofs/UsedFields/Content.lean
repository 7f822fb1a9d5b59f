import Mathlib.Data.List.Nodup
import QueryAudit.UsedFields.Corpus

/-! Used fields as a set of pairs. Collecting single uses one by one gives every type one entry,
which holds its fields and is never empty. Used fields of this form that answer alike which field of
which type is used are equal. -/
namespace QueryAudit.UsedFields

variable {used other : UsedFields} {type field t f : String} {fields : List String}
  {entries : List (String × List String)}

theorem isUsed_iff : used.isUsed type field = true ↔
    ∃ fields, used.get? type = some fields ∧ field ∈ fields := by
  rw [isUsed, fieldsOf]
  cases used.get? type <;> simp

theorem mem_of_get? (found : used.get? type = some fields) : (type, fields) ∈ used.entries := by
  obtain ⟨entry, stands, rfl⟩ := Option.map_eq_some_iff.mp found
  have named : entry.1 = type := by simpa using List.find?_some stands
  exact named ▸ List.mem_of_find?_eq_some stands

@[simp] theorem isUsed_nil : isUsed ⟨[]⟩ type field = false := rfl

theorem isUsed_cons : isUsed ⟨(t, fields) :: entries⟩ type field = true ↔
    if t = type then field ∈ fields else isUsed ⟨entries⟩ type field = true := by
  by_cases same : t = type
  · simp [isUsed, fieldsOf, get?, same]
  · simp [isUsed, fieldsOf, get?, same]

/-- Adding a use adds this use and no other. -/
theorem isUsed_addEntry : isUsed ⟨addEntry t f entries⟩ type field = true ↔
    (type = t ∧ field = f) ∨ isUsed ⟨entries⟩ type field = true := by
  induction entries with
  | nil =>
    rw [addEntry, isUsed_cons]
    grind [isUsed_nil]
  | cons entry rest ih =>
    obtain ⟨name, fields⟩ := entry
    by_cases here : name = t
    · subst here
      rw [addEntry, if_pos rfl, isUsed_cons, isUsed_cons]
      grind
    · rw [addEntry, if_neg here, isUsed_cons, isUsed_cons, ih]
      grind

theorem ofPairs_eq (pairs : List (String × String)) :
    ofPairs pairs = ⟨pairs.foldl (fun entries pair => addEntry pair.1 pair.2 entries) []⟩ := rfl

/-- What was collected is used, and nothing else is. -/
theorem isUsed_ofPairs {pairs : List (String × String)} :
    (ofPairs pairs).isUsed type field = true ↔ (type, field) ∈ pairs := by
  suffices added : ∀ entries, isUsed ⟨pairs.foldl (fun entries pair =>
      addEntry pair.1 pair.2 entries) entries⟩ type field = true ↔
      (type, field) ∈ pairs ∨ isUsed ⟨entries⟩ type field = true by
    rw [ofPairs_eq, added, isUsed_nil]
    simp
  induction pairs with
  | nil => simp
  | cons pair rest ih =>
    intro entries
    rw [List.foldl_cons, ih, isUsed_addEntry, List.mem_cons, Prod.ext_iff]
    tauto

/-- Every type has one entry, and no entry is empty. -/
structure Proper (used : UsedFields) : Prop where
  distinct : used.typeNames.Nodup
  filled : ∀ entry ∈ used.entries, entry.2 ≠ []

theorem typeNames_addEntry : typeNames ⟨addEntry t f entries⟩ =
    if t ∈ typeNames ⟨entries⟩ then typeNames ⟨entries⟩ else typeNames ⟨entries⟩ ++ [t] := by
  induction entries with
  | nil => simp [addEntry, typeNames]
  | cons entry rest ih =>
    obtain ⟨name, fields⟩ := entry
    simp only [typeNames, addEntry, List.map_cons] at ih ⊢
    grind

theorem filled_addEntry (filled : ∀ entry ∈ entries, entry.2 ≠ []) :
    ∀ entry ∈ addEntry t f entries, entry.2 ≠ [] := by
  induction entries with
  | nil => simp [addEntry]
  | cons entry rest ih =>
    obtain ⟨name, fields⟩ := entry
    obtain ⟨here, rest⟩ := List.forall_mem_cons.mp filled
    rw [addEntry]
    split
    · refine List.forall_mem_cons.mpr ⟨?_, rest⟩
      split <;> simp_all
    · exact List.forall_mem_cons.mpr ⟨here, ih rest⟩

theorem Proper.addEntry (proper : Proper ⟨entries⟩) : Proper ⟨addEntry t f entries⟩ where
  distinct := by
    rw [typeNames_addEntry]
    split
    · exact proper.distinct
    · next fresh => exact List.nodup_append.mpr ⟨proper.distinct, by simp, by grind⟩
  filled := filled_addEntry proper.filled

theorem proper_ofPairs (pairs : List (String × String)) : Proper (ofPairs pairs) := by
  rw [ofPairs_eq]
  suffices kept : ∀ entries, Proper ⟨entries⟩ → Proper ⟨pairs.foldl (fun entries pair =>
      UsedFields.addEntry pair.1 pair.2 entries) entries⟩ from kept [] ⟨List.nodup_nil, by simp⟩
  induction pairs with
  | nil => exact fun _ proper => proper
  | cons pair rest ih => exact fun entries proper => ih _ proper.addEntry

namespace Proper

theorem get?_of_mem (proper : Proper used) (member : (type, fields) ∈ used.entries) :
    used.get? type = some fields := by
  obtain ⟨found, stands⟩ : ∃ found, used.entries.find? (·.1 = type) = some found :=
    Option.isSome_iff_exists.mp (List.find?_isSome.mpr ⟨_, member, by simp⟩)
  have named : found.1 = type := by simpa using List.find?_some stands
  have same := List.inj_on_of_nodup_map proper.distinct (List.mem_of_find?_eq_some stands) member
    named
  simp [get?, stands, same]

/-- The types with an entry are those of which some field is used. -/
theorem mem_typeNames (proper : Proper used) :
    type ∈ used.typeNames ↔ ∃ field, used.isUsed type field = true := by
  constructor
  · intro member
    obtain ⟨⟨_, fields⟩, stands, rfl⟩ := List.mem_map.mp member
    obtain ⟨field, held⟩ := List.exists_mem_of_ne_nil fields (proper.filled _ stands)
    exact ⟨field, isUsed_iff.mpr ⟨fields, proper.get?_of_mem stands, held⟩⟩
  · rintro ⟨field, uses⟩
    obtain ⟨fields, found, _⟩ := isUsed_iff.mp uses
    exact List.mem_map.mpr ⟨_, mem_of_get? found, rfl⟩

theorem size_eq (proper : Proper used) (others : Proper other)
    (alike : ∀ type field, used.isUsed type field = other.isUsed type field) :
    used.size = other.size := by
  have names : used.typeNames.Perm other.typeNames :=
    (List.perm_ext_iff_of_nodup proper.distinct others.distinct).mpr fun type => by
      rw [proper.mem_typeNames, others.mem_typeNames]
      simp only [alike]
  simpa [typeNames, size] using names.length_eq

end Proper

section Lists

variable {lists : List (String × List String)}

/-- Lists of fields by type make a proper index; what is empty is left out. -/
theorem proper_ofLists (distinct : (lists.map Prod.fst).Nodup) : Proper (ofLists lists) where
  distinct := by
    have names : (ofLists lists).typeNames = (lists.filter (!·.2.isEmpty)).map Prod.fst := by
      simp [ofLists, typeNames]
    rw [names]
    exact (List.filter_sublist.map Prod.fst).nodup distinct
  filled := by
    intro entry member
    obtain ⟨⟨type, fields⟩, kept, rfl⟩ := List.mem_map.mp member
    obtain ⟨_, inhabited⟩ := List.mem_filter.mp kept
    obtain ⟨field, held⟩ := List.exists_mem_of_ne_nil fields (by simpa using inhabited)
    exact List.ne_nil_of_mem (List.mem_eraseDups.mpr held)

theorem isUsed_ofLists (distinct : (lists.map Prod.fst).Nodup) :
    (ofLists lists).isUsed type field = true ↔ ∃ fields, (type, fields) ∈ lists ∧ field ∈ fields := by
  constructor
  · intro uses
    obtain ⟨fields, found, held⟩ := isUsed_iff.mp uses
    obtain ⟨⟨t, fields⟩, kept, same⟩ := List.mem_map.mp (mem_of_get? found)
    cases same
    exact ⟨fields, (List.mem_filter.mp kept).1, List.mem_eraseDups.mp held⟩
  · rintro ⟨fields, member, held⟩
    have kept : (type, fields) ∈ lists.filter (!·.2.isEmpty) :=
      List.mem_filter.mpr ⟨member, by simpa using List.ne_nil_of_mem held⟩
    have stands : (type, fields.eraseDups) ∈ (ofLists lists).entries :=
      List.mem_map.mpr ⟨_, kept, rfl⟩
    exact isUsed_iff.mpr ⟨_, (proper_ofLists distinct).get?_of_mem stands,
      List.mem_eraseDups.mpr held⟩

end Lists

theorem sameMembers_iff {a b : List String} :
    sameMembers a b = true ↔ ∀ text, text ∈ a ↔ text ∈ b := by
  simp only [sameMembers, Bool.and_eq_true, List.all_eq_true, List.contains_iff_mem]
  exact ⟨fun both text => ⟨both.1 text, both.2 text⟩, fun same =>
    ⟨fun text => (same text).mp, fun text => (same text).mpr⟩⟩

theorem beq_of_isUsed (proper : Proper used) (others : Proper other)
    (alike : ∀ type field, used.isUsed type field = other.isUsed type field) :
    (used == other) = true := by
  refine Bool.and_eq_true_iff.mpr ⟨by simpa using proper.size_eq others alike, ?_⟩
  refine List.all_eq_true.mpr ?_
  rintro ⟨type, fields⟩ stands
  have here := proper.get?_of_mem stands
  obtain ⟨field, uses⟩ := proper.mem_typeNames.mp (List.mem_map_of_mem stands)
  obtain ⟨found, known, _⟩ := isUsed_iff.mp ((alike type field).symm.trans uses)
  simp only [known]
  refine sameMembers_iff.mpr fun field => ?_
  have same := alike type field
  simpa [isUsed, fieldsOf, here, known] using same

/-- Some document binds a field of a type, both by their names. -/
def UsedIn (schema : Schema) (documents : List CorpusDocument) (use : String × String) : Prop :=
  ∃ d ∈ documents, ∃ b ∈ schema.boundFields d.node, pair b = use

/-- A corpus uses what its operations and fragments bind, the shadowed ones included. -/
theorem isUsed_ofCorpus {schema : Schema} {index : CorpusIndex} :
    (ofCorpus schema index).isUsed type field = true ↔
      UsedIn schema index.documents (type, field) := by
  rw [ofCorpus, isUsed_ofPairs]
  simp only [selections, UsedIn, List.mem_map, List.mem_flatMap]
  exact ⟨fun ⟨b, ⟨d, member, binds⟩, named⟩ => ⟨d, member, b, binds, named⟩,
    fun ⟨d, member, b, binds, named⟩ => ⟨b, ⟨d, member, binds⟩, named⟩⟩

theorem beq_ofCorpus {schema : Schema} {index index' : CorpusIndex}
    (alike : ∀ use, UsedIn schema index.documents use ↔ UsedIn schema index'.documents use) :
    (ofCorpus schema index == ofCorpus schema index') = true := by
  refine beq_of_isUsed (proper_ofPairs _) (proper_ofPairs _) fun type field => ?_
  rw [Bool.eq_iff_iff, isUsed_ofCorpus, isUsed_ofCorpus]
  exact alike (type, field)

end QueryAudit.UsedFields
