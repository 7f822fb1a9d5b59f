import Mathlib.Data.List.Perm.Subperm
import QueryAudit.Proofs.Corpus.Indexing
import QueryAudit.Proofs.UsedFields.Content

/-! The sorted form of used fields. It lists the types in strictly increasing order, each with its
fields in strictly increasing order and none without fields, so it is determined by which field of
which type is used. Used fields are therefore equal if their sorted forms are the same lists, and
they can be had back from them. -/
namespace QueryAudit

section Sorting

variable {items others : List α} (key : α → String)

/-- Sorting by keys that differ makes them strictly increasing. -/
theorem pairwise_sortedBy (distinct : (items.map key).Nodup) :
    (items.mergeSort fun a b => decide (key a ≤ key b)).Pairwise fun a b => key a < key b := by
  have ordered : (items.mergeSort fun a b => decide (key a ≤ key b)).Pairwise
      fun a b => decide (key a ≤ key b) = true := by
    apply List.pairwise_mergeSort
    · intro a b c first second
      exact decide_eq_true (String.le_trans (of_decide_eq_true first) (of_decide_eq_true second))
    · intro a b
      simpa using String.le_total (key a) (key b)
  have perm := (List.mergeSort_perm items fun a b => decide (key a ≤ key b)).map key
  have apart := List.pairwise_map.mp (perm.nodup_iff.mpr distinct)
  refine (ordered.and apart).imp fun ⟨le, ne⟩ => String.not_le.mp fun ge => ?_
  exact ne (String.le_antisymm (of_decide_eq_true le) ge)

theorem nodup_of_increasing (increasing : items.Pairwise fun a b => key a < key b) :
    (items.map key).Nodup := by
  refine List.pairwise_map.mpr (increasing.imp ?_)
  intro a b less same
  exact String.lt_irrefl _ (same ▸ less)

/-- Lists with strictly increasing keys are the same if their items are. -/
theorem eq_of_increasing (increasing : items.Pairwise fun a b => key a < key b)
    (increasingToo : others.Pairwise fun a b => key a < key b)
    (same : ∀ a, a ∈ items ↔ a ∈ others) : items = others := by
  have nodup := (nodup_of_increasing key increasing).of_map
  have nodupToo := (nodup_of_increasing key increasingToo).of_map
  have perm := (List.perm_ext_iff_of_nodup nodup nodupToo).mpr same
  apply perm.eq_of_pairwise _ increasing increasingToo
  intro a b _ _ less greater
  exact absurd greater (String.lt_asymm less)

end Sorting

namespace UsedFields

/-- What is given for a type: a list of field names, or a text whose characters are the names. -/
inductive FieldNames where
  | list (names : List String)
  | text (characters : String)

/-- The names in their order, with repetitions. -/
def FieldNames.names : FieldNames → List String
  | list names => names
  | text characters => characters.toList.map String.singleton

/-- The used fields that a mapping of types gives. -/
def ofGiven (given : List (String × FieldNames)) : UsedFields :=
  ofLists (given.map fun entry => (entry.1, entry.2.names))

variable {used other : UsedFields} {type field : String} {fields : List String}
  {given others : List (String × FieldNames)}

theorem mem_sortTexts {texts : List String} : field ∈ sortTexts texts ↔ field ∈ texts := by
  simp [sortTexts]

theorem pairwise_sortTexts {texts : List String} (distinct : texts.Nodup) :
    (sortTexts texts).Pairwise (· < ·) :=
  pairwise_sortedBy (fun text => text) (by simpa using distinct)

theorem mem_sorted : (type, fields) ∈ used.sorted ↔
    ∃ names, (type, names) ∈ used.entries ∧ sortTexts names = fields := by
  simp only [sorted, List.mem_map, List.mem_mergeSort, Prod.mk.injEq]
  constructor
  · rintro ⟨⟨type, names⟩, stands, rfl, rfl⟩
    exact ⟨names, stands, rfl⟩
  · rintro ⟨names, stands, rfl⟩
    exact ⟨(type, names), stands, rfl, rfl⟩

/-- Every type has one entry, which holds at least one field and none of them twice. -/
structure Once (used : UsedFields) : Prop extends Proper used where
  once : ∀ entry ∈ used.entries, entry.2.Nodup

theorem once_ofLists {lists : List (String × List String)}
    (distinct : (lists.map Prod.fst).Nodup) : Once (ofLists lists) where
  toProper := proper_ofLists distinct
  once := by
    intro entry member
    obtain ⟨⟨type, fields⟩, _, rfl⟩ := List.mem_map.mp member
    exact nodup_eraseDups fields

theorem once_ofGiven (distinct : (given.map Prod.fst).Nodup) : Once (ofGiven given) := by
  apply once_ofLists
  simpa [Function.comp_def] using distinct

theorem isUsed_ofGiven (distinct : (given.map Prod.fst).Nodup) :
    (ofGiven given).isUsed type field = true ↔
      ∃ names, (type, names) ∈ given ∧ field ∈ names.names := by
  have types : ((given.map fun entry => (entry.1, entry.2.names)).map Prod.fst).Nodup := by
    simpa [Function.comp_def] using distinct
  rw [ofGiven, isUsed_ofLists types]
  constructor
  · rintro ⟨fields, member, held⟩
    obtain ⟨⟨type, names⟩, listed, same⟩ := List.mem_map.mp member
    cases same
    exact ⟨names, listed, held⟩
  · rintro ⟨names, listed, held⟩
    exact ⟨names.names, List.mem_map.mpr ⟨(type, names), listed, rfl⟩, held⟩

theorem pairwise_sorted (proper : Proper used) :
    used.sorted.Pairwise fun a b => a.1 < b.1 :=
  List.pairwise_map.mpr (pairwise_sortedBy Prod.fst proper.distinct)

namespace Once

/-- A type is listed with its used fields, in the only order there is, if it has any. -/
theorem mem_sorted_iff (once : Once used) : (type, fields) ∈ used.sorted ↔
    fields ≠ [] ∧ fields.Pairwise (· < ·) ∧
      ∀ field, field ∈ fields ↔ used.isUsed type field = true := by
  constructor
  · intro member
    obtain ⟨names, stands, rfl⟩ := mem_sorted.mp member
    have found := once.get?_of_mem stands
    obtain ⟨field, held⟩ := List.exists_mem_of_ne_nil names (once.filled _ stands)
    refine ⟨List.ne_nil_of_mem (mem_sortTexts.mpr held), pairwise_sortTexts (once.once _ stands),
      fun field => ?_⟩
    rw [mem_sortTexts, isUsed_iff, found]
    simp
  · rintro ⟨inhabited, increasing, same⟩
    obtain ⟨field, held⟩ := List.exists_mem_of_ne_nil fields inhabited
    obtain ⟨names, found, _⟩ := isUsed_iff.mp ((same field).mp held)
    have stands := mem_of_get? found
    refine mem_sorted.mpr ⟨names, stands, ?_⟩
    apply eq_of_increasing (fun text => text) (pairwise_sortTexts (once.once _ stands)) increasing
    intro field
    rw [mem_sortTexts, same, isUsed_iff, found]
    simp

theorem isUsed_iff_sorted (once : Once used) : used.isUsed type field = true ↔
    ∃ fields, (type, fields) ∈ used.sorted ∧ field ∈ fields := by
  constructor
  · intro uses
    obtain ⟨names, found, held⟩ := isUsed_iff.mp uses
    have listed := mem_sorted.mpr ⟨names, mem_of_get? found, rfl⟩
    exact ⟨sortTexts names, listed, mem_sortTexts.mpr held⟩
  · rintro ⟨fields, listed, held⟩
    exact ((once.mem_sorted_iff.mp listed).2.2 field).mp held

theorem sorted_eq_iff (once : Once used) (onceToo : Once other) : used.sorted = other.sorted ↔
    ∀ type field, used.isUsed type field = other.isUsed type field := by
  constructor
  · intro same type field
    rw [Bool.eq_iff_iff, once.isUsed_iff_sorted, onceToo.isUsed_iff_sorted, same]
  · intro alike
    apply eq_of_increasing Prod.fst (pairwise_sorted once.toProper) (pairwise_sorted onceToo.toProper)
    rintro ⟨type, fields⟩
    rw [once.mem_sorted_iff, onceToo.mem_sorted_iff]
    simp only [alike]

end Once

theorem sameMembers_of_beq (equal : (used == other) = true) (stands : (type, fields) ∈ used.entries) :
    ∃ others, other.get? type = some others ∧ sameMembers fields others = true := by
  have all := (Bool.and_eq_true_iff.mp equal).2
  have here := List.all_eq_true.mp all _ stands
  cases found : other.get? type with
  | none => simp [found] at here
  | some others => exact ⟨others, rfl, by simpa [found] using here⟩

/-- Equal used fields have entries for the same types: there are as many of them, and each type of
the one is found in the other. -/
theorem mem_typeNames_of_beq (proper : Proper used) (equal : (used == other) = true)
    (member : type ∈ other.typeNames) : type ∈ used.typeNames := by
  have included : used.typeNames ⊆ other.typeNames := by
    intro type member
    obtain ⟨⟨_, fields⟩, stands, rfl⟩ := List.mem_map.mp member
    obtain ⟨others, found, _⟩ := sameMembers_of_beq equal stands
    exact List.mem_map.mpr ⟨_, mem_of_get? found, rfl⟩
  have size : used.size = other.size := by simpa using (Bool.and_eq_true_iff.mp equal).1
  have count : other.typeNames.length ≤ used.typeNames.length := by
    simpa [typeNames, UsedFields.size] using Nat.le_of_eq size.symm
  have perm := (List.subperm_of_subset proper.distinct included).perm_of_length_le count
  exact perm.mem_iff.mpr member

theorem isUsed_of_beq (proper : Proper used) (properToo : Proper other)
    (equal : (used == other) = true) (type field : String) :
    used.isUsed type field = other.isUsed type field := by
  rw [Bool.eq_iff_iff]
  by_cases known : type ∈ used.typeNames
  · obtain ⟨⟨_, fields⟩, stands, rfl⟩ := List.mem_map.mp known
    obtain ⟨others, found, same⟩ := sameMembers_of_beq equal stands
    have alike := sameMembers_iff.mp same field
    simpa [isUsed, fieldsOf, proper.get?_of_mem stands, found] using alike
  · have unknown : type ∉ other.typeNames := fun member =>
      known (mem_typeNames_of_beq proper equal member)
    rw [proper.mem_typeNames, not_exists] at known
    rw [properToo.mem_typeNames, not_exists] at unknown
    simp [known field, unknown field]

theorem beq_iff_sorted (once : Once used) (onceToo : Once other) :
    (used == other) = true ↔ used.sorted = other.sorted := by
  rw [once.sorted_eq_iff onceToo]
  exact ⟨isUsed_of_beq once.toProper onceToo.toProper,
    beq_of_isUsed once.toProper onceToo.toProper⟩

/-- The sorted form is in order and leads back, and all ways to ask for a field agree. -/
structure Canonical (used : UsedFields) : Prop where
  back : (ofLists used.sorted == used) = true
  types : (used.sorted.map Prod.fst).Pairwise (· < ·)
  fields : ∀ entry ∈ used.sorted, entry.2 ≠ [] ∧ entry.2.Pairwise (· < ·)
  held : ∀ type field, used.isUsed type field = true ↔ field ∈ used.fieldsOf type
  found : ∀ type field, used.isUsed type field = true ↔
    used.contains type = true ∧ ∃ fields, used.get? type = some fields ∧ field ∈ fields
  listed : ∀ type field, used.isUsed type field = true ↔
    ∃ fields, (type, fields) ∈ used.sorted ∧ field ∈ fields

theorem Once.canonical (once : Once used) : Canonical used where
  back := by
    have types := nodup_of_increasing Prod.fst (pairwise_sorted once.toProper)
    refine beq_of_isUsed (proper_ofLists types) once.toProper fun type field => ?_
    rw [Bool.eq_iff_iff, isUsed_ofLists types, once.isUsed_iff_sorted]
  types := List.pairwise_map.mpr (pairwise_sorted once.toProper)
  fields := by
    rintro ⟨type, fields⟩ listed
    obtain ⟨inhabited, increasing, _⟩ := once.mem_sorted_iff.mp listed
    exact ⟨inhabited, increasing⟩
  held type field := by simp [isUsed]
  found type field := by
    rw [isUsed_iff, contains]
    constructor
    · rintro ⟨fields, found, held⟩
      exact ⟨by simp [found], fields, found, held⟩
    · exact And.right
  listed type field := once.isUsed_iff_sorted

/-- The sorted form of used fields is canonical, and it tells all that the mapping they are made of
says: what is given for a type, be it a list or a text, in any order, repeated or not. -/
theorem ofGiven_canonical (distinct : (given.map Prod.fst).Nodup)
    (distinctToo : (others.map Prod.fst).Nodup) :
    Canonical (ofGiven given) ∧
    (∀ type field, (ofGiven given).isUsed type field = true ↔
      ∃ names, (type, names) ∈ given ∧ field ∈ names.names) ∧
    ((ofGiven given == ofGiven others) = true ↔
      (ofGiven given).sorted = (ofGiven others).sorted) := by
  have once := once_ofGiven distinct
  refine ⟨once.canonical, fun type field => isUsed_ofGiven distinct, ?_⟩
  exact beq_iff_sorted once (once_ofGiven distinctToo)

/-- Fields twice and as the characters of a text, and types without fields. -/
def scattered : List (String × FieldNames) :=
  [("User", .list ["name", "id", "name"]), ("Empty", .list []), ("Photo", .text "bab"),
    ("Blank", .text "")]

def gathered : List (String × FieldNames) :=
  [("Photo", .list ["a", "b"]), ("User", .list ["id", "name"])]

theorem scattered_canonical :
    (scattered.map Prod.fst).Nodup ∧ (gathered.map Prod.fst).Nodup ∧
    Canonical (ofGiven scattered) ∧ (ofGiven scattered).isUsed "Photo" "b" = true ∧
    (ofGiven scattered).contains "Blank" = false ∧
    (ofGiven scattered).sorted = (ofGiven gathered).sorted := by
  have distinct : (scattered.map Prod.fst).Nodup := by decide
  have distinctToo : (gathered.map Prod.fst).Nodup := by decide
  obtain ⟨canonical, _, same⟩ := ofGiven_canonical distinct distinctToo
  exact ⟨distinct, distinctToo, canonical, by decide, by decide, same.mp (by decide)⟩

end UsedFields

end QueryAudit
