import Mathlib.Data.List.Nodup
import QueryAudit.Json.Basic

/-! Members of an object by their keys: what a lookup finds, and what it finds once a member has been
set or taken away. -/
namespace QueryAudit

namespace Members

variable {members others : Members} {key : String} {value : Json}

@[simp] theorem get?_nil (key : String) : get? key [] = none := rfl

@[simp] theorem get?_cons (entry : String × Json) (rest : Members) :
    get? key (entry :: rest) = if entry.1 = key then some entry.2 else get? key rest := rfl

theorem get?_eq_none_iff : get? key members = none ↔ key ∉ keys members := by
  induction members with
  | nil => simp [keys]
  | cons entry rest ih =>
    simp only [get?_cons, keys, List.map_cons, List.mem_cons, not_or]
    by_cases here : entry.1 = key
    · simp [here]
    · simpa [here, Ne.symm here, keys] using ih

theorem mem_of_get? (found : get? key members = some value) : (key, value) ∈ members := by
  induction members with
  | nil => cases found
  | cons entry rest ih =>
    rw [get?_cons] at found
    by_cases here : entry.1 = key
    · rw [if_pos here] at found
      cases found
      exact here ▸ List.mem_cons_self
    · rw [if_neg here] at found
      exact List.mem_cons_of_mem entry (ih found)

/-- With distinct keys a lookup finds what is there. -/
theorem get?_eq_some_iff (distinct : (keys members).Nodup) :
    get? key members = some value ↔ (key, value) ∈ members := by
  induction members with
  | nil => simp
  | cons entry rest ih =>
    obtain ⟨first, others⟩ := List.nodup_cons.mp distinct
    rw [get?_cons, List.mem_cons, ← ih others]
    by_cases here : entry.1 = key
    · have missing : get? key rest = none := get?_eq_none_iff.mpr (here ▸ first)
      simp only [if_pos here, missing, Option.some.injEq, reduceCtorEq, or_false]
      exact ⟨fun same => Prod.ext here.symm same.symm, fun same => congrArg Prod.snd same.symm⟩
    · have apart : (key, value) ≠ entry := fun same => here (congrArg Prod.fst same.symm)
      simp [here, apart]

theorem get?_perm (distinct : (keys members).Nodup) (reordered : members.Perm others) :
    get? key members = get? key others := by
  have distinctToo : (keys others).Nodup := (reordered.map _).nodup_iff.mp distinct
  ext value
  rw [get?_eq_some_iff distinct, get?_eq_some_iff distinctToo]
  exact reordered.mem_iff

theorem get?_erase_self : get? key (erase key members) = none := by
  simp [get?_eq_none_iff, keys, erase]

theorem erase_of_get? (missing : get? key members = none) : erase key members = members := by
  refine List.filter_eq_self.mpr fun entry member => ?_
  have apart : entry.1 ≠ key := fun same =>
    get?_eq_none_iff.mp missing (same ▸ List.mem_map_of_mem member)
  simpa using apart

theorem get?_set (key other : String) (value : Json) (members : Members) :
    get? other (set key value members) = if key = other then some value else get? other members := by
  induction members with
  | nil => simp [set]
  | cons entry rest ih =>
    rw [set]
    by_cases here : entry.1 = key
    · rw [if_pos here, get?_cons, get?_cons, here]
      by_cases asked : key = other
      · simp only [if_pos asked]
      · simp only [if_neg asked]
    · rw [if_neg here, get?_cons, get?_cons, ih]
      by_cases asked : entry.1 = other
      · have apart : key ≠ other := fun same => here (asked.trans same.symm)
        simp only [if_pos asked, if_neg apart]
      · simp only [if_neg asked]

/-- A new key goes to the end. -/
theorem set_of_not_mem (fresh : key ∉ keys members) (value : Json) :
    set key value members = members ++ [(key, value)] := by
  induction members with
  | nil => rfl
  | cons entry rest ih =>
    rw [keys, List.map_cons, List.mem_cons, not_or] at fresh
    rw [set, if_neg (Ne.symm fresh.1), ih fresh.2]
    rfl

theorem fresh_of_nodup {entry : String × Json}
    (distinct : (keys (members ++ entry :: others)).Nodup) : entry.1 ∉ keys members := by
  rw [keys, List.map_append, List.nodup_append] at distinct
  intro known
  exact distinct.2.2 entry.1 known entry.1 (by simp) rfl

theorem mem_set {entry : String × Json} (listed : entry ∈ set key value members) :
    entry ∈ members ∨ entry.2 = value := by
  induction members with
  | nil => simp_all [set]
  | cons first rest ih =>
    rw [set] at listed
    by_cases here : first.1 = key
    · rw [if_pos here] at listed
      rcases List.mem_cons.mp listed with rfl | later
      · exact .inr rfl
      · exact .inl (by simp [later])
    · rw [if_neg here] at listed
      rcases List.mem_cons.mp listed with rfl | later
      · exact .inl (by simp)
      · rcases ih later with known | new
        · exact .inl (by simp [known])
        · exact .inr new

end Members

end QueryAudit
