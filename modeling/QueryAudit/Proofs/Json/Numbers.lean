import Mathlib.Algebra.Group.Nat.Defs
import Mathlib.Data.List.TakeDrop
import Mathlib.Data.List.TakeWhile
import QueryAudit.Json.Reader

/-! Integers of JSON. The text of an integer is read as that integer if nothing behind it belongs to
a number and it has no more digits than are read; and no other integer is ever read. -/
namespace QueryAudit.Json

/-- An integer stands somewhere in a value. -/
inductive HasInteger (n : Int) : Json → Prop where
  | self : HasInteger n (.int n)
  | item {items : List Json} {item : Json} (listed : item ∈ items) (inside : HasInteger n item) :
      HasInteger n (.arr items)
  | member {members : Members} {member : String × Json} (listed : member ∈ members)
      (inside : HasInteger n member.2) : HasInteger n (.obj members)

section Parts

variable {n : Int} {items : List Json} {members : Members}

@[simp] theorem hasInteger_int_iff {m : Int} : HasInteger n (.int m) ↔ n = m := by
  constructor
  · rintro ⟨⟩
    rfl
  · rintro rfl
    exact .self

@[simp] theorem hasInteger_arr_iff :
    HasInteger n (.arr items) ↔ ∃ item ∈ items, HasInteger n item := by
  constructor
  · rintro ⟨⟩
    exact ⟨_, ‹_›, ‹_›⟩
  · rintro ⟨item, listed, inside⟩
    exact .item listed inside

@[simp] theorem hasInteger_obj_iff :
    HasInteger n (.obj members) ↔ ∃ member ∈ members, HasInteger n member.2 := by
  constructor
  · rintro ⟨⟩
    exact ⟨_, ‹_›, ‹_›⟩
  · rintro ⟨member, listed, inside⟩
    exact .member listed inside

@[simp] theorem not_hasInteger_null : ¬ HasInteger n .null := by
  rintro ⟨⟩

@[simp] theorem not_hasInteger_bool {b : Bool} : ¬ HasInteger n (.bool b) := by
  rintro ⟨⟩

@[simp] theorem not_hasInteger_float {x : Binary64} : ¬ HasInteger n (.float x) := by
  rintro ⟨⟩

@[simp] theorem not_hasInteger_str {s : String} : ¬ HasInteger n (.str s) := by
  rintro ⟨⟩

end Parts

/-- A value none of whose integers has too many digits. -/
def Short (value : Json) : Prop :=
  ∀ n, HasInteger n value → n.natAbs < 10 ^ Text.longestNumber

theorem short_int {n : Int} : Short (.int n) ↔ n.natAbs < 10 ^ Text.longestNumber := by
  simp [Short]

theorem short_str (s : String) : Short (.str s) := by
  simp [Short]

theorem short_arr {items : List Json} : Short (.arr items) ↔ ∀ item ∈ items, Short item := by
  constructor
  · intro short item listed n inside
    exact short n (.item listed inside)
  · intro short n inside
    obtain ⟨item, listed, inside⟩ := hasInteger_arr_iff.mp inside
    exact short item listed n inside

theorem short_obj {members : Members} :
    Short (.obj members) ↔ ∀ member ∈ members, Short member.2 := by
  constructor
  · intro short member listed n inside
    exact short n (.member listed inside)
  · intro short n inside
    obtain ⟨member, listed, inside⟩ := hasInteger_obj_iff.mp inside
    exact short member listed n inside

mutual

theorem isShort_iff : (value : Json) → (value.isShort = true ↔ Short value)
  | .int n => by
    rw [isShort, decide_eq_true_iff, Nat.length_toDigits_le_iff (by decide) (by decide), short_int]
  | .arr items => by rw [isShort, isShortItems_iff items, short_arr]
  | .obj members => by rw [isShort, isShortMembers_iff members, short_obj]
  | .null | .bool _ | .float _ | .str _ => by simp [isShort, Short]

theorem isShortItems_iff : (items : List Json) →
    (isShortItems items = true ↔ ∀ item ∈ items, Short item)
  | [] => by simp [isShortItems]
  | item :: rest => by
    rw [isShortItems, Bool.and_eq_true, isShort_iff item, isShortItems_iff rest,
      List.forall_mem_cons]

theorem isShortMembers_iff : (members : Members) →
    (isShortMembers members = true ↔ ∀ member ∈ members, Short member.2)
  | [] => by simp [isShortMembers]
  | (key, value) :: rest => by
    rw [isShortMembers, Bool.and_eq_true, isShort_iff value, isShortMembers_iff rest,
      List.forall_mem_cons]

end

theorem short_of_isFalsy {value : Json} (falsy : value.isFalsy = true) : Short value := by
  rw [← isShort_iff]
  cases value <;> simp_all [isFalsy, isShort, isShortItems, isShortMembers]
  decide

section Numbers

/-- What can follow a number that is part of a value. -/
def isDelimiter (c : Char) : Bool := isBlank c || c == ',' || c == ']' || c == '\x7d'

/-- A text in which a number before it does not go on. -/
def Ends (rest : List Char) : Prop := ∀ c ∈ rest.head?, isDelimiter c = true

variable {rest : List Char}

theorem ends_cons {c : Char} (delimiter : isDelimiter c = true) : Ends (c :: rest) := by
  simpa [Ends] using delimiter

theorem ends_nil : Ends [] := by simp [Ends]

/-- Blanks before a delimiter. -/
theorem ends_append {blanks : List Char} (blank : ∀ c ∈ blanks, isBlank c = true)
    (ends : Ends rest) : Ends (blanks ++ rest) := by
  cases blanks with
  | nil => exact ends
  | cons c cs =>
    have first := blank c (by simp)
    exact ends_cons (by simp [isDelimiter, first])

theorem isDigit_of_isDelimiter {c : Char} (delimiter : isDelimiter c = true) :
    c.isDigit = false ∧ c ≠ '.' ∧ c ≠ 'e' ∧ c ≠ 'E' := by
  simp only [isDelimiter, isBlank, Bool.or_eq_true, beq_iff_eq] at delimiter
  rcases delimiter with (((((rfl | rfl) | rfl) | rfl) | rfl) | rfl) | rfl <;> decide

theorem fraction?_eq_none (ends : Ends rest) : fraction? rest = none := by
  cases rest with
  | nil => rfl
  | cons c cs =>
    obtain ⟨-, point, -⟩ := isDigit_of_isDelimiter (ends c rfl)
    unfold fraction?
    split
    · simp_all
    · rfl

theorem exponent?_eq_none (ends : Ends rest) : exponent? rest = none := by
  cases rest with
  | nil => rfl
  | cons c cs =>
    obtain ⟨-, -, small, capital⟩ := isDigit_of_isDelimiter (ends c rfl)
    simp [exponent?, small, capital]

theorem span_isDigit {digits : List Char} (all : ∀ c ∈ digits, c.isDigit = true)
    (ends : Ends rest) : (digits ++ rest).span Char.isDigit = (digits, rest) := by
  have stop : rest.takeWhile Char.isDigit = [] ∧ rest.dropWhile Char.isDigit = rest := by
    cases rest with
    | nil => simp
    | cons c cs =>
      obtain ⟨other, -⟩ := isDigit_of_isDelimiter (ends c rfl)
      simp [other]
  rw [List.span_eq_takeWhile_dropWhile, List.takeWhile_append_of_pos all,
    List.dropWhile_append_of_pos all, stop.1, stop.2, List.append_nil]

/-- Only zero starts with a zero. -/
theorem toDigits_cons {n : Nat} (positive : 0 < n) :
    ∃ first digits, Nat.toDigits 10 n = first :: digits ∧ first ≠ '0' := by
  induction n using Nat.strongRecOn with
  | ind n ih =>
    rw [Nat.toDigits_eq_if (by decide)]
    by_cases single : n < 10
    · have nonzero : n.digitChar ≠ '0' := by
        rw [ne_eq, Nat.digitChar_eq_zero]
        omega
      exact ⟨n.digitChar, [], if_pos single, nonzero⟩
    · obtain ⟨first, digits, written, nonzero⟩ := ih (n / 10) (by omega) (by omega)
      rw [if_neg single, written]
      exact ⟨first, digits ++ [(n % 10).digitChar], rfl, nonzero⟩

theorem isDigit_toDigits (n : Nat) : ∀ c ∈ Nat.toDigits 10 n, c.isDigit = true :=
  fun _ listed => Nat.isDigit_of_mem_toDigits (by decide) (by decide) listed

theorem wholeDigits_toDigits (n : Nat) (ends : Ends rest) :
    wholeDigits (Nat.toDigits 10 n ++ rest) = (Nat.toDigits 10 n, rest) := by
  have span := span_isDigit (isDigit_toDigits n) ends
  rcases Nat.eq_zero_or_pos n with rfl | positive
  · rfl
  obtain ⟨first, digits, written, nonzero⟩ := toDigits_cons positive
  rw [written, List.cons_append] at span ⊢
  rw [wholeDigits, span]
  simpa using nonzero

theorem digitsValue_toDigits (n : Nat) : digitsValue (Nat.toDigits 10 n) = n := by
  have step : (fun (sum : Nat) (c : Char) => sum * 10 + (c.toNat - '0'.toNat)) =
      fun sum c => 10 * sum + (c.toNat - '0'.toNat) := by
    funext sum c
    rw [Nat.mul_comm]
  rw [digitsValue, step, ← Nat.ofDigitChars_eq_foldl, Nat.ofDigitChars_ten_toDigits]

/-- The characters of an integer: its sign, if it has one, and its digits. -/
theorem toList_toString_int (n : Int) :
    (toString n).toList = (if n < 0 then ['-'] else []) ++ Nat.toDigits 10 n.natAbs := by
  rw [Int.toString_eq_repr, Int.repr_eq_if]
  by_cases negative : n < 0
  · have magnitude : (-n).toNat = n.natAbs := by omega
    rw [if_neg (by omega), if_pos negative, magnitude, Nat.repr_eq_ofList_toDigits]
    simp only [String.toList_append, String.toList_ofList]
    rfl
  · have magnitude : n.toNat = n.natAbs := by omega
    rw [if_pos (by omega), if_neg negative, magnitude, Nat.repr_eq_ofList_toDigits,
      String.toList_ofList]
    rfl

/-- A text that starts with a digit. -/
theorem exists_digit_cons (n : Nat) :
    ∃ first digits, Nat.toDigits 10 n = first :: digits ∧ first.isDigit = true := by
  obtain ⟨first, digits, written⟩ := List.exists_cons_of_ne_nil (@Nat.toDigits_ne_nil n 10)
  exact ⟨first, digits, written, isDigit_toDigits n first (by simp [written])⟩

theorem ne_of_isDigit {c d : Char} (digit : c.isDigit = true) (other : d.isDigit = false) :
    c ≠ d := by
  rintro rfl
  rw [digit] at other
  cases other

theorem number?_int (n : Int) (ends : Ends rest) :
    number? ((toString n).toList ++ rest) = some (.int n, rest) := by
  rw [toList_toString_int]
  generalize magnitude : n.natAbs = m
  obtain ⟨first, digits, written, digit⟩ := exists_digit_cons m
  have whole := wholeDigits_toDigits m ends
  have value := digitsValue_toDigits m
  rw [written, List.cons_append] at whole
  rw [written] at value ⊢
  by_cases negative : n < 0
  · have sum : -(m : Int) = n := by omega
    simp [negative, number?, whole, fraction?_eq_none ends, exponent?_eq_none ends, value, sum]
  · have sum : (m : Int) = n := by omega
    have minus : first ≠ '-' := ne_of_isDigit digit rfl
    simp [negative, number?, minus, whole, fraction?_eq_none ends, exponent?_eq_none ends, value, sum]

theorem toString_cons (n : Int) :
    ∃ c cs, (toString n).toList = c :: cs ∧ (c = '-' ∨ c.isDigit = true) := by
  obtain ⟨first, digits, written, digit⟩ := exists_digit_cons n.natAbs
  rw [toList_toString_int, written]
  by_cases negative : n < 0
  · exact ⟨'-', first :: digits, by simp [negative], .inl rfl⟩
  · exact ⟨first, digits, by simp [negative], .inr digit⟩

theorem word?_int (n : Int) (rest : List Char) : word? ((toString n).toList ++ rest) = none := by
  obtain ⟨first, digits, written, digit⟩ := exists_digit_cons n.natAbs
  have other (d : Char) (letter : d.isDigit = false) : d ≠ first :=
    (ne_of_isDigit digit letter).symm
  rw [toList_toString_int, written]
  by_cases negative : n < 0
  · simp [negative, word?, words, dropWord?, other]
  · simp [negative, word?, words, dropWord?, other]

/-- An integer is read back exactly if it has no more digits than are read. -/
theorem isLongInteger_int (n : Int) (rest : List Char) :
    isLongInteger ((toString n).toList ++ rest) (.int n, rest) = false ↔
      n.natAbs < 10 ^ Text.longestNumber := by
  rw [isLongInteger, ← Nat.length_toDigits_le_iff (by decide) (by decide), toList_toString_int,
    decide_eq_false_iff_not]
  by_cases negative : n < 0
  · simp only [if_pos negative, List.length_append, List.length_singleton]
    omega
  · simp only [if_neg negative, List.length_append, List.length_nil]
    omega

theorem scalar_int {n : Int} (short : n.natAbs < 10 ^ Text.longestNumber) (ends : Ends rest) :
    scalar ((toString n).toList ++ rest) = .ok (.int n, rest) := by
  have within := (isLongInteger_int n rest).mpr short
  simp only [scalar, word?_int, number?_int n ends, within]
  rfl

end Numbers

section Digits

theorem digitsValue_lt {digits : List Char} (all : ∀ c ∈ digits, c.isDigit = true) :
    digitsValue digits < 10 ^ digits.length := by
  have sum (start : Nat) :
      digits.foldl (fun n c => n * 10 + (c.toNat - '0'.toNat)) start <
        (start + 1) * 10 ^ digits.length := by
    induction digits generalizing start with
    | nil => simp
    | cons c digits ih =>
      have digit : c.toNat - '0'.toNat ≤ 9 := by
        have range := all c (by simp)
        rw [Char.isDigit_iff_toNat] at range
        have zero : '0'.toNat = 48 := rfl
        have nine : '9'.toNat = 57 := rfl
        omega
      have later := ih (fun d listed => all d (by simp [listed]))
        (start * 10 + (c.toNat - '0'.toNat))
      calc _ < (start * 10 + (c.toNat - '0'.toNat) + 1) * 10 ^ digits.length := later
        _ ≤ ((start + 1) * 10) * 10 ^ digits.length := Nat.mul_le_mul_right _ (by omega)
        _ = (start + 1) * 10 ^ (c :: digits).length := by
          rw [List.length_cons, Nat.pow_succ, Nat.mul_assoc, Nat.mul_comm 10]
  have whole := sum 0
  rwa [Nat.zero_add, Nat.one_mul] at whole

/-- The whole part of a number is cut off the text before the rest, and holds digits only. -/
theorem wholeDigits_cut {cs whole rest : List Char} (cut : wholeDigits cs = (whole, rest)) :
    cs = whole ++ rest ∧ ∀ c ∈ whole, c.isDigit = true := by
  unfold wholeDigits at cut
  split at cut
  · cases cut
    simp
  · rw [List.span_eq_takeWhile_dropWhile] at cut
    cases cut
    exact ⟨List.takeWhile_append_dropWhile.symm, fun c => List.mem_takeWhile_imp⟩

/-- A number is a binary64 number, or an integer of no more digits than stand between its sign and
what follows it. -/
theorem number?_cases {cs rest : List Char} {v : Json} (read : number? cs = some (v, rest)) :
    (∃ x, v = .float x) ∨ ∃ n digits, v = .int n ∧ n.natAbs < 10 ^ digits ∧
      (if n < 0 then 1 else 0) + digits + rest.length ≤ cs.length := by
  unfold number? at read
  split at read
  next negative unsigned sign =>
  split at read
  next whole after cut =>
  obtain ⟨parts, digits⟩ := wholeDigits_cut cut
  have small := digitsValue_lt digits
  have length : cs.length = (if negative then 1 else 0) + unsigned.length := by
    split at sign <;> cases sign
    · simp [Nat.add_comm]
    · simp
  have sum : unsigned.length = whole.length + after.length := by simp [parts]
  split at read
  · cases read
  split at read
  · cases read
    refine .inr ⟨_, whole.length, rfl, ?_, ?_⟩
    · cases negative <;> simpa using small
    · cases negative <;> simp at length ⊢ <;> split <;> omega
  · cases read
    exact .inl ⟨_, rfl⟩
  · split at read
    cases read
    exact .inl ⟨_, rfl⟩

theorem short_of_word? {cs rest : List Char} {v : Json} (read : word? cs = some (v, rest)) :
    Short v := by
  obtain ⟨word, listed, found⟩ := List.exists_of_findSome?_eq_some read
  obtain ⟨_, _, same⟩ := Option.map_eq_some_iff.mp found
  cases same
  intro n inside
  simp only [words, List.mem_cons, List.not_mem_nil, or_false] at listed
  rcases listed with rfl | rfl | rfl | rfl | rfl | rfl <;> cases inside

theorem short_of_number? {cs rest : List Char} {v : Json} (read : number? cs = some (v, rest))
    (within : isLongInteger cs (v, rest) = false) : Short v := by
  intro n inside
  rcases number?_cases read with ⟨x, rfl⟩ | ⟨m, digits, rfl, small, length⟩
  · cases inside
  · cases inside
    rw [isLongInteger, decide_eq_false_iff_not] at within
    exact Nat.lt_of_lt_of_le small (Nat.pow_le_pow_right (by decide) (by omega))

theorem short_of_scalar {cs rest : List Char} {v : Json} (read : scalar cs = .ok (v, rest)) :
    Short v := by
  unfold scalar at read
  split at read
  next word =>
    cases read
    exact short_of_word? word
  next =>
    split at read
    next number =>
      split at read
      · cases read
      next within =>
        cases read
        exact short_of_number? number (Bool.eq_false_iff.mpr within)
    · cases read

end Digits

end QueryAudit.Json
