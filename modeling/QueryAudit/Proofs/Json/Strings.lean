import QueryAudit.Json.Reader
import QueryAudit.Json.Writer

/-! Strings in quotes. What is written of a character, be it the character itself, an escape of one
letter, four hexadecimal digits or a pair of them, is read as that character, so that a string is
read back from its text, whatever stands behind it. -/
namespace QueryAudit

namespace Text

theorem hexValue?_digitChar {k : Nat} (small : k < 16) : hexValue? (Nat.digitChar k) = some k := by
  have all : ∀ k : Fin 16, hexValue? (Nat.digitChar k) = some k.val := by decide
  exact all ⟨k, small⟩

theorem hexDigits_succ {width : Nat} (positive : 0 < width) (n : Nat) :
    hexDigits (width + 1) n = hexDigits width (n / 16) ++ [(n % 16).digitChar] := by
  by_cases small : n < 16
  · have none : n / 16 = 0 := by omega
    have zeros : List.replicate width '0' = List.replicate (width - 1) '0' ++ ['0'] := by
      rw [← List.replicate_succ', Nat.sub_add_cancel positive]
    rw [hexDigits, hexDigits, none, Nat.toDigits_of_lt_base small, Nat.toDigits_zero,
      Nat.mod_eq_of_lt small]
    simp [zeros]
  · rw [hexDigits, hexDigits, Nat.toDigits_of_base_le (by decide) (by omega)]
    simp

/-- Four digits are enough for sixteen bits. -/
theorem hexDigits_four {n : Nat} (small : n < 0x10000) :
    hexDigits 4 n =
      [(n / 16 / 16 / 16).digitChar, (n / 16 / 16 % 16).digitChar, (n / 16 % 16).digitChar,
        (n % 16).digitChar] := by
  have first : hexDigits 1 (n / 16 / 16 / 16) = [(n / 16 / 16 / 16).digitChar] := by
    rw [hexDigits, Nat.toDigits_of_lt_base (by omega)]
    rfl
  rw [hexDigits_succ (by decide), hexDigits_succ (by decide), hexDigits_succ (by decide), first]
  rfl

theorem fourHex?_hexDigits {n : Nat} (small : n < 0x10000) :
    ∃ a b c d, hexDigits 4 n = [a, b, c, d] ∧ fourHex? a b c d = some n := by
  refine ⟨_, _, _, _, hexDigits_four small, ?_⟩
  have value : ((n / 16 / 16 / 16 * 16 + n / 16 / 16 % 16) * 16 + n / 16 % 16) * 16 + n % 16 = n := by
    omega
  rw [fourHex?, hexValue?_digitChar (by omega), hexValue?_digitChar (by omega),
    hexValue?_digitChar (by omega), hexValue?_digitChar (by omega)]
  exact congrArg some value

theorem toNat_lt (c : Char) : c.toNat < 0xD800 ∨ 0xDFFF < c.toNat ∧ c.toNat < 0x110000 := by
  have valid := c.valid
  simp only [UInt32.isValidChar, Nat.isValidChar] at valid
  exact valid

section Surrogates

variable {n high low : Nat}

theorem isHighSurrogate_iff : isHighSurrogate n = true ↔ 0xD800 ≤ n ∧ n ≤ 0xDBFF := by
  simp [isHighSurrogate]

theorem isLowSurrogate_iff : isLowSurrogate n = true ↔ 0xDC00 ≤ n ∧ n ≤ 0xDFFF := by
  simp [isLowSurrogate]

/-- A number beyond the first plane is joined from its halves. -/
theorem joinSurrogates_halves (beyond : 0x10000 ≤ n)
    (isHigh : high = 0xD800 + (n - 0x10000) / 0x400)
    (isLow : low = 0xDC00 + (n - 0x10000) % 0x400) : joinSurrogates high low = n := by
  have sum : 0x10000 + (high - 0xD800) * 0x400 + (low - 0xDC00) = n := by omega
  exact sum

end Surrogates

end Text

namespace Json

theorem charOfCode_toNat (c : Char) : charOfCode c.toNat = c := by
  have scalar : Text.isScalarCode c.toNat = true := by
    have range := Text.toNat_lt c
    simp only [Text.isScalarCode, Bool.or_eq_true, Bool.and_eq_true, decide_eq_true_eq]
    omega
  rw [charOfCode, if_pos scalar, Char.ofNat_toNat]

/-- Four digits that are no half of a pair stand for a character of their own. -/
theorem unicodeEscape_unit {c : Char} (plane : c.toNat < 0x10000) {rest : List Char}
    (more : rest ≠ []) :
    unicodeEscape ('u' :: (Text.hexDigits 4 c.toNat ++ rest)) = .ok (c, rest) := by
  obtain ⟨a, b, d, e, written, value⟩ := Text.fourHex?_hexDigits plane
  obtain ⟨next, rest, rfl⟩ := List.exists_cons_of_ne_nil more
  have single : Text.isHighSurrogate c.toNat = false := by
    have range := Text.toNat_lt c
    rw [Bool.eq_false_iff, ne_eq, Text.isHighSurrogate_iff]
    omega
  rw [written]
  simp only [List.cons_append, List.nil_append, unicodeEscape, value, single, charOfCode_toNat]

/-- Two halves of a pair stand for one character. -/
theorem unicodeEscape_pair {high low : Nat} (isHigh : Text.isHighSurrogate high = true)
    (isLow : Text.isLowSurrogate low = true) {rest : List Char} (more : rest ≠ []) :
    unicodeEscape ('u' :: (Text.hexDigits 4 high ++ (unitEscape low ++ rest))) =
      .ok (Char.ofNat (Text.joinSurrogates high low), rest) := by
  have smallHigh : high < 0x10000 := by
    have range := Text.isHighSurrogate_iff.mp isHigh
    omega
  have smallLow : low < 0x10000 := by
    have range := Text.isLowSurrogate_iff.mp isLow
    omega
  obtain ⟨a, b, c, d, writtenHigh, valueHigh⟩ := Text.fourHex?_hexDigits smallHigh
  obtain ⟨a', b', c', d', writtenLow, valueLow⟩ := Text.fourHex?_hexDigits smallLow
  obtain ⟨next, rest, rfl⟩ := List.exists_cons_of_ne_nil more
  rw [unitEscape, writtenHigh, writtenLow]
  simp only [List.cons_append, List.nil_append, unicodeEscape, valueHigh, isHigh, valueLow, isLow,
    if_true]

section Body

variable {opening cs rest body after : List Char} {fuel : Nat} {c : Char}

theorem stringBody_unicode {n : Nat}
    (escape : unicodeEscape ('u' :: (Text.hexDigits 4 n ++ cs)) = .ok (c, rest))
    (read : stringBody opening fuel rest = .ok (body, after)) :
    stringBody opening (fuel + 1) (unitEscape n ++ cs) = .ok (c :: body, after) := by
  rw [unitEscape, List.cons_append, List.cons_append, stringBody, escape]
  dsimp only [bind, Except.bind]
  rw [read]
  rfl

theorem stringBody_simple {e : Char} (value : Text.simpleEscape? e = some c)
    (read : stringBody opening fuel rest = .ok (body, after)) :
    stringBody opening (fuel + 1) ('\\' :: e :: rest) = .ok (c :: body, after) := by
  have named : e ≠ 'u' := by
    rintro rfl
    cases value
  rw [stringBody, value]
  · dsimp only [bind, Except.bind]
    rw [read]
    rfl
  · exact named

theorem stringBody_plain (quote : c ≠ '"') (slash : c ≠ '\\') (printable : 0x20 ≤ c.toNat)
    (read : stringBody opening fuel rest = .ok (body, after)) :
    stringBody opening (fuel + 1) (c :: rest) = .ok (c :: body, after) := by
  rw [stringBody, if_neg (Nat.not_lt.mpr printable)]
  · dsimp only [bind, Except.bind]
    rw [read]
    rfl
  · exact quote
  all_goals simp [slash]

/-- One character more of a string is one step more. -/
theorem stringBody_escapedChar (c : Char) (read : stringBody opening fuel rest = .ok (body, after))
    (more : rest ≠ []) :
    stringBody opening (fuel + 1) (escapedChar c ++ rest) = .ok (c :: body, after) := by
  unfold escapedChar
  split
  case h_8 quote slash _ _ _ _ _ =>
    by_cases printable : 0x20 ≤ c.toNat ∧ c.toNat < 0x7F
    · rw [if_pos printable]
      exact stringBody_plain quote slash printable.1 read
    rw [if_neg printable]
    by_cases plane : c.toNat < 0x10000
    · rw [if_pos plane]
      exact stringBody_unicode (unicodeEscape_unit plane more) read
    rw [if_neg plane]
    dsimp only
    -- From here on the halves are only names: a difference by 0x10000 must not be unfolded.
    generalize first : 0xD800 + (c.toNat - 0x10000) / 0x400 = high
    generalize second : 0xDC00 + (c.toNat - 0x10000) % 0x400 = low
    have range := Text.toNat_lt c
    have isHigh : Text.isHighSurrogate high = true := Text.isHighSurrogate_iff.mpr (by omega)
    have isLow : Text.isLowSurrogate low = true := Text.isLowSurrogate_iff.mpr (by omega)
    have join : Text.joinSurrogates high low = c.toNat :=
      Text.joinSurrogates_halves (by omega) first.symm second.symm
    have escape := unicodeEscape_pair isHigh isLow more
    rw [join, Char.ofNat_toNat] at escape
    rw [List.append_assoc]
    exact stringBody_unicode escape read
  all_goals exact stringBody_simple rfl read

theorem stringBody_escaped (s : List Char) (enough : s.length < fuel) :
    stringBody opening fuel (s.flatMap escapedChar ++ '"' :: rest) = .ok (s, rest) := by
  induction s generalizing fuel with
  | nil =>
    obtain ⟨fuel, rfl⟩ := Nat.exists_eq_add_of_lt enough
    rfl
  | cons c s ih =>
    cases fuel with
    | zero => simp at enough
    | succ fuel =>
      have read := @ih fuel (by simpa using enough)
      rw [List.flatMap_cons, List.append_assoc]
      exact stringBody_escapedChar c read (by simp)

end Body

theorem stringChars_append (s : String) (rest : List Char) :
    stringChars s ++ rest = '"' :: (s.toList.flatMap escapedChar ++ '"' :: rest) := by
  simp [stringChars]

/-- A string is read back from its text behind the opening quote. -/
theorem string_escaped (s : String) {rest : List Char} {fuel : Nat}
    (enough : s.toList.length < fuel) :
    string fuel (s.toList.flatMap escapedChar ++ '"' :: rest) = .ok (s, rest) := by
  rw [string, stringBody_escaped s.toList enough]
  simp [bind, Except.bind, pure, Except.pure]

theorem escapedChar_ne_nil (c : Char) : escapedChar c ≠ [] := by
  intro empty
  have read : stringBody [] 2 (escapedChar c ++ ['"']) = .ok ([c], []) :=
    stringBody_escapedChar c rfl (by simp)
  rw [empty] at read
  cases read

theorem length_stringChars (s : String) : s.toList.length + 2 ≤ (stringChars s).length := by
  have escaped (cs : List Char) : cs.length ≤ (cs.flatMap escapedChar).length := by
    induction cs with
    | nil => simp
    | cons c cs ih =>
      have positive := List.length_pos_iff.mpr (escapedChar_ne_nil c)
      simp only [List.flatMap_cons, List.length_append, List.length_cons]
      omega
  have inner := escaped s.toList
  simp only [stringChars, List.length_cons, List.length_append, List.length_nil]
  omega

end Json

end QueryAudit
