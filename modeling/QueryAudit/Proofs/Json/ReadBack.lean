import QueryAudit.Proofs.Json.Members
import QueryAudit.Proofs.Json.Numbers
import QueryAudit.Proofs.Json.Strings
import QueryAudit.Proofs.Results

/-! JSON is read back from what is written of it. A plain value, one without binary64 numbers, comes
back from its text with its members in order, in whatever blanks the text is laid out, exactly if
none of its integers has more digits than are read. -/
namespace QueryAudit.Json

/-- A value without binary64 numbers whose objects have each key once. -/
inductive Plain : Json → Prop where
  | null : Plain .null
  | bool (b : Bool) : Plain (.bool b)
  | int (n : Int) : Plain (.int n)
  | str (s : String) : Plain (.str s)
  | arr {items : List Json} (plain : ∀ item ∈ items, Plain item) : Plain (.arr items)
  | obj {members : Members} (distinct : members.keys.Nodup)
      (plain : ∀ member ∈ members, Plain member.2) : Plain (.obj members)

attribute [simp] Plain.null Plain.bool Plain.int Plain.str

@[simp] theorem plain_arr_iff {items : List Json} :
    Plain (.arr items) ↔ ∀ item ∈ items, Plain item := by
  constructor
  · rintro ⟨⟩
    assumption
  · exact .arr

@[simp] theorem plain_obj_iff {members : Members} :
    Plain (.obj members) ↔ members.keys.Nodup ∧ ∀ member ∈ members, Plain member.2 := by
  constructor
  · rintro ⟨⟩
    constructor <;> assumption
  · rintro ⟨distinct, plain⟩
    exact .obj distinct plain

section Layout

/-- A layout of blanks only. -/
structure Layout.Blank (layout : Layout) : Prop where
  edge : ∀ level, ∀ c ∈ layout.edge level, isBlank c = true
  gap : ∀ level, ∀ c ∈ layout.gap level, isBlank c = true

theorem Layout.blank_indented : Layout.indented.Blank := by
  have blank (level : Nat) : ∀ c ∈ lineBreak level, isBlank c = true := by
    intro c listed
    rw [lineBreak, List.mem_cons, List.mem_replicate] at listed
    rcases listed with rfl | ⟨_, rfl⟩ <;> rfl
  exact ⟨blank, blank⟩

theorem skipBlanks_append {blanks : List Char} (blank : ∀ c ∈ blanks, isBlank c = true)
    (rest : List Char) : skipBlanks (blanks ++ rest) = skipBlanks rest :=
  List.dropWhile_append_of_pos blank

theorem skipBlanks_cons {c : Char} (visible : isBlank c = false) (rest : List Char) :
    skipBlanks (c :: rest) = c :: rest := by
  simp [skipBlanks, visible]

/-- The characters with which a value can start. -/
def isOpening (c : Char) : Bool :=
  c == '"' || c == '[' || c == '\x7b' || c == 'n' || c == 't' || c == 'f' || c == '-' || c.isDigit

theorem isOpening_apart {c d : Char} (opening : isOpening c = true) (other : isOpening d = false) :
    c ≠ d := by
  rintro rfl
  rw [opening] at other
  cases other

theorem isBlank_of_isOpening {c : Char} (opening : isOpening c = true) : isBlank c = false := by
  have apart (d : Char) (other : isOpening d = false) : c ≠ d := isOpening_apart opening other
  simp [isBlank, apart ' ' rfl, apart '\t' rfl, apart '\n' rfl, apart '\r' rfl]

variable {layout : Layout} {value : Json}

theorem chars_int (n : Int) (level : Nat) (rest : List Char) :
    chars layout level (.int n) rest = (toString n).toList ++ rest := rfl

theorem chars_str (s : String) (level : Nat) (rest : List Char) :
    chars layout level (.str s) rest = stringChars s ++ rest := rfl

theorem Plain.chars_cons (plain : Plain value) (level : Nat) (rest : List Char) :
    ∃ c cs, chars layout level value rest = c :: cs ∧ isOpening c = true := by
  cases plain with
  | null => exact ⟨'n', _, rfl, rfl⟩
  | bool b => cases b <;> exact ⟨_, _, rfl, rfl⟩
  | int n =>
    obtain ⟨c, cs, written, first⟩ := toString_cons n
    rw [chars_int, written]
    refine ⟨c, cs ++ rest, rfl, ?_⟩
    rcases first with rfl | digit
    · rfl
    · simp [isOpening, digit]
  | str s => exact ⟨_, _, rfl, rfl⟩
  | @arr items plain => cases items <;> exact ⟨_, _, rfl, rfl⟩
  | @obj members distinct plain => cases members <;> exact ⟨_, _, rfl, rfl⟩

mutual

/-- What follows a value does not change what is written of it. -/
theorem chars_append (layout : Layout) : (level : Nat) → (value : Json) → (rest : List Char) →
    chars layout level value rest = chars layout level value [] ++ rest
  | level, arr (item :: items), rest => by
    rw [chars, chars, chars_append layout (level + 1) item, itemsChars_append,
      chars_append layout (level + 1) item (itemsChars _ _ _ (_ ++ [']'])),
      itemsChars_append layout (level + 1) items (_ ++ [']'])]
    simp
  | level, obj ((key, member) :: members), rest => by
    rw [chars, chars, chars_append layout (level + 1) member, membersChars_append,
      chars_append layout (level + 1) member (membersChars _ _ _ (_ ++ ['\x7d'])),
      membersChars_append layout (level + 1) members (_ ++ ['\x7d'])]
    simp
  | _, .null, _ | _, .bool _, _ | _, .int _, _ | _, .float _, _ | _, .str _, _ | _, .arr [], _
  | _, .obj [], _ => by simp [chars]

theorem itemsChars_append (layout : Layout) : (level : Nat) → (items : List Json) →
    (rest : List Char) →
    itemsChars layout level items rest = itemsChars layout level items [] ++ rest
  | _, [], _ => rfl
  | level, item :: items, rest => by
    rw [itemsChars, itemsChars, chars_append layout level item (itemsChars _ _ items rest),
      chars_append layout level item (itemsChars _ _ items []),
      itemsChars_append layout level items rest]
    simp

theorem membersChars_append (layout : Layout) : (level : Nat) → (members : List (String × Json)) →
    (rest : List Char) →
    membersChars layout level members rest = membersChars layout level members [] ++ rest
  | _, [], _ => rfl
  | level, (key, member) :: members, rest => by
    rw [membersChars, membersChars, chars_append layout level member (membersChars _ _ members rest),
      chars_append layout level member (membersChars _ _ members []),
      membersChars_append layout level members rest]
    simp

end

end Layout

section Values

variable {layout : Layout} {level fuel : Nat} {rest : List Char}

/-- A value is read back from its text, whatever follows it, with fuel for twice its length: a
bracket takes one step for the value and one for its first item. -/
def ReadsBack (layout : Layout) (v : Json) : Prop :=
  ∀ level rest fuel, Ends rest → 2 * (chars layout level v []).length ≤ fuel →
    value fuel (chars layout level v rest) = .ok (v, rest)

theorem readsBack_null : ReadsBack layout .null := by
  intro level rest fuel _ enough
  obtain ⟨fuel, rfl⟩ := Nat.exists_eq_add_of_le' enough
  rfl

theorem readsBack_bool (b : Bool) : ReadsBack layout (.bool b) := by
  intro level rest fuel _ enough
  cases b <;> obtain ⟨fuel, rfl⟩ := Nat.exists_eq_add_of_le' enough <;> rfl

theorem readsBack_str (s : String) : ReadsBack layout (.str s) := by
  intro level rest fuel _ enough
  have length := length_stringChars s
  rw [chars_str, List.append_nil] at enough
  cases fuel with
  | zero => omega
  | succ fuel =>
    have read : string fuel (s.toList.flatMap escapedChar ++ '"' :: rest) = .ok (s, rest) :=
      string_escaped s (by omega)
    rw [chars_str, stringChars_append, value, read]
    rfl

theorem value_scalar {c : Char} {cs : List Char} (quote : c ≠ '"') (brace : c ≠ '\x7b')
    (bracket : c ≠ '[') : value (fuel + 1) (c :: cs) = scalar (c :: cs) := by
  rw [value]
  all_goals simp [quote, brace, bracket]

theorem readsBack_int {n : Int} (short : n.natAbs < 10 ^ Text.longestNumber) :
    ReadsBack layout (.int n) := by
  intro level rest fuel ends enough
  obtain ⟨c, cs, written, first⟩ := toString_cons n
  have read := scalar_int short ends
  rw [chars_int, written] at enough ⊢
  rw [written] at read
  cases fuel with
  | zero => simp at enough
  | succ fuel =>
    have apart (d : Char) (sign : d ≠ '-') (other : d.isDigit = false) : c ≠ d := by
      rcases first with rfl | digit
      · exact sign.symm
      · exact ne_of_isDigit digit other
    rw [List.cons_append, value_scalar (apart _ (by decide) rfl) (apart _ (by decide) rfl)
      (apart _ (by decide) rfl)]
    exact read

theorem Plain.skipBlanks_chars {v : Json} (plain : Plain v) :
    skipBlanks (chars layout level v rest) = chars layout level v rest := by
  obtain ⟨c, cs, text, opening⟩ := @Plain.chars_cons layout v plain level rest
  rw [text, skipBlanks_cons (isBlank_of_isOpening opening)]

/-- One member is read, and found behind the others if its key is a new one. -/
theorem members_step {entry : String × Json} {found : Members} (fresh : entry.1 ∉ found.keys)
    (plain : Plain entry.2)
    (read : value fuel (chars layout level entry.2 rest) = .ok (entry.2, rest))
    (enough : entry.1.toList.length < fuel) :
    members (fuel + 1) found
      (stringChars entry.1 ++ ':' :: ' ' :: chars layout level entry.2 rest) =
      match skipBlanks rest with
      | '\x7d' :: rest => .ok (found ++ [entry], rest)
      | ',' :: rest => members fuel (found ++ [entry]) (skipBlanks rest)
      | rest => .error ⟨.comma, rest⟩ := by
  have name : string fuel (entry.1.toList.flatMap escapedChar ++
      '"' :: ':' :: ' ' :: chars layout level entry.2 rest) =
      .ok (entry.1, ':' :: ' ' :: chars layout level entry.2 rest) := string_escaped entry.1 enough
  have blank : skipBlanks (' ' :: chars layout level entry.2 rest) =
      chars layout level entry.2 rest := plain.skipBlanks_chars
  rw [stringChars_append, members, name]
  dsimp only [bind, Except.bind]
  rw [skipBlanks_cons rfl]
  simp only [blank, read, Members.set_of_not_mem fresh]
  rfl

section Lists

variable {edge : List Char} (blankEdge : ∀ c ∈ edge, isBlank c = true)
  (blankGap : ∀ c ∈ layout.gap level, isBlank c = true)
include blankEdge blankGap

theorem items_chars {item : Json} {items : List Json}
    (plain : ∀ v ∈ item :: items, Plain v) (back : ∀ v ∈ item :: items, ReadsBack layout v)
    (enough : 2 * ((chars layout level item []).length + (itemsChars layout level items []).length) <
      fuel) :
    Json.items fuel (chars layout level item (itemsChars layout level items (edge ++ ']' :: rest))) =
      .ok (item :: items, rest) := by
  -- The fuel is spent on the first item and, one less, on the others behind the next comma.
  induction items generalizing item fuel with
  | nil =>
    cases fuel with
    | zero => omega
    | succ fuel =>
      have first := back item (by simp) level (edge ++ ']' :: rest) fuel
        (ends_append blankEdge (ends_cons rfl)) (by omega)
      rw [itemsChars, Json.items, first]
      dsimp only [bind, Except.bind]
      rw [skipBlanks_append blankEdge, skipBlanks_cons rfl]
      rfl
  | cons next items ih =>
    cases fuel with
    | zero => omega
    | succ fuel =>
      have length : (itemsChars layout level (next :: items) []).length =
          1 + (layout.gap level).length + ((chars layout level next []).length +
            (itemsChars layout level items []).length) := by
        rw [itemsChars, chars_append]
        simp
        omega
      have first := back item (by simp) level
        (itemsChars layout level (next :: items) (edge ++ ']' :: rest)) fuel
        (ends_cons rfl) (by omega)
      have later := @ih fuel next (fun v listed => plain v (by simp [listed]))
        (fun v listed => back v (by simp [listed])) (by omega)
      rw [Json.items, first]
      dsimp only [bind, Except.bind]
      rw [itemsChars, skipBlanks_cons rfl]
      simp only [skipBlanks_append blankGap]
      rw [(plain next (by simp)).skipBlanks_chars, later]
      rfl

theorem members_chars {entry : String × Json} {members found : Members}
    (distinct : (found ++ entry :: members).keys.Nodup)
    (plain : ∀ member ∈ entry :: members, Plain member.2)
    (back : ∀ member ∈ entry :: members, ReadsBack layout member.2)
    (enough : 2 * ((stringChars entry.1).length + (chars layout level entry.2 []).length +
      (membersChars layout level members []).length) < fuel) :
    Json.members fuel found (stringChars entry.1 ++ ':' :: ' ' :: chars layout level entry.2
      (membersChars layout level members (edge ++ '\x7d' :: rest))) =
      .ok (found ++ entry :: members, rest) := by
  induction members generalizing entry found fuel with
  | nil =>
    have name := length_stringChars entry.1
    cases fuel with
    | zero => omega
    | succ fuel =>
      have read := back entry (by simp) level (edge ++ '\x7d' :: rest) fuel
        (ends_append blankEdge (ends_cons rfl)) (by omega)
      rw [membersChars, members_step (Members.fresh_of_nodup distinct) (plain entry (by simp)) read
        (by omega), skipBlanks_append blankEdge, skipBlanks_cons rfl]
      rfl
  | cons next members ih =>
    have name := length_stringChars entry.1
    cases fuel with
    | zero => omega
    | succ fuel =>
      have length : (membersChars layout level (next :: members) []).length =
          3 + (layout.gap level).length + ((stringChars next.1).length +
            (chars layout level next.2 []).length +
            (membersChars layout level members []).length) := by
        rw [membersChars, chars_append]
        simp
        omega
      have read := back entry (by simp) level
        (membersChars layout level (next :: members) (edge ++ '\x7d' :: rest)) fuel
        (ends_cons rfl) (by omega)
      have regrouped : found ++ entry :: next :: members = (found ++ [entry]) ++ next :: members := by
        simp
      have fresh := Members.fresh_of_nodup distinct
      rw [regrouped] at distinct ⊢
      have later := @ih fuel next (found ++ [entry]) distinct
        (fun m listed => plain m (by simp [listed])) (fun m listed => back m (by simp [listed]))
        (by omega)
      have quote : skipBlanks (stringChars next.1 ++ ':' :: ' ' :: chars layout level next.2
          (membersChars layout level members (edge ++ '\x7d' :: rest))) = stringChars next.1 ++
            ':' :: ' ' :: chars layout level next.2
              (membersChars layout level members (edge ++ '\x7d' :: rest)) := skipBlanks_cons rfl _
      rw [members_step fresh (plain entry (by simp)) read (by omega), membersChars,
        skipBlanks_cons rfl]
      simp only [skipBlanks_append blankGap, quote]
      exact later

end Lists

section Containers

variable (blank : layout.Blank)
include blank

theorem readsBack_arr {items : List Json} (plain : ∀ item ∈ items, Plain item)
    (back : ∀ item ∈ items, ReadsBack layout item) : ReadsBack layout (.arr items) := by
  intro level rest fuel ends enough
  cases items with
  | nil =>
    obtain ⟨fuel, rfl⟩ := Nat.exists_eq_add_of_le' enough
    rfl
  | cons item items =>
    have length : (chars layout level (.arr (item :: items)) []).length =
        2 + (layout.edge (level + 1)).length + (layout.edge level).length +
          ((chars layout (level + 1) item []).length +
            (itemsChars layout (level + 1) items []).length) := by
      rw [chars, chars_append, itemsChars_append]
      simp
      omega
    cases fuel with
    | zero => omega
    | succ fuel =>
      have read : Json.items fuel (chars layout (level + 1) item
          (itemsChars layout (level + 1) items (layout.edge level ++ ']' :: rest))) =
          .ok (item :: items, rest) :=
        items_chars (blank.edge level) (blank.gap (level + 1)) plain back (by omega)
      obtain ⟨c, cs, text, opening⟩ := @Plain.chars_cons layout item (plain item (by simp))
        (level + 1) (itemsChars layout (level + 1) items (layout.edge level ++ ']' :: rest))
      have bracket : c ≠ ']' := isOpening_apart opening rfl
      rw [text] at read
      rw [chars, text, value, skipBlanks_append (blank.edge (level + 1)),
        skipBlanks_cons (isBlank_of_isOpening opening)]
      simp [bracket, read]

theorem readsBack_obj {members : Members} (distinct : members.keys.Nodup)
    (plain : ∀ member ∈ members, Plain member.2)
    (back : ∀ member ∈ members, ReadsBack layout member.2) : ReadsBack layout (.obj members) := by
  intro level rest fuel ends enough
  cases members with
  | nil =>
    obtain ⟨fuel, rfl⟩ := Nat.exists_eq_add_of_le' enough
    rfl
  | cons entry members =>
    have length : (chars layout level (.obj (entry :: members)) []).length =
        4 + (layout.edge (level + 1)).length + (layout.edge level).length +
          ((stringChars entry.1).length + (chars layout (level + 1) entry.2 []).length +
            (membersChars layout (level + 1) members []).length) := by
      rw [chars, chars_append, membersChars_append]
      simp
      omega
    cases fuel with
    | zero => omega
    | succ fuel =>
      have read : Json.members fuel [] (stringChars entry.1 ++ ':' :: ' ' ::
          chars layout (level + 1) entry.2
            (membersChars layout (level + 1) members (layout.edge level ++ '\x7d' :: rest))) =
          .ok (entry :: members, rest) :=
        members_chars (blank.edge level) (blank.gap (level + 1)) distinct plain back (by omega)
      obtain ⟨tail, text⟩ : ∃ tail, stringChars entry.1 ++ ':' :: ' ' ::
          chars layout (level + 1) entry.2
            (membersChars layout (level + 1) members (layout.edge level ++ '\x7d' :: rest)) =
          '"' :: tail := ⟨_, rfl⟩
      rw [text] at read
      rw [chars, text, value, skipBlanks_append (blank.edge (level + 1)), skipBlanks_cons rfl]
      simp [read]

end Containers

/-- A plain value whose integers are short enough is read back. -/
theorem Plain.readsBack {v : Json} (blank : layout.Blank) (plain : Plain v) (short : Short v) :
    ReadsBack layout v := by
  induction plain with
  | null => exact readsBack_null
  | bool b => exact readsBack_bool b
  | int n => exact readsBack_int (short n .self)
  | str s => exact readsBack_str s
  | arr plain ih =>
    exact readsBack_arr blank plain fun item listed =>
      ih item listed fun n inside => short n (.item listed inside)
  | obj distinct plain ih =>
    exact readsBack_obj blank distinct plain fun member listed =>
      ih member listed fun n inside => short n (.member listed inside)

/-- The text of a plain value, be it laid out in whatever blanks, is read as the value. -/
theorem Plain.read_write {v : Json} (blank : layout.Blank) (plain : Plain v) (short : Short v) :
    read (v.write layout) = .ok v := by
  obtain ⟨c, cs, text, opening⟩ := @Plain.chars_cons layout v plain 0 []
  have mark : c ≠ '\ufeff' := isOpening_apart opening rfl
  have back := plain.readsBack blank short 0 [] (2 * (chars layout 0 v []).length + 1) ends_nil
    (by omega)
  have whole : readChars (chars layout 0 v []) = .ok v := by
    rw [text] at back ⊢
    rw [readChars, skipBlanks_cons (isBlank_of_isOpening opening), back]
    · rfl
    · simpa using mark
  rw [read, write, String.toList_ofList, whole]

end Values

section Accepted

variable {fuel : Nat} {cs rest : List Char}

/-- What values, items and members are read to with some fuel has no integer that is too long. -/
structure ReadsShort (fuel : Nat) : Prop where
  value : ∀ cs v rest, value fuel cs = .ok (v, rest) → Short v
  items : ∀ cs found rest, items fuel cs = .ok (found, rest) → ∀ item ∈ found, Short item
  members : ∀ cs before found rest, members fuel before cs = .ok (found, rest) →
    (∀ member ∈ before, Short member.2) → ∀ member ∈ found, Short member.2

theorem short_of_value (short : ReadsShort fuel) {v : Json}
    (read : value (fuel + 1) cs = .ok (v, rest)) : Short v := by
  unfold value at read
  split at read
  next impossible => cases impossible
  next fuel' _ more =>
    cases more
    obtain ⟨s, _, read⟩ := ok_of_bind read
    cases read
    intro n inside
    cases inside
  next fuel' _ more =>
    cases more
    split at read
    · cases read
      exact short_obj.mpr (by simp)
    · obtain ⟨found, inner, read⟩ := ok_of_bind read
      cases read
      exact short_obj.mpr (short.members _ _ _ _ inner (by simp))
  next fuel' _ more =>
    cases more
    split at read
    · cases read
      exact short_arr.mpr (by simp)
    · obtain ⟨found, inner, read⟩ := ok_of_bind read
      cases read
      exact short_arr.mpr (short.items _ _ _ inner)
  next => exact short_of_scalar read

theorem short_of_items (short : ReadsShort fuel) {found : List Json}
    (read : items (fuel + 1) cs = .ok (found, rest)) : ∀ item ∈ found, Short item := by
  rw [items] at read
  obtain ⟨⟨item, after⟩, first, read⟩ := ok_of_bind read
  have here := short.value _ _ _ first
  dsimp only at read
  split at read
  · cases read
    simpa using here
  · obtain ⟨⟨later, behind⟩, inner, read⟩ := ok_of_bind read
    cases read
    exact List.forall_mem_cons.mpr ⟨here, short.items _ _ _ inner⟩
  · cases read

theorem short_of_members (short : ReadsShort fuel) {before found : Members}
    (read : members (fuel + 1) before cs = .ok (found, rest))
    (known : ∀ member ∈ before, Short member.2) : ∀ member ∈ found, Short member.2 := by
  unfold members at read
  split at read
  next impossible => cases impossible
  next before _ _ _ fuel' _ more =>
    cases more
    obtain ⟨⟨key, afterKey⟩, name, read⟩ := ok_of_bind read
    dsimp only at read
    split at read
    next =>
      obtain ⟨⟨member, after⟩, first, read⟩ := ok_of_bind read
      have here := short.value _ _ _ first
      have set : ∀ m ∈ Members.set key member before, Short m.2 := by
        intro m listed
        rcases Members.mem_set listed with old | new
        · exact known m old
        · rw [new]
          exact here
      dsimp only at read
      split at read
      · cases read
        exact set
      · exact short.members _ _ _ _ read set
      · cases read
    next => cases read
  next => cases read

/-- No integer that is read is too long, however deep it stands in a value. -/
theorem readsShort (fuel : Nat) : ReadsShort fuel := by
  induction fuel with
  | zero =>
    constructor
    · intro cs v rest read
      cases read
    · intro cs found rest read
      cases read
    · intro cs before found rest read
      cases read
  | succ fuel ih =>
    constructor
    · intro cs v rest read
      exact short_of_value ih read
    · intro cs found rest read
      exact short_of_items ih read
    · intro cs before found rest read
      exact short_of_members ih read

theorem short_of_read {text : String} {v : Json} (accepted : read text = .ok v) : Short v := by
  unfold read at accepted
  split at accepted
  next found whole =>
    cases accepted
    unfold readChars at whole
    split at whole
    · cases whole
    · obtain ⟨⟨found, after⟩, inner, whole⟩ := ok_of_bind whole
      dsimp only at whole
      split at whole
      · cases whole
        exact (readsShort _).value _ _ _ inner
      · cases whole
  · cases accepted

end Accepted

/-- What is written of a plain value is read as that value exactly if no integer is too long. -/
theorem Plain.read_write_iff {layout : Layout} (blank : layout.Blank) {v : Json} (plain : Plain v) :
    read (v.write layout) = .ok v ↔ Short v :=
  ⟨short_of_read, plain.read_write blank⟩

end QueryAudit.Json
