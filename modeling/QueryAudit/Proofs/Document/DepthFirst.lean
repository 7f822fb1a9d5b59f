import QueryAudit.Document.Basic

/-! Depth-first order. A trail says how something is come by from the outside in: by positions, one
for each selection that is entered on the way. Whoever goes through selections one after the other,
and through each of them before the next, meets trails in lexicographic order. -/
namespace QueryAudit

/-- Selections are taken apart body by body. -/
@[elab_as_elim]
theorem selections_induction {motive : List Selection → Prop} (nil : motive [])
    (field : ∀ head body rest, motive body → motive rest → motive (.field head body :: rest))
    (inline : ∀ head body rest, motive body → motive rest → motive (.inline head body :: rest))
    (spread : ∀ head rest, motive rest → motive (.spread head :: rest)) :
    ∀ body, motive body
  | [] => nil
  | .field head body :: rest =>
    field head body rest (selections_induction nil field inline spread body)
      (selections_induction nil field inline spread rest)
  | .inline head body :: rest =>
    inline head body rest (selections_induction nil field inline spread body)
      (selections_induction nil field inline spread rest)
  | .spread head :: rest =>
    spread head rest (selections_induction nil field inline spread rest)

/-- Steps of a relation one after the other, each with its label. -/
inductive Steps (step : σ → ℓ → σ → Prop) : σ → List ℓ → σ → Prop where
  | nil : Steps step s [] s
  | cons : step s label t → Steps step t labels u → Steps step s (label :: labels) u

/-- What every step keeps is kept by all of them together. -/
theorem Steps.invariant {step : σ → ℓ → σ → Prop} {kept : σ → Prop}
    (stepKept : ∀ s label t, step s label t → kept s → kept t)
    (steps : Steps step s labels t) (start : kept s) : kept t := by
  induction steps with
  | nil => exact start
  | cons first _ ih => exact ih (stepKept _ _ _ first start)

/-- Steps can be parted anywhere. -/
theorem Steps.part {step : σ → ℓ → σ → Prop} {front back : List ℓ}
    (steps : Steps step s (front ++ back) t) : ∃ u, Steps step s front u ∧ Steps step u back t := by
  induction front generalizing s with
  | nil => exact ⟨s, .nil, steps⟩
  | cons label rest ih =>
    cases steps with
    | cons first steps =>
      obtain ⟨u, before, after⟩ := ih steps
      exact ⟨u, .cons first before, after⟩

/-- Steps of which only those with certain labels are taken. -/
theorem steps_allowed {step fewer : σ → ℓ → σ → Prop} {allowed : ℓ → Prop}
    (same : ∀ s label t, fewer s label t ↔ step s label t ∧ allowed label) :
    Steps fewer s labels t ↔ Steps step s labels t ∧ ∀ label ∈ labels, allowed label := by
  constructor
  · intro steps
    induction steps with
    | nil => exact ⟨.nil, List.forall_mem_nil _⟩
    | cons first _ ih =>
      obtain ⟨taken, permitted⟩ := (same _ _ _).mp first
      exact ⟨.cons taken ih.1, List.forall_mem_cons.mpr ⟨permitted, ih.2⟩⟩
  · rintro ⟨steps, permitted⟩
    induction steps with
    | nil => exact .nil
    | cons first _ ih =>
      obtain ⟨here, onward⟩ := List.forall_mem_cons.mp permitted
      exact .cons ((same _ _ _).mpr ⟨first, here⟩) (ih onward)

/-- A trail that is met before another one. -/
def Earlier (first second : List Nat) : Prop := List.Lex (· < ·) first second

@[simp] theorem earlier_cons (position : Nat) (first second : List Nat) :
    Earlier (position :: first) (position :: second) ↔ Earlier first second := by
  constructor
  · rintro (_ | less | deeper)
    · exact absurd less (Nat.lt_irrefl _)
    · exact deeper
  · exact List.Lex.cons

theorem earlier_of_lt {i j : Nat} (less : i < j) (first second : List Nat) :
    Earlier (i :: first) (j :: second) := List.Lex.rel less

theorem earlier_nil (position : Nat) (trail : List Nat) : Earlier [] (position :: trail) :=
  List.Lex.nil

theorem Earlier.irrefl (trail : List Nat) : ¬ Earlier trail trail :=
  List.lex_irrefl Nat.lt_irrefl trail

/-- The first of the siblings that are still ahead. -/
theorem drop_eq_cons {list rest : List α} {a : α} {i : Nat} (split : list.drop i = a :: rest) :
    list[i]? = some a ∧ list.drop (i + 1) = rest := by
  constructor
  · have first := @List.getElem?_drop _ list i 0
    simpa [split] using first.symm
  · rw [← List.tail_drop, split, List.tail_cons]

/-- The list holds exactly the items that are found at some trail, once for each trail, in the
order of the trails. -/
def DepthFirst (found : List Nat → α → Prop) (items : List α) : Prop :=
  ∃ trailed : List (List Nat × α), trailed.map Prod.snd = items ∧
    (∀ trail a, (trail, a) ∈ trailed ↔ found trail a) ∧
    trailed.Pairwise fun x y => Earlier x.1 y.1

namespace DepthFirst

variable {found other : List Nat → α → Prop} {items later : List α}

theorem congr (listed : DepthFirst found items) (same : ∀ trail a, found trail a ↔ other trail a) :
    DepthFirst other items := by
  obtain ⟨trailed, rfl, members, ordered⟩ := listed
  exact ⟨trailed, rfl, fun trail a => (members trail a).trans (same trail a), ordered⟩

theorem mem_iff (listed : DepthFirst found items) (a : α) :
    a ∈ items ↔ ∃ trail, found trail a := by
  obtain ⟨trailed, rfl, members, _⟩ := listed
  simp [members]

theorem nothing (none : ∀ trail a, ¬ found trail a) : DepthFirst found [] :=
  ⟨[], rfl, by simp [none], .nil⟩

theorem single (trail : List Nat) (a : α) : DepthFirst (fun t b => t = trail ∧ b = a) [a] :=
  ⟨[(trail, a)], rfl, by simp, by simp⟩

theorem append (first : DepthFirst found items) (second : DepthFirst other later)
    (apart : ∀ t a u b, found t a → other u b → Earlier t u) :
    DepthFirst (fun trail a => found trail a ∨ other trail a) (items ++ later) := by
  obtain ⟨front, rfl, inFront, orderedFront⟩ := first
  obtain ⟨back, rfl, inBack, orderedBack⟩ := second
  refine ⟨front ++ back, List.map_append, fun trail a => ?_, ?_⟩
  · rw [List.mem_append, inFront, inBack]
  · refine List.pairwise_append.mpr ⟨orderedFront, orderedBack, ?_⟩
    rintro ⟨t, a⟩ before ⟨u, b⟩ after
    exact apart t a u b ((inFront t a).mp before) ((inBack u b).mp after)

/-- What is found below the selections that stand at a position or behind it. -/
def Behind (position : Nat) (found : List Nat → α → Prop) (trail : List Nat) (a : α) : Prop :=
  (∃ i rest, trail = i :: rest ∧ position ≤ i) ∧ found trail a

/-- What is found below one selection comes before what is found behind it. -/
theorem siblings {position : Nat}
    (here : DepthFirst (fun rest a => found (position :: rest) a) items)
    (behind : DepthFirst (Behind (position + 1) found) later) :
    DepthFirst (Behind position found) (items ++ later) := by
  obtain ⟨front, rfl, members, ordered⟩ := here
  have below : DepthFirst (fun trail a => ∃ rest, trail = position :: rest ∧ found trail a)
      (front.map Prod.snd) := by
    refine ⟨front.map fun x => (position :: x.1, x.2), by simp, fun trail a => ?_, ?_⟩
    · simp only [List.mem_map, Prod.mk.injEq, Prod.exists]
      constructor
      · rintro ⟨rest, b, member, rfl, rfl⟩
        exact ⟨rest, rfl, (members rest b).mp member⟩
      · rintro ⟨rest, rfl, holds⟩
        exact ⟨rest, a, (members rest a).mpr holds, rfl, rfl⟩
    · simpa [List.pairwise_map] using ordered
  refine (below.append behind ?_).congr fun trail a => ?_
  · rintro _ a _ b ⟨rest, rfl, _⟩ ⟨⟨i, more, rfl, behind⟩, _⟩
    exact earlier_of_lt behind rest more
  · constructor
    · rintro (⟨rest, rfl, holds⟩ | ⟨⟨i, rest, rfl, behind⟩, holds⟩)
      · exact ⟨⟨position, rest, rfl, Nat.le_refl _⟩, holds⟩
      · exact ⟨⟨i, rest, rfl, Nat.le_of_succ_le behind⟩, holds⟩
    · rintro ⟨⟨i, rest, rfl, behind⟩, holds⟩
      rcases Nat.eq_or_lt_of_le behind with rfl | less
      · exact .inl ⟨rest, rfl, holds⟩
      · exact .inr ⟨⟨i, rest, rfl, less⟩, holds⟩

/-- Behind the start stands everything. -/
theorem of_behind_zero (listed : DepthFirst (Behind 0 found) items)
    (inside : ∀ a, ¬ found [] a) : DepthFirst found items := by
  refine listed.congr fun trail a => ⟨And.right, fun holds => ⟨?_, holds⟩⟩
  cases trail with
  | nil => exact absurd holds (inside a)
  | cons i rest => exact ⟨i, rest, rfl, Nat.zero_le i⟩

end DepthFirst

end QueryAudit
