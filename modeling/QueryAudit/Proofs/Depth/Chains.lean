import QueryAudit.Proofs.Depth.Walk
import QueryAudit.Proofs.Document.DepthFirst

/-! The chains that a walk of depth follows. A chain goes from a root down to a field, through the
selections that enclose it; where one of them is a spread, the chain goes on in the fragment. A walk
hits a field once for each chain to it that has as many counted fields on it as there may be
levels, and meets these chains in depth-first order. -/
namespace QueryAudit

def Selection.fieldName? : Selection → Option String
  | .field head _ => some head.name.text
  | _ => none

namespace Depth

/-- Selections that stand together, where they stand, and the names that no spread among them leads
to, since the chain has crossed them or the root bears them. -/
structure Scope where
  crossed : List String
  place : Place
  body : List Selection

def Scope.ofRoot (root : CorpusDocument) : Scope :=
  ⟨root.node.fragmentName?.toList, .ofRoot root, root.node.body⟩

/-- A selection of a chain, and where it stands among its siblings. -/
structure Link where
  position : Nat
  selection : Selection

/-- One link further: into a field or an inline fragment, or across a spread into the fragment of
that name. -/
inductive Enters (fragments : List (Sourced Fragment)) (s : Scope) : Link → Scope → Prop where
  | field : s.body[i]? = some (.field head body) →
      Enters fragments s ⟨i, .field head body⟩ ⟨s.crossed, s.place.child i, body⟩
  | inline : s.body[i]? = some (.inline head body) →
      Enters fragments s ⟨i, .inline head body⟩ ⟨s.crossed, s.place.child i, body⟩
  | spread {i head f} : s.body[i]? = some (.spread head) → head.name.text ∉ s.crossed →
      lastNamed head.name.text fragments = some f →
      Enters fragments s ⟨i, .spread head⟩
        ⟨head.name.text :: s.crossed, .ofFragment f, f.node.body⟩

/-- The enclosing selections, from the outside in, that lead from one scope to another. -/
abbrev Chain (fragments : List (Sourced Fragment)) : Scope → List Link → Scope → Prop :=
  Steps (Enters fragments)

/-- The names of the fields on a chain. -/
def fieldNames (chain : List Link) : List String := chain.filterMap (·.selection.fieldName?)

/-- A field where it stands. -/
structure FieldNode where
  place : Place
  head : FieldHead
  body : List Selection

/-- A chain has come to the scope in which the field stands, at a position there. -/
def EndsAt (fragments : List (Sourced Fragment)) (s : Scope) (chain : List Link) (position : Nat)
    (n : FieldNode) : Prop :=
  ∃ t, Chain fragments s chain t ∧ t.body[position]? = some (.field n.head n.body) ∧
    n.place = t.place.child position

/-- A field that opens a level of its own beneath exactly so many others. -/
structure Opens (limits : DepthLimits) (levels : Nat) (chain : List Link) (n : FieldNode) :
    Prop where
  limited : ∀ name ∈ fieldNames chain, name.startsWith "__" = false
  limitedToo : n.head.name.text.startsWith "__" = false
  beneath : (fieldNames chain).countP (!limits.isIgnored ·) = levels
  counted : limits.isIgnored n.head.name.text = false
  inhabited : n.body ≠ []

/-- A trail is one of a chain to a field that opens a level beneath exactly so many others. -/
def Exceeds (limits : DepthLimits) (fragments : List (Sourced Fragment)) (s : Scope) (levels : Nat)
    (trail : List Nat) (n : FieldNode) : Prop :=
  ∃ chain position, EndsAt fragments s chain position n ∧ Opens limits levels chain n ∧
    trail = chain.map (·.position) ++ [position]

/-- What is reported of a field that opens the level after the last one allowed. -/
def FieldNode.violation (limits : DepthLimits) (rootName : String) (n : FieldNode) : Violation where
  address := n.place.node
  fieldName := n.head.name.text
  depth := limits.maxDepth + 1
  maxDepth := limits.maxDepth
  location := n.place.locate n.head.position
  rootName := rootName

variable {limits : DepthLimits} {fragments enterable : List (Sourced Fragment)} {s : Scope}
  {levels i : Nat} {trail rest : List Nat} {n : FieldNode} {chain : List Link}

section Opens

theorem opens_nil : Opens limits levels [] n ↔ n.head.name.text.startsWith "__" = false ∧
    levels = 0 ∧ limits.isIgnored n.head.name.text = false ∧ n.body ≠ [] := by
  constructor
  · rintro ⟨_, limited, beneath, counted, inhabited⟩
    exact ⟨limited, beneath.symm, counted, inhabited⟩
  · rintro ⟨limited, rfl, counted, inhabited⟩
    exact ⟨by simp [fieldNames], limited, rfl, counted, inhabited⟩

theorem opens_cons_other {link : Link} (other : link.selection.fieldName? = none) :
    Opens limits levels (link :: chain) n ↔ Opens limits levels chain n := by
  have same : fieldNames (link :: chain) = fieldNames chain := by simp [fieldNames, other]
  constructor
  · rintro ⟨limited, limitedToo, beneath, counted, inhabited⟩
    exact ⟨same ▸ limited, limitedToo, same ▸ beneath, counted, inhabited⟩
  · rintro ⟨limited, limitedToo, beneath, counted, inhabited⟩
    exact ⟨same ▸ limited, limitedToo, same ▸ beneath, counted, inhabited⟩

/-- A field on the chain takes one of the levels above, unless it is ignored. -/
theorem opens_cons_field (head : FieldHead) (body : List Selection) :
    Opens limits levels (⟨i, .field head body⟩ :: chain) n ↔
      head.name.text.startsWith "__" = false ∧
        (limits.isIgnored head.name.text = true ∧ Opens limits levels chain n ∨
          limits.isIgnored head.name.text = false ∧
            ∃ fewer, levels = fewer + 1 ∧ Opens limits fewer chain n) := by
  have names : fieldNames (⟨i, .field head body⟩ :: chain) =
      head.name.text :: fieldNames chain := by simp [fieldNames, Selection.fieldName?]
  constructor
  · rintro ⟨limited, limitedToo, beneath, counted, inhabited⟩
    rw [names, List.forall_mem_cons] at limited
    rw [names, List.countP_cons] at beneath
    refine ⟨limited.1, ?_⟩
    cases ignored : limits.isIgnored head.name.text with
    | true =>
      refine .inl ⟨rfl, limited.2, limitedToo, ?_, counted, inhabited⟩
      simpa [ignored] using beneath
    | false =>
      refine .inr ⟨rfl, _, ?_, limited.2, limitedToo, rfl, counted, inhabited⟩
      simpa [ignored] using beneath.symm
  · rintro ⟨first, ⟨ignored, others⟩ | ⟨charged, fewer, rfl, others⟩⟩
    · refine ⟨?_, others.limitedToo, ?_, others.counted, others.inhabited⟩
      · exact names ▸ List.forall_mem_cons.mpr ⟨first, others.limited⟩
      · simp [names, ignored, others.beneath]
    · refine ⟨?_, others.limitedToo, ?_, others.counted, others.inhabited⟩
      · exact names ▸ List.forall_mem_cons.mpr ⟨first, others.limited⟩
      · simp [names, charged, others.beneath]

end Opens

/-! The first link of a chain decides how a trail begins. -/

theorem not_exceeds_nil : ¬ Exceeds limits fragments s levels [] n := by
  rintro ⟨chain, position, _, _, split⟩
  simp at split

/-- A trail ends where the field stands, or enters a selection and goes on from there. -/
theorem exceeds_cons : Exceeds limits fragments s levels (i :: rest) n ↔
    (rest = [] ∧ s.body[i]? = some (.field n.head n.body) ∧ n.place = s.place.child i ∧
      Opens limits levels [] n) ∨
    ∃ selection t chain position, Enters fragments s ⟨i, selection⟩ t ∧
      EndsAt fragments t chain position n ∧ Opens limits levels (⟨i, selection⟩ :: chain) n ∧
      rest = chain.map (·.position) ++ [position] := by
  constructor
  · rintro ⟨chain, position, ⟨t, steps, stands, placed⟩, opens, split⟩
    cases steps with
    | nil =>
      obtain ⟨rfl, rfl⟩ : i = position ∧ rest = [] := by simpa using split
      exact .inl ⟨rfl, stands, placed, opens⟩
    | @cons _ link u more _ first steps =>
      obtain ⟨rfl, rfl⟩ : i = link.position ∧ rest = more.map (·.position) ++ [position] := by
        simpa using split
      exact .inr ⟨link.selection, u, more, position, first, ⟨t, steps, stands, placed⟩, opens, rfl⟩
  · rintro (⟨rfl, stands, placed, opens⟩ | ⟨selection, t, chain, position, first, ⟨u, steps, stands,
      placed⟩, opens, rfl⟩)
    · exact ⟨[], i, ⟨s, .nil, stands, placed⟩, opens, rfl⟩
    · exact ⟨⟨i, selection⟩ :: chain, position, ⟨u, .cons first steps, stands, placed⟩, opens, rfl⟩

theorem not_exceeds_beyond (beyond : s.body[i]? = none) :
    ¬ Exceeds limits fragments s levels (i :: rest) n := by
  rw [exceeds_cons]
  rintro (⟨_, stands, _⟩ | ⟨selection, t, chain, position, first, _⟩)
  · simp [beyond] at stands
  · cases first <;> simp_all

theorem not_exceeds_empty (empty : s.body = []) : ¬ Exceeds limits fragments s levels trail n := by
  cases trail with
  | nil => exact not_exceeds_nil
  | cons i rest => exact not_exceeds_beyond (by simp [empty])

theorem exceeds_inline (stands : s.body[i]? = some (.inline head body)) :
    Exceeds limits fragments s levels (i :: rest) n ↔
      Exceeds limits fragments ⟨s.crossed, s.place.child i, body⟩ levels rest n := by
  rw [exceeds_cons]
  constructor
  · rintro (⟨_, other, _⟩ | ⟨selection, t, chain, position, first, ends, opens, split⟩)
    · simp [stands] at other
    · cases first with
      | inline found =>
        cases stands.symm.trans found
        exact ⟨chain, position, ends, (opens_cons_other rfl).mp opens, split⟩
      | field found => simp [stands] at found
      | spread found => simp [stands] at found
  · rintro ⟨chain, position, ends, opens, split⟩
    exact .inr ⟨_, _, chain, position, .inline stands, ends,
      (opens_cons_other rfl).mpr opens, split⟩

theorem exceeds_spread (stands : s.body[i]? = some (.spread head)) :
    Exceeds limits fragments s levels (i :: rest) n ↔
      head.name.text ∉ s.crossed ∧ ∃ f, lastNamed head.name.text fragments = some f ∧
        Exceeds limits fragments ⟨head.name.text :: s.crossed, .ofFragment f, f.node.body⟩ levels
          rest n := by
  rw [exceeds_cons]
  constructor
  · rintro (⟨_, other, _⟩ | ⟨selection, t, chain, position, first, ends, opens, split⟩)
    · simp [stands] at other
    · cases first with
      | spread found fresh known =>
        cases stands.symm.trans found
        exact ⟨fresh, _, known, chain, position, ends, (opens_cons_other rfl).mp opens, split⟩
      | field found => simp [stands] at found
      | inline found => simp [stands] at found
  · rintro ⟨fresh, f, known, chain, position, ends, opens, split⟩
    exact .inr ⟨_, _, chain, position, .spread stands fresh known, ends,
      (opens_cons_other rfl).mpr opens, split⟩

/-- At a field the trail ends, if no level is left to be opened above it, or goes on inside. -/
theorem exceeds_field (stands : s.body[i]? = some (.field head body)) :
    Exceeds limits fragments s levels (i :: rest) n ↔
      head.name.text.startsWith "__" = false ∧
        (limits.isIgnored head.name.text = true ∧
            Exceeds limits fragments ⟨s.crossed, s.place.child i, body⟩ levels rest n ∨
          limits.isIgnored head.name.text = false ∧
            (levels = 0 ∧ body ≠ [] ∧ rest = [] ∧ n = ⟨s.place.child i, head, body⟩ ∨
              ∃ fewer, levels = fewer + 1 ∧
                Exceeds limits fragments ⟨s.crossed, s.place.child i, body⟩ fewer rest n)) := by
  rw [exceeds_cons]
  constructor
  · rintro (⟨rfl, found, placed, opens⟩ |
      ⟨selection, t, chain, position, first, ends, opens, split⟩)
    · obtain ⟨place, head, body⟩ := n
      cases stands.symm.trans found
      obtain ⟨limited, rfl, counted, inhabited⟩ := opens_nil.mp opens
      have same := congrArg (FieldNode.mk · head body) placed
      exact ⟨limited, .inr ⟨counted, .inl ⟨rfl, inhabited, rfl, same⟩⟩⟩
    · cases first with
      | field found =>
        cases stands.symm.trans found
        obtain ⟨limited, ⟨ignored, deeper⟩ | ⟨counted, fewer, rfl, deeper⟩⟩ :=
          (opens_cons_field ..).mp opens
        · exact ⟨limited, .inl ⟨ignored, chain, position, ends, deeper, split⟩⟩
        · exact ⟨limited, .inr ⟨counted, .inr ⟨fewer, rfl, chain, position, ends, deeper, split⟩⟩⟩
      | inline found => simp [stands] at found
      | spread found => simp [stands] at found
  · rintro ⟨limited, ⟨ignored, chain, position, ends, opens, split⟩ |
      ⟨counted, ⟨rfl, inhabited, rfl, rfl⟩ | ⟨fewer, rfl, chain, position, ends, opens, split⟩⟩⟩
    · exact .inr ⟨_, _, chain, position, .field stands, ends,
        (opens_cons_field ..).mpr ⟨limited, .inl ⟨ignored, opens⟩⟩, split⟩
    · exact .inl ⟨rfl, stands, rfl, opens_nil.mpr ⟨limited, rfl, counted, inhabited⟩⟩
    · exact .inr ⟨_, _, chain, position, .field stands, ends,
        (opens_cons_field ..).mpr ⟨limited, .inr ⟨counted, fewer, rfl, opens⟩⟩, split⟩

theorem inhabited_of_exceeds (stands : s.body[i]? = some (.field head body))
    (exceeds : Exceeds limits fragments s levels (i :: rest) n) : body ≠ [] := by
  intro empty
  rw [exceeds_field stands] at exceeds
  obtain ⟨_, ⟨_, deeper⟩ | ⟨_, ⟨_, inhabited, _⟩ | ⟨_, _, deeper⟩⟩⟩ := exceeds
  · exact not_exceeds_empty empty deeper
  · exact inhabited empty
  · exact not_exceeds_empty empty deeper

/-- A walk may enter the fragments that are not crossed. -/
def Uncrossed (fragments : List (Sourced Fragment)) (crossed : List String)
    (enterable : List (Sourced Fragment)) : Prop :=
  ∀ name f, lastNamed name enterable = some f ↔
    name ∉ crossed ∧ lastNamed name fragments = some f

theorem Uncrossed.leaving {crossed : List String}
    (uncrossed : Uncrossed fragments crossed enterable) (name : String) :
    Uncrossed fragments (name :: crossed) (leaving name enterable) := by
  intro other f
  by_cases same : other = name
  · simp [same, lastNamed_leaving_self]
  · rw [lastNamed_leaving same, uncrossed]
    simp [same]

theorem uncrossed_enterableFrom (root : CorpusDocument) (fragments : List (Sourced Fragment)) :
    Uncrossed fragments root.node.fragmentName?.toList (enterableFrom root fragments) := by
  have all : Uncrossed fragments [] fragments := fun name f => by simp
  cases named : root.node.fragmentName? with
  | none => simpa [enterableFrom, named] using all
  | some own => simpa [enterableFrom, named] using all.leaving own

/-- A trail leads to what is reported. -/
def Reports (limits : DepthLimits) (rootName : String) (fragments : List (Sourced Fragment))
    (s : Scope) (levels : Nat) (trail : List Nat) (v : Violation) : Prop :=
  ∃ n, Exceeds limits fragments s levels trail n ∧ n.violation limits rootName = v

theorem not_reports_nil {rootName : String} {v : Violation} :
    ¬ Reports limits rootName fragments s levels [] v :=
  fun ⟨_, exceeds, _⟩ => not_exceeds_nil exceeds

variable {rootName : String} {level position : Nat}

/-- A walk goes through one selection and then through those behind it. -/
theorem hits_cons (place : Place) (selection : Selection) (rest : List Selection) :
    hits limits rootName enterable place level position (selection :: rest) =
      hits limits rootName enterable place level position [selection] ++
        hits limits rootName enterable place level (position + 1) rest := by
  cases selection <;> simp [hits]

/-- A field is passed over, hit, or entered at a level that it may open. -/
theorem hits_field_depthFirst {head : FieldHead} {body : List Selection}
    (stands : s.body[position]? = some (.field head body)) (within : level ≤ limits.maxDepth)
    (inside : ∀ deeper, deeper ≤ limits.maxDepth → DepthFirst
      (Reports limits rootName fragments ⟨s.crossed, s.place.child position, body⟩
        (limits.maxDepth - deeper))
      (hits limits rootName enterable (s.place.child position) deeper 0 body)) :
    DepthFirst
      (fun trail v =>
        Reports limits rootName fragments s (limits.maxDepth - level) (position :: trail) v)
      (hits limits rootName enterable s.place level position [.field head body]) := by
  rw [hits, hits, List.append_nil]
  by_cases leaf : body = []
  · simp only [leaf, List.isEmpty_nil, Bool.true_or, if_true]
    refine .nothing ?_
    rintro trail v ⟨n, exceeds, _⟩
    exact inhabited_of_exceeds stands exceeds leaf
  rw [List.isEmpty_eq_false_iff.mpr leaf, Bool.false_or]
  cases hidden : head.name.text.startsWith "__" with
  | true =>
    refine .nothing ?_
    rintro trail v ⟨n, exceeds, _⟩
    simp [exceeds_field stands, hidden] at exceeds
  | false =>
    cases ignored : limits.isIgnored head.name.text with
    | true =>
      refine (inside level within).congr fun trail v => ?_
      simp [Reports, exceeds_field stands, hidden, ignored]
    | false =>
      by_cases deep : limits.maxDepth < level + 1
      · have last : level = limits.maxDepth := by omega
        have hit : FieldNode.violation limits rootName ⟨s.place.child position, head, body⟩ =
            ⟨(s.place.child position).node, head.name.text, level + 1, limits.maxDepth,
              s.place.locate head.position, rootName⟩ := by rw [last]; rfl
        simp only [deep, if_true, Bool.false_eq_true, if_false, ← hit]
        refine (DepthFirst.single [] _).congr fun trail v => ?_
        simp [Reports, exceeds_field stands, hidden, ignored, leaf, last, eq_comm]
      · have fewer : limits.maxDepth - level = limits.maxDepth - (level + 1) + 1 := by omega
        simp only [deep, Bool.false_eq_true, if_false]
        refine (inside (level + 1) (by omega)).congr fun trail v => ?_
        simp [Reports, exceeds_field stands, hidden, ignored, fewer]

/-- A walk makes its hits one for each trail, in depth-first order. -/
theorem hits_depthFirst {ahead : List Selection}
    (uncrossed : Uncrossed fragments s.crossed enterable) (within : level ≤ limits.maxDepth)
    (split : s.body.drop position = ahead) :
    DepthFirst
      (DepthFirst.Behind position (Reports limits rootName fragments s (limits.maxDepth - level)))
      (hits limits rootName enterable s.place level position ahead) := by
  induction enterable, ahead using walk_induction generalizing s level position with
  | nil enterable =>
    rw [hits]
    refine .nothing ?_
    rintro _ v ⟨⟨i, rest, rfl, behind⟩, n, exceeds, _⟩
    refine not_exceeds_beyond ?_ exceeds
    exact List.getElem?_eq_none (Nat.le_trans (List.drop_eq_nil_iff.mp split) behind)
  | field enterable head body rest inside after =>
    obtain ⟨stands, split⟩ := drop_eq_cons split
    rw [hits_cons]
    refine .siblings (hits_field_depthFirst stands within fun deeper allowed => ?_)
      (after uncrossed within split)
    let inner : Scope := ⟨s.crossed, s.place.child position, body⟩
    exact (inside (s := inner) uncrossed allowed rfl).of_behind_zero fun _ => not_reports_nil
  | inline enterable head body rest inside after =>
    obtain ⟨stands, split⟩ := drop_eq_cons split
    rw [hits]
    refine .siblings ?_ (after uncrossed within split)
    let inner : Scope := ⟨s.crossed, s.place.child position, body⟩
    have below := (inside (s := inner) uncrossed within rfl).of_behind_zero
      fun _ => not_reports_nil
    refine below.congr fun trail v => ?_
    simp only [Reports, exceeds_inline stands, inner]
  | spread enterable head rest inside after =>
    obtain ⟨stands, split⟩ := drop_eq_cons split
    rw [hits_spread]
    refine .siblings ?_ (after uncrossed within split)
    simp only [Reports, exceeds_spread stands]
    cases found : lastNamed head.name.text enterable with
    | none =>
      refine .nothing ?_
      rintro trail v ⟨n, ⟨fresh, f, known, _⟩, _⟩
      simp [(uncrossed ..).mpr ⟨fresh, known⟩] at found
    | some f =>
      -- The walk leaves out the fragment that it enters, the chain counts its name as crossed.
      obtain ⟨fresh, known⟩ := (uncrossed ..).mp found
      let inner : Scope := ⟨head.name.text :: s.crossed, .ofFragment f, f.node.body⟩
      have below := (inside f found (s := inner) (uncrossed.leaving _) within rfl).of_behind_zero
        fun _ => not_reports_nil
      refine below.congr fun trail v => ?_
      simp [Reports, fresh, known, inner]

end Depth

end QueryAudit
