import Mathlib.Order.Bounds.Basic
import QueryAudit.Proofs.Depth.Account

/-! How deep a root nests, whatever the limit. The number of levels that a root opens at most is the
limit from which on a check reports nothing. Checks with different limits stop at different fields,
so their reports cannot be compared one by one; but every chain to a field that is reported passes
through one that is reported with any lower limit. -/
namespace QueryAudit.Depth

variable {ignore : List IgnoreRule} {fragments enterable : List (Sourced Fragment)}
  {s t : Scope} {chain : List Link} {link : Link} {levels i : Nat} {body rest : List Selection}

/-- A field on a chain that opens a level: it has a sub-selection and is not ignored. -/
def Link.opens (ignore : List IgnoreRule) (link : Link) : Bool :=
  match link.selection with
  | .field head body => !body.isEmpty && !ignore.any (·.covers head.name.text)
  | _ => false

@[simp] theorem opens_field (head : FieldHead) (body : List Selection) :
    Link.opens ignore ⟨i, .field head body⟩ =
      (!body.isEmpty && !ignore.any (·.covers head.name.text)) := rfl

@[simp] theorem opens_inline (head : InlineHead) (body : List Selection) :
    Link.opens ignore ⟨i, .inline head body⟩ = false := rfl

@[simp] theorem opens_spread (head : SpreadHead) :
    Link.opens ignore ⟨i, .spread head⟩ = false := rfl

/-- Some chain opens so many levels, and no field on it is one that walks pass over. -/
def Nests (ignore : List IgnoreRule) (fragments : List (Sourced Fragment)) (s : Scope)
    (levels : Nat) : Prop :=
  ∃ chain t, Chain fragments s chain t ∧
    (∀ name ∈ fieldNames chain, name.startsWith "__" = false) ∧
    chain.countP (·.opens ignore) = levels

/-- The most levels that are opened in a body, with the fragments that may be entered from it. -/
def nesting (ignore : List IgnoreRule) (enterable : List (Sourced Fragment)) :
    List Selection → Nat
  | [] => 0
  | .field head body :: rest =>
    let here :=
      if body.isEmpty || head.name.text.startsWith "__" then 0
      else if ignore.any (·.covers head.name.text) then nesting ignore enterable body
      else nesting ignore enterable body + 1
    max here (nesting ignore enterable rest)
  | .inline _ body :: rest => max (nesting ignore enterable body) (nesting ignore enterable rest)
  | .spread head :: rest =>
    let here :=
      match _found : lastNamed head.name.text enterable with
      | none => 0
      | some f => nesting ignore (leaving head.name.text enterable) f.node.body
    max here (nesting ignore enterable rest)
termination_by selections => total (fun f => sizeOf f.node.body) enterable + sizeOf selections
decreasing_by
  all_goals first
    | exact Nat.lt_of_le_of_lt (total_leaving_add_le (fun f => sizeOf f.node.body) _found)
        (Nat.lt_add_of_pos_right (by rw [List.cons.sizeOf_spec]; omega))
    | simp only [List.cons.sizeOf_spec, Selection.field.sizeOf_spec, Selection.inline.sizeOf_spec]
      omega

theorem nesting_spread (head : SpreadHead) (rest : List Selection) :
    nesting ignore enterable (.spread head :: rest) =
      max ((lastNamed head.name.text enterable).elim 0 fun f =>
          nesting ignore (leaving head.name.text enterable) f.node.body)
        (nesting ignore enterable rest) := by
  rw [nesting]
  congr 1
  split
  · next unknown => rw [unknown, Option.elim_none]
  · next f found => rw [found, Option.elim_some]

/-- A walk is clear exactly if the levels that it would still open are allowed. -/
theorem hits_eq_nil_iff_nesting {limits : DepthLimits} {rootName : String} {place : Place}
    {level position : Nat} (within : level ≤ limits.maxDepth) :
    hits limits rootName enterable place level position body = [] ↔
      level + nesting limits.ignore enterable body ≤ limits.maxDepth := by
  induction enterable, body using walk_induction generalizing place level position with
  | nil => simp [hits, nesting, within]
  | field enterable head body rest inside after =>
    have same : limits.isIgnored head.name.text =
        limits.ignore.any (·.covers head.name.text) := rfl
    rw [hits_field_eq_nil, nesting, after within, same]
    by_cases leaf : body = []
    · simp [leaf]
    cases head.name.text.startsWith "__" with
    | true => simp
    | false =>
      cases limits.ignore.any (·.covers head.name.text) with
      | true =>
        simp [leaf, inside within]
        omega
      | false =>
        by_cases room : level < limits.maxDepth
        · simp [leaf, room, inside (Nat.succ_le_of_lt room)]
          omega
        · simp [leaf, room]
          omega
  | inline enterable head body rest inside after =>
    rw [hits_inline_eq_nil, nesting, inside within, after within]
    omega
  | spread enterable head rest inside after =>
    rw [hits_spread_eq_nil, nesting_spread, after within]
    cases found : lastNamed head.name.text enterable with
    | none => simp
    | some f =>
      simp only [Option.some.injEq, forall_eq', Option.elim_some, inside f found within]
      omega

section Chains

theorem fieldNames_cons (link : Link) (chain : List Link) :
    fieldNames (link :: chain) = link.selection.fieldName?.toList ++ fieldNames chain := by
  rw [fieldNames, List.filterMap_cons]
  cases link.selection.fieldName? <;> rfl

theorem nests_zero : Nests ignore fragments s 0 := ⟨[], s, .nil, by simp [fieldNames], rfl⟩

/-- One link more at the front of a chain opens one level more or none. -/
theorem Nests.cons (nests : Nests ignore fragments t levels) (enters : Enters fragments s link t)
    (limited : ∀ name ∈ link.selection.fieldName?, name.startsWith "__" = false) :
    Nests ignore fragments s (levels + if link.opens ignore then 1 else 0) := by
  obtain ⟨chain, u, steps, others, rfl⟩ := nests
  refine ⟨link :: chain, u, .cons enters steps, ?_, List.countP_cons⟩
  rw [fieldNames_cons, List.forall_mem_append]
  exact ⟨by simpa using limited, others⟩

theorem Nests.larger {other : Nat} (first : Nests ignore fragments s levels)
    (second : Nests ignore fragments s other) : Nests ignore fragments s (max levels other) := by
  rcases Nat.le_total levels other with less | more
  · rwa [Nat.max_eq_right less]
  · rwa [Nat.max_eq_left more]

theorem Nests.field {head : FieldHead} (stands : s.body[i]? = some (.field head body))
    (inside : Nests ignore fragments ⟨s.crossed, s.place.child i, body⟩ levels) :
    Nests ignore fragments s
      (if body.isEmpty || head.name.text.startsWith "__" then 0
        else if ignore.any (·.covers head.name.text) then levels else levels + 1) := by
  split
  · exact nests_zero
  · next entered =>
    obtain ⟨inhabited, limited⟩ :
        body.isEmpty = false ∧ head.name.text.startsWith "__" = false := by simpa using entered
    have nests := inside.cons (.field stands) (by simpa [Selection.fieldName?] using limited)
    cases ignored : ignore.any (·.covers head.name.text) with
    | true => simpa [inhabited, ignored] using nests
    | false => simpa [inhabited, ignored] using nests

/-- A chain that opens the most levels can be found along the walk. -/
theorem nests_nesting {position : Nat} {ahead : List Selection}
    (uncrossed : Uncrossed fragments s.crossed enterable) (split : s.body.drop position = ahead) :
    Nests ignore fragments s (nesting ignore enterable ahead) := by
  induction enterable, ahead using walk_induction generalizing s position with
  | nil enterable =>
    rw [nesting]
    exact nests_zero
  | field enterable head body rest inside after =>
    obtain ⟨stands, split⟩ := drop_eq_cons split
    let inner : Scope := ⟨s.crossed, s.place.child position, body⟩
    rw [nesting]
    exact (Nests.field stands (inside (s := inner) uncrossed List.drop_zero)).larger
      (after uncrossed split)
  | inline enterable head body rest inside after =>
    obtain ⟨stands, split⟩ := drop_eq_cons split
    let inner : Scope := ⟨s.crossed, s.place.child position, body⟩
    rw [nesting]
    refine Nests.larger ?_ (after uncrossed split)
    exact (inside (s := inner) uncrossed List.drop_zero).cons (.inline stands)
      (by simp [Selection.fieldName?])
  | spread enterable head rest inside after =>
    obtain ⟨stands, split⟩ := drop_eq_cons split
    rw [nesting_spread]
    refine Nests.larger ?_ (after uncrossed split)
    cases found : lastNamed head.name.text enterable with
    | none => exact nests_zero
    | some f =>
      obtain ⟨fresh, known⟩ := (uncrossed ..).mp found
      let inner : Scope := ⟨head.name.text :: s.crossed, .ofFragment f, f.node.body⟩
      exact (inside f found (s := inner) (uncrossed.leaving _) List.drop_zero).cons
        (.spread stands fresh known) (by simp [Selection.fieldName?])

theorem nesting_cons (selection : Selection) (rest : List Selection) :
    nesting ignore enterable (selection :: rest) =
      max (nesting ignore enterable [selection]) (nesting ignore enterable rest) := by
  cases selection <;> simp [nesting]

theorem nesting_le_of_getElem? {selection : Selection} (found : body[i]? = some selection) :
    nesting ignore enterable [selection] ≤ nesting ignore enterable body := by
  induction body generalizing i with
  | nil => simp at found
  | cons first rest ih =>
    rw [nesting_cons first rest]
    cases i with
    | zero =>
      obtain rfl : first = selection := by simpa using found
      exact Nat.le_max_left ..
    | succ i => exact Nat.le_trans (ih (by simpa using found)) (Nat.le_max_right ..)

/-- No chain opens more levels than were computed. -/
theorem Chain.opened_le_nesting (uncrossed : Uncrossed fragments s.crossed enterable)
    (steps : Chain fragments s chain t)
    (limited : ∀ name ∈ fieldNames chain, name.startsWith "__" = false) :
    chain.countP (·.opens ignore) ≤ nesting ignore enterable s.body := by
  induction steps generalizing enterable with
  | nil => simp
  | @cons s link u labels t enters _ ih =>
    rw [fieldNames_cons, List.forall_mem_append] at limited
    rw [List.countP_cons]
    cases enters with
    | @field i head body found =>
      have behind : labels.countP (·.opens ignore) ≤ nesting ignore enterable body :=
        ih uncrossed limited.2
      have first : head.name.text.startsWith "__" = false := by
        simpa [Selection.fieldName?] using limited.1
      refine Nat.le_trans ?_ (nesting_le_of_getElem? found)
      by_cases leaf : body = []
      · simpa [leaf, nesting] using behind
      · cases ignored : ignore.any (·.covers head.name.text) with
        | true => simpa [nesting, leaf, first, ignored] using behind
        | false => simpa [nesting, leaf, first, ignored] using behind
    | @inline i head body found =>
      have behind : labels.countP (·.opens ignore) ≤ nesting ignore enterable body :=
        ih uncrossed limited.2
      refine Nat.le_trans ?_ (nesting_le_of_getElem? found)
      simpa [nesting] using behind
    | @spread i head f found fresh known =>
      have behind : labels.countP (·.opens ignore) ≤
          nesting ignore (leaving head.name.text enterable) f.node.body :=
        ih (uncrossed.leaving _) limited.2
      have entered := (uncrossed ..).mpr ⟨fresh, known⟩
      refine Nat.le_trans ?_ (nesting_le_of_getElem? found)
      simpa [nesting_spread, entered, nesting] using behind

theorem nesting_isGreatest (uncrossed : Uncrossed fragments s.crossed enterable) :
    IsGreatest {levels | Nests ignore fragments s levels} (nesting ignore enterable s.body) := by
  refine ⟨nests_nesting uncrossed List.drop_zero, ?_⟩
  rintro _ ⟨chain, t, steps, limited, rfl⟩
  exact Chain.opened_le_nesting uncrossed steps limited

end Chains

section Passing

variable {limits : DepthLimits} {root : CorpusDocument} {n : FieldNode} {v : Violation}
  {position fewer m m' : Nat}

/-- A field as the last link of a chain that ends there. -/
def FieldNode.asLink (n : FieldNode) (position : Nat) : Link := ⟨position, .field n.head n.body⟩

theorem endsAt_cons : EndsAt fragments s (link :: chain) position n ↔
    ∃ t, Enters fragments s link t ∧ EndsAt fragments t chain position n := by
  constructor
  · rintro ⟨u, steps, stands, placed⟩
    cases steps with
    | cons enters steps => exact ⟨_, enters, u, steps, stands, placed⟩
  · rintro ⟨t, enters, u, steps, stands, placed⟩
    exact ⟨u, .cons enters steps, stands, placed⟩

theorem EndsAt.inhabited (ends : EndsAt fragments s chain position n) : s.body ≠ [] := by
  intro empty
  obtain ⟨u, steps, stands, _⟩ := ends
  cases steps with
  | nil => simp [empty] at stands
  | cons enters _ => cases enters <;> simp_all

/-- A chain to a field beneath so many others passes through a field beneath fewer. -/
theorem EndsAt.passes (ends : EndsAt fragments s chain position n)
    (opens : Opens limits levels chain n) (less : fewer ≤ levels) :
    ∃ front i n', front ++ [n'.asLink i] <+: chain ++ [n.asLink position] ∧
      EndsAt fragments s front i n' ∧ Opens limits fewer front n' := by
  -- Along the chain, `fewer` counts the levels that are still to be opened above the field sought.
  induction chain generalizing s levels fewer with
  | nil =>
    obtain ⟨_, rfl, _⟩ := opens_nil.mp opens
    obtain rfl := Nat.le_zero.mp less
    exact ⟨[], position, n, List.prefix_rfl, ends, opens⟩
  | cons link more ih =>
    obtain ⟨t, enters, ends⟩ := endsAt_cons.mp ends
    have onward {left right : Nat} (opens : Opens limits left more n) (less : right ≤ left)
        (lift : ∀ front n', Opens limits right front n' → Opens limits fewer (link :: front) n') :
        ∃ front i n', front ++ [n'.asLink i] <+: link :: more ++ [n.asLink position] ∧
          EndsAt fragments s front i n' ∧ Opens limits fewer front n' := by
      obtain ⟨front, i, n', before, reached, opened⟩ := ih ends opens less
      exact ⟨link :: front, i, n', List.cons_prefix_cons.mpr ⟨rfl, before⟩,
        endsAt_cons.mpr ⟨t, enters, reached⟩, lift front n' opened⟩
    cases enters with
    | inline =>
      exact onward ((opens_cons_other rfl).mp opens) less fun _ _ => (opens_cons_other rfl).mpr
    | spread =>
      exact onward ((opens_cons_other rfl).mp opens) less fun _ _ => (opens_cons_other rfl).mpr
    | @field i head body found =>
      obtain ⟨limited, ⟨ignored, deeper⟩ | ⟨counted, left, rfl, deeper⟩⟩ :=
        (opens_cons_field ..).mp opens
      · exact onward deeper less fun _ _ opened =>
          (opens_cons_field ..).mpr ⟨limited, .inl ⟨ignored, opened⟩⟩
      · cases fewer with
        | zero =>
          -- No level is left to be opened above it, so this is the field.
          refine ⟨[], i, ⟨s.place.child i, head, body⟩, ?_, ⟨s, .nil, found, rfl⟩,
            opens_nil.mpr ⟨limited, rfl, counted, ends.inhabited⟩⟩
          simp [FieldNode.asLink]
        | succ fewer =>
          exact onward deeper (Nat.le_of_succ_le_succ less) fun _ _ opened =>
            (opens_cons_field ..).mpr ⟨limited, .inr ⟨counted, fewer, rfl, opened⟩⟩

/-- A chain for which a check reports what it reports of a field. -/
structure ChainTo (limits : DepthLimits) (root : CorpusDocument)
    (fragments : List (Sourced Fragment)) (v : Violation) (chain : List Link) (position : Nat)
    (n : FieldNode) : Prop where
  ends : EndsAt fragments (.ofRoot root) chain position n
  opens : Opens limits limits.maxDepth chain n
  tells : n.violation limits root.node.displayName = v

/-- What is reported is what some chain leads to. -/
theorem mem_check_iff_chainTo : v ∈ check limits root fragments ↔
    ∃ chain position n, ChainTo limits root fragments v chain position n := by
  rw [mem_check_iff, (rootHits_depthFirst ..).mem_iff]
  constructor
  · rintro ⟨trail, n, ⟨chain, position, ends, opens, _⟩, tells⟩
    exact ⟨chain, position, n, ends, opens, tells⟩
  · rintro ⟨chain, position, n, ends, opens, tells⟩
    exact ⟨_, n, ⟨chain, position, ends, opens, rfl⟩, tells⟩

/-- Opening a level beneath so many others has nothing to do with how many there may be. -/
theorem Opens.withLimit (opens : Opens ⟨m', ignore⟩ levels chain n) :
    Opens ⟨m, ignore⟩ levels chain n :=
  ⟨opens.limited, opens.limitedToo, opens.beneath, opens.counted, opens.inhabited⟩

theorem ChainTo.passes (leads : ChainTo ⟨m', ignore⟩ root fragments v chain position n)
    (lower : m ≤ m') :
    ∃ front i n', front ++ [n'.asLink i] <+: chain ++ [n.asLink position] ∧
      ∃ w ∈ check ⟨m, ignore⟩ root fragments, ChainTo ⟨m, ignore⟩ root fragments w front i n' := by
  obtain ⟨front, i, n', before, reached, opened⟩ := leads.ends.passes leads.opens lower
  have toIt : ChainTo ⟨m, ignore⟩ root fragments _ front i n' := ⟨reached, opened.withLimit, rfl⟩
  exact ⟨front, i, n', before, _, mem_check_iff_chainTo.mpr ⟨front, i, n', toIt⟩, toIt⟩

end Passing

variable {root : CorpusDocument}

/-- The most levels that a root opens. -/
def nestingOf (ignore : List IgnoreRule) (root : CorpusDocument)
    (fragments : List (Sourced Fragment)) : Nat :=
  nesting ignore (enterableFrom root fragments) root.node.body

theorem check_eq_nil_iff_nestingOf (m : Nat) :
    check ⟨m, ignore⟩ root fragments = [] ↔ nestingOf ignore root fragments ≤ m := by
  rw [check_eq_nil_iff, hits_eq_nil_iff_nesting (Nat.zero_le _), Nat.zero_add, nestingOf]

theorem nestingOf_isGreatest (ignore : List IgnoreRule) (root : CorpusDocument)
    (fragments : List (Sourced Fragment)) :
    IsGreatest {levels | Nests ignore fragments (.ofRoot root) levels}
      (nestingOf ignore root fragments) :=
  nesting_isGreatest (s := .ofRoot root) (uncrossed_enterableFrom root fragments)

theorem Link.opens_anti {more : List IgnoreRule} (added : ignore ⊆ more)
    (opens : link.opens more = true) : link.opens ignore = true := by
  obtain ⟨position, selection⟩ := link
  cases selection with
  | field head body =>
    simp only [opens_field, Bool.and_eq_true, Bool.not_eq_true', List.any_eq_false] at opens ⊢
    exact ⟨opens.1, fun rule member => opens.2 rule (added member)⟩
  | inline => simp at opens
  | spread => simp at opens

/-- The more is ignored, the fewer levels are opened on a chain. -/
theorem nestingOf_anti {more : List IgnoreRule} (added : ignore ⊆ more) :
    nestingOf more root fragments ≤ nestingOf ignore root fragments := by
  obtain ⟨⟨chain, t, steps, limited, opened⟩, _⟩ := nestingOf_isGreatest more root fragments
  calc nestingOf more root fragments
      = chain.countP (·.opens more) := opened.symm
    _ ≤ chain.countP (·.opens ignore) := List.countP_mono_left fun _ _ => Link.opens_anti added
    _ ≤ nestingOf ignore root fragments :=
      (nestingOf_isGreatest ..).2 ⟨chain, t, steps, limited, rfl⟩

/-- What a number has to do with the checks of a root: it is the most levels that a chain opens and
the first limit with which nothing is reported. So nothing is reported either with a higher limit or
when more is ignored. And with a lower limit, every chain to a reported field passes through a field
that is reported then. -/
structure Threshold (ignore : List IgnoreRule) (root : CorpusDocument)
    (fragments : List (Sourced Fragment)) (most : Nat) : Prop where
  greatest : IsGreatest {levels | Nests ignore fragments (.ofRoot root) levels} most
  silent : ∀ m, check ⟨m, ignore⟩ root fragments = [] ↔ most ≤ m
  higher : ∀ m m', m ≤ m' → check ⟨m, ignore⟩ root fragments = [] →
    check ⟨m', ignore⟩ root fragments = []
  laxer : ∀ m more, ignore ⊆ more → check ⟨m, ignore⟩ root fragments = [] →
    check ⟨m, more⟩ root fragments = []
  lower : ∀ m m', m ≤ m' → ∀ v ∈ check ⟨m', ignore⟩ root fragments, ∀ chain position n,
    ChainTo ⟨m', ignore⟩ root fragments v chain position n →
      ∃ front i n', front ++ [n'.asLink i] <+: chain ++ [n.asLink position] ∧
        ∃ w ∈ check ⟨m, ignore⟩ root fragments, ChainTo ⟨m, ignore⟩ root fragments w front i n'

/-- There is one threshold for the limits of a root, whatever cycles its fragments make. -/
theorem check_threshold (ignore : List IgnoreRule) (root : CorpusDocument)
    (fragments : List (Sourced Fragment)) :
    Threshold ignore root fragments (nestingOf ignore root fragments) where
  greatest := nestingOf_isGreatest ignore root fragments
  silent := check_eq_nil_iff_nestingOf
  higher m m' less silent := by
    rw [check_eq_nil_iff_nestingOf] at silent ⊢
    exact Nat.le_trans silent less
  laxer m more added silent := by
    rw [check_eq_nil_iff_nestingOf] at silent ⊢
    exact Nat.le_trans (nestingOf_anti added) silent
  lower _ _ less _ _ _ _ _ leads := leads.passes less

end QueryAudit.Depth
