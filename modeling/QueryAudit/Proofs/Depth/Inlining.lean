import QueryAudit.Proofs.Corpus.Sketch
import QueryAudit.Proofs.Depth.Account
import QueryAudit.Proofs.Rule.SelectionDepth

/-! Depth and inlining. In a corpus without cycles every spread can be replaced by an inline
fragment with the body of the fragment that it names, and those that name nothing can be left out.
The walk through what comes of it, which meets no spread any more, hits the copies of the fields
that the walk through the root and its fragments hits, in the same order. -/
namespace QueryAudit

/-- An inline fragment with nothing in it. -/
def Selection.blank : Selection := .inline ⟨default, none, [], default⟩ []

/-- What takes the place of a sub-selection. If nothing is left of it, it is still there: an empty
list would say that the field never had one. -/
def Selection.refill (before after : List Selection) : List Selection :=
  if after.isEmpty && !before.isEmpty then [.blank] else after

/-- The inline fragment that takes the place of a spread. -/
def Fragment.inlineHead (f : Fragment) (spread : SpreadHead) : InlineHead :=
  ⟨spread.position, some f.typeCondition, spread.directives, f.bodyPosition⟩

/-- The second body is the first with every spread replaced by what it stands for, down through the
fragments, and without the spreads that stand for nothing. A cycle of spreads comes to no end, so
nothing is related to a body that leads into one. -/
inductive Inlines (index : CorpusIndex) : List Selection → List Selection → Prop where
  | nil : Inlines index [] []
  | field {head body body' rest rest'} : Inlines index body body' → Inlines index rest rest' →
      Inlines index (.field head body :: rest) (.field head (Selection.refill body body') :: rest')
  | inline {head body body' rest rest'} : Inlines index body body' → Inlines index rest rest' →
      Inlines index (.inline head body :: rest) (.inline head body' :: rest')
  | spread {head f body' rest rest'} : index.fragment? head.name.text = some f →
      Inlines index f.node.body body' → Inlines index rest rest' →
      Inlines index (.spread head :: rest) (.inline (f.node.inlineHead head) body' :: rest')
  | dangling {head rest rest'} : index.fragment? head.name.text = none →
      Inlines index rest rest' →
      Inlines index (.spread head :: rest) rest'

def Executable.withBody : Executable → List Selection → Executable
  | operation o, body => .operation { o with body }
  | fragment f, body => .fragment { f with body }

def CorpusDocument.withBody (d : CorpusDocument) (body : List Selection) : CorpusDocument :=
  d.map (Executable.withBody · body)

@[simp] theorem CorpusDocument.body_withBody (d : CorpusDocument) (body : List Selection) :
    (d.withBody body).node.body = body := by
  rcases d with ⟨_ | _, _, _⟩ <;> rfl

namespace Inlines

variable {index : CorpusIndex} {body body' other : List Selection}

theorem unique (inlines : Inlines index body body') (again : Inlines index body other) :
    other = body' := by
  induction inlines generalizing other with
  | nil =>
    cases again
    rfl
  | field _ _ inside after =>
    cases again with
    | field within behind => rw [inside within, after behind]
  | inline _ _ inside after =>
    cases again with
    | inline within behind => rw [inside within, after behind]
  | spread found _ _ inside after =>
    cases again with
    | spread same within behind =>
      cases found.symm.trans same
      rw [inside within, after behind]
    | dangling unknown => simp [found] at unknown
  | dangling unknown _ after =>
    cases again with
    | spread found => simp [unknown] at found
    | dangling _ behind => exact after behind

theorem refill_isEmpty (inlines : Inlines index body body') :
    (Selection.refill body body').isEmpty = body.isEmpty := by
  cases inlines with
  | nil => rfl
  | field | inline | spread | dangling =>
    rw [Selection.refill]
    split <;> simp_all

end Inlines

namespace CorpusIndex

variable {index : CorpusIndex} {start : String → Prop} {name other : String} {f : Sourced Fragment}

theorem Reaches.onward (reached : index.Reaches [] start name) (leads : index.Leads name other) :
    index.Reaches [] start other := by
  induction leads with
  | single edge => exact .step reached edge List.not_mem_nil
  | tail _ edge ih => exact .step ih edge List.not_mem_nil

/-- What the body of a fragment comes by is what its name leads to. -/
theorem reaches_body_iff (found : index.fragment? name = some f) :
    index.Reaches [] (SpreadIn · f.node.body) other ↔ index.Leads name other := by
  constructor
  · intro reached
    induction reached with
    | start spread => exact .single ⟨f, found, spread⟩
    | step _ edge _ ih => exact ih.tail edge
  · intro leads
    induction leads with
    | single edge => exact .start ((spreadsTo_iff found).mp edge) List.not_mem_nil
    | tail _ edge ih => exact .step ih edge List.not_mem_nil

end CorpusIndex

namespace Depth

variable {index : CorpusIndex} {enterable : List (Sourced Fragment)} {body rest : List Selection}
  {f : Sourced Fragment}

/-- A walk that goes through a body is free to enter whatever it comes by there. -/
def Free (index : CorpusIndex) (enterable : List (Sourced Fragment)) (body : List Selection) :
    Prop :=
  ∀ name, index.Reaches [] (SpreadIn · body) name →
    lastNamed name enterable = index.fragment? name

namespace Free

theorem mono {part : List Selection} (free : Free index enterable body)
    (inside : ∀ name, SpreadIn name part → SpreadIn name body) : Free index enterable part :=
  fun name reached => free name (reached.mono inside)

theorem field_body (free : Free index enterable (.field head body :: rest)) :
    Free index enterable body :=
  free.mono fun _ spread => (spreadIn_field ..).mpr (.inl spread)

theorem inline_body (free : Free index enterable (.inline head body :: rest)) :
    Free index enterable body :=
  free.mono fun _ spread => (spreadIn_inline ..).mpr (.inl spread)

theorem tail (free : Free index enterable (selection :: rest)) : Free index enterable rest :=
  free.mono fun _ ⟨head, occurs, named⟩ => ⟨head, by simp [occurs], named⟩

theorem spread_eq (free : Free index enterable (.spread head :: rest)) :
    lastNamed head.name.text enterable = index.fragment? head.name.text :=
  free _ (.start ((spreadIn_spread ..).mpr (.inl rfl)) List.not_mem_nil)

/-- Nothing that a fragment leads to is the fragment itself, so the walk is free without it. -/
theorem spread_body (acyclic : index.Acyclic) (free : Free index enterable (.spread head :: rest))
    (found : index.fragment? head.name.text = some f) :
    Free index (leaving head.name.text enterable) f.node.body := by
  intro name reached
  have leads := (CorpusIndex.reaches_body_iff found).mp reached
  have apart : name ≠ head.name.text := by
    rintro rfl
    exact acyclic _ leads
  rw [lastNamed_leaving apart]
  have begun : index.Reaches [] (SpreadIn · (.spread head :: rest)) head.name.text :=
    .start ((spreadIn_spread ..).mpr (.inl rfl)) List.not_mem_nil
  exact free name (begun.onward leads)

end Free

/-- What a walk is free to go through can be inlined. -/
theorem Free.exists_inlines (acyclic : index.Acyclic) (free : Free index enterable body) :
    ∃ body', Inlines index body body' := by
  induction enterable, body using walk_induction with
  | nil => exact ⟨[], .nil⟩
  | field enterable head body rest inside after =>
    obtain ⟨body', inlines⟩ := inside free.field_body
    obtain ⟨rest', behind⟩ := after free.tail
    exact ⟨_, .field inlines behind⟩
  | inline enterable head body rest inside after =>
    obtain ⟨body', inlines⟩ := inside free.inline_body
    obtain ⟨rest', behind⟩ := after free.tail
    exact ⟨_, .inline inlines behind⟩
  | spread enterable head rest inside after =>
    obtain ⟨rest', behind⟩ := after free.tail
    cases found : index.fragment? head.name.text with
    | none => exact ⟨rest', .dangling found behind⟩
    | some f =>
      obtain ⟨body', inlines⟩ :=
        inside f (free.spread_eq.trans found) (free.spread_body acyclic found)
      exact ⟨_, .spread found inlines behind⟩

/-- A check of a document is free to enter all that it comes by: no way leads back to where the
check began. -/
theorem free_enterableFrom {root : CorpusDocument} (distinct : index.DistinctNames)
    (acyclic : index.Acyclic) (member : root ∈ index.documents) :
    Free index (enterableFrom root (Closure.resolve index root).fragments) root.node.body := by
  intro name reached
  have reachable : Closure.Reachable index root name := by
    rcases List.mem_append.mp member with operation | fragment
    · obtain ⟨o, _, rfl⟩ := List.mem_map.mp operation
      exact reached
    · obtain ⟨f, listed, rfl⟩ := List.mem_map.mp fragment
      have indexed := distinct.indexed listed
      have leads := (CorpusIndex.reaches_body_iff indexed).mp reached
      refine (Closure.reachable_fragment indexed name).mpr ⟨leads, ?_⟩
      rintro rfl
      exact acyclic _ leads
  ext f
  rw [lastNamed_enterableFrom_iff, and_iff_right reachable]

/-- Inlining leaves out the spreads that stand for nothing. -/
def keeps (index : CorpusIndex) : Selection → Bool
  | .spread head => (index.fragment? head.name.text).isSome
  | _ => true

/-- The selections that are kept, from a position on, and where they stood. -/
def kept (index : CorpusIndex) (position : Nat) (body : List Selection) : List (Selection × Nat) :=
  (body.zipIdx position).filter fun x => keeps index x.1

/-- Where a copy comes from: the address, in the root or in a fragment, of what a path leads to
after inlining. What is inside the copy of a spread comes from the fragment that it names. -/
def original (index : CorpusIndex) (place : Place) (body : List Selection) :
    List Nat → Option Address
  | [] => some place.node
  | k :: path =>
    match (kept index 0 body)[k]? with
    | none => none
    | some (.field _ inner, position) => original index (place.child position) inner path
    | some (.inline _ inner, position) => original index (place.child position) inner path
    | some (.spread head, _) =>
      (index.fragment? head.name.text).bind fun f =>
        original index (.ofFragment f) f.node.body path

variable {limits : DepthLimits} {rootName rootName' : String} {others : List (Sourced Fragment)}
  {place place' : Place} {level position position' : Nat} {whole body' rest' : List Selection}
  {copies : List Nat → Option Address}

theorem kept_cons (stays : keeps index selection = true) :
    kept index position (selection :: rest) =
      (selection, position) :: kept index (position + 1) rest := by
  simp [kept, stays]

theorem hits_refill (before after : List Selection) :
    hits limits rootName others place level 0 (Selection.refill before after) =
      hits limits rootName others place level 0 after := by
  rw [Selection.refill]
  split
  · simp_all [Selection.blank, hits]
  · rfl

/-- Below a place stand the copies of what is in a body. -/
def CopiesOf (copies : List Nat → Option Address) (index : CorpusIndex) (place' place : Place)
    (whole : List Selection) : Prop :=
  ∀ k path, copies (place'.node.path ++ k :: path) = original index place whole (k :: path)

theorem CopiesOf.child {next : Place} {inner : List Selection}
    (comes : CopiesOf copies index place' place whole)
    (step : ∀ path,
      original index place whole (position' :: path) = original index next inner path) :
    CopiesOf copies index (place'.child position') next inner := by
  intro k path
  rw [← step, ← comes]
  simp [Place.child, Sourced.map]

theorem CopiesOf.here (comes : CopiesOf copies index place' place whole) :
    copies (place'.child position').node.path = original index place whole [position'] :=
  comes position' []

/-- The walk through an inlined body hits the copies of what the walk through the body hits. -/
theorem Inlines.hits_eq (acyclic : index.Acyclic) (inlines : Inlines index rest rest')
    (free : Free index enterable rest)
    (ahead : (kept index 0 whole).drop position' = kept index position rest)
    (comes : CopiesOf copies index place' place whole) :
    (hits limits rootName enterable place level position rest).map
        (fun v => (some v.address, v.fieldName, v.depth)) =
      (hits limits rootName' others place' level position' rest').map
        (fun v => (copies v.address.path, v.fieldName, v.depth)) := by
  -- Positions drift apart behind a spread that is left out: `position'` counts what is kept.
  induction inlines generalizing enterable place place' level position position' whole with
  | nil => rw [hits, hits, List.map_nil, List.map_nil]
  | @field head body body' rest rest' inlines _ inside after =>
    obtain ⟨found, ahead⟩ := drop_eq_cons (ahead.trans (kept_cons rfl))
    have step (path : List Nat) : original index place whole (position' :: path) =
        original index (place.child position) body path := by rw [original, found]
    have within := comes.child step
    have copied : copies (place'.child position').node.path = some (place.child position).node := by
      rw [comes.here, step, original]
    rw [hits, hits, List.map_append, List.map_append, after free.tail ahead comes]
    congr 1
    simp only [inlines.refill_isEmpty, hits_refill]
    split
    · rfl
    split
    · exact inside free.field_body List.drop_zero within
    split
    · simp [copied]
    · exact inside free.field_body List.drop_zero within
  | @inline head body body' rest rest' inlines _ inside after =>
    obtain ⟨found, ahead⟩ := drop_eq_cons (ahead.trans (kept_cons rfl))
    have step (path : List Nat) : original index place whole (position' :: path) =
        original index (place.child position) body path := by rw [original, found]
    rw [hits, hits, List.map_append, List.map_append, after free.tail ahead comes,
      inside free.inline_body List.drop_zero (comes.child step)]
  | @spread head f body' rest rest' known inlines _ inside after =>
    obtain ⟨found, ahead⟩ := drop_eq_cons (ahead.trans (kept_cons (by simp [keeps, known])))
    have step (path : List Nat) : original index place whole (position' :: path) =
        original index (.ofFragment f) f.node.body path := by
      rw [original, found]
      simp [known]
    rw [hits_spread, hits, List.map_append, List.map_append, after free.tail ahead comes,
      free.spread_eq, known, Option.elim_some,
      inside (free.spread_body acyclic known) List.drop_zero (comes.child step)]
  | @dangling head rest rest' unknown _ after =>
    have skipped : kept index position (.spread head :: rest) = kept index (position + 1) rest := by
      simp [kept, keeps, unknown]
    rw [hits_spread, free.spread_eq, unknown, Option.elim_none, List.nil_append]
    exact after free.tail (ahead.trans skipped) comes

theorem Enters.path_eq {s t : Scope} {link : Link} (enters : Enters [] s link t) :
    t.place.node = ⟨s.place.node.fragment, s.place.node.path ++ [link.position]⟩ := by
  cases enters with
  | field | inline => rfl
  | spread _ _ known => simp [lastNamed] at known

/-- Without fragments to enter, the trail to a field is its path. -/
theorem Chain.path_eq {s t : Scope} {chain : List Link} (steps : Chain [] s chain t) :
    t.place.node = ⟨s.place.node.fragment, s.place.node.path ++ chain.map (·.position)⟩ := by
  induction steps with
  | nil => simp
  | cons enters _ ih => simp [ih, enters.path_eq]

/-- Without fragments, nothing is hit twice. -/
theorem check_nil (limits : DepthLimits) (root : CorpusDocument) :
    check limits root [] = rootHits limits root [] := by
  obtain ⟨trailed, listed, members, ordered⟩ := rootHits_depthFirst limits root []
  -- Addresses differ since they are trails, and no trail is met twice.
  have addressed : ∀ x ∈ trailed, x.2.address = ⟨none, x.1⟩ := by
    rintro ⟨trail, v⟩ member
    obtain ⟨n, ⟨chain, position, ⟨t, steps, _, placed⟩, _, rfl⟩, rfl⟩ := (members trail v).mp member
    have path := Chain.path_eq steps
    simp [FieldNode.violation, placed, Place.child, Sourced.map, path, Scope.ofRoot, Place.ofRoot]
  rw [check_eq]
  refine firstsBy_eq_self ?_
  rw [← listed, List.map_map]
  refine List.pairwise_map.mpr (ordered.imp_of_mem ?_)
  intro x y first second earlier same
  have paths := congrArg (fun key : Address × Nat => key.1.path) same
  simp only [Function.comp_apply, addressed x first, addressed y second] at paths
  exact Earlier.irrefl _ (paths ▸ earlier)

theorem rootHits_inlined (limits : DepthLimits) {root : CorpusDocument}
    {fragments : List (Sourced Fragment)} (acyclic : index.Acyclic)
    (free : Free index (enterableFrom root fragments) root.node.body)
    (inlines : Inlines index root.node.body body) :
    (rootHits limits root fragments).map (fun v => (some v.address, v.fieldName, v.depth)) =
      (rootHits limits (root.withBody body) []).map fun v =>
        (original index (.ofRoot root) root.node.body v.address.path, v.fieldName, v.depth) := by
  rw [rootHits, rootHits, CorpusDocument.body_withBody]
  exact Inlines.hits_eq acyclic inlines free List.drop_zero fun _ _ => rfl

/-- A check of a document tells of the same fields as a check of the document with everything
inlined: of each field of which some copy is reported there, with its name and depth, in the order
of the first copies. -/
theorem check_inlined {index : CorpusIndex} {root : CorpusDocument} (distinct : index.DistinctNames)
    (acyclic : index.Acyclic) (member : root ∈ index.documents) :
    ∃ body, Inlines index root.node.body body ∧
      (∀ other, Inlines index root.node.body other → other = body) ∧
      ∀ limits, (check limits root (Closure.resolve index root).fragments).map
          (fun v => (some v.address, v.fieldName, v.depth)) =
        ((check limits (root.withBody body) []).map fun v =>
          (original index (.ofRoot root) root.node.body v.address.path, v.fieldName,
            v.depth)).eraseDups := by
  have free := free_enterableFrom distinct acyclic member
  obtain ⟨body, inlines⟩ := free.exists_inlines acyclic
  refine ⟨body, inlines, fun other => inlines.unique, fun limits => ?_⟩
  have apart (v w : Violation) (same : (some v.address, v.fieldName, v.depth) =
      (some w.address, w.fieldName, w.depth)) : v.address = w.address :=
    Option.some.inj (congrArg Prod.fst same)
  rw [map_check apart, rootHits_inlined limits acyclic free inlines, check_nil]

open Sketch in
/-- A query that comes by one fragment in two ways, with a field that spreads nothing but a name
that stands for nothing. -/
def twoWaysQuery : Sourced Operation :=
  query [field "a" [spread "B", spread "gone"], field "c" [spread "gone"]]

open Sketch in
def twoWays : CorpusIndex where
  operations := [twoWaysQuery]
  fragments := [fragment "B" [field "x" [spread "C"], spread "C"],
    fragment "C" [field "y" [field "z" []]]]

theorem twoWays_acyclic : twoWays.Acyclic := by
  refine CorpusIndex.acyclic_of_rank
    (fun name => if name = "B" then 2 else if name = "C" then 1 else 0) ?_
  simp [twoWays, Sketch.fragment, Sketch.field, Sketch.spread, Sketch.name, or_imp, forall_and]

theorem twoWays_check_inlined :
    twoWays.DistinctNames ∧ twoWays.Acyclic ∧ twoWaysQuery.map .operation ∈ twoWays.documents ∧
      ∃ body, Inlines twoWays twoWaysQuery.node.body body ∧
        (∀ other, Inlines twoWays twoWaysQuery.node.body other → other = body) ∧
        ∀ limits, (check limits (twoWaysQuery.map .operation)
              (Closure.resolve twoWays (twoWaysQuery.map .operation)).fragments).map
            (fun v => (some v.address, v.fieldName, v.depth)) =
          ((check limits (CorpusDocument.withBody (twoWaysQuery.map .operation) body) []).map
            fun v => (original twoWays (.ofRoot (twoWaysQuery.map .operation))
              twoWaysQuery.node.body v.address.path, v.fieldName, v.depth)).eraseDups := by
  have member : twoWaysQuery.map .operation ∈ twoWays.documents := List.mem_cons_self
  exact ⟨by decide, twoWays_acyclic, member,
    check_inlined (by decide) twoWays_acyclic member⟩

end Depth

end QueryAudit
