import Mathlib.Data.Finset.Card
import QueryAudit.Proofs.Depth.Partial

/-! Walks of depth come to an end. A walk is made of calls, each of which goes through the
selections that stand together in one scope. At a selection it goes on, makes a hit, or calls for
what lies inside or across a spread. Not every call is at a deeper level or has fewer selections
than the one before: inline fragments and ignored fields open no level, and a spread may lead to a
larger fragment. But a call across a spread has one name less to cross, and any other call has as
many names to cross and fewer selections to go through. -/
namespace QueryAudit

mutual

/-- The number of selections that a selection is made of, itself among them. -/
def Selection.size : Selection → Nat
  | .field _ body => sizeIn body + 1
  | .spread _ => 1
  | .inline _ body => sizeIn body + 1

def sizeIn : List Selection → Nat
  | [] => 0
  | s :: rest => s.size + sizeIn rest

end

theorem Selection.size_eq (s : Selection) : s.size = sizeIn s.inner + 1 := by
  cases s <;> simp [Selection.size, sizeIn]

theorem sizeIn_inner_lt {s : Selection} {body : List Selection} (member : s ∈ body) :
    sizeIn s.inner < sizeIn body := by
  induction body with
  | nil => simp at member
  | cons first rest ih =>
    rw [sizeIn]
    rcases List.mem_cons.mp member with rfl | later
    · rw [Selection.size_eq]
      omega
    · have := ih later
      omega

namespace Depth

variable {limits : DepthLimits} {rootName : String} {root : CorpusDocument}
  {fragments : List (Sourced Fragment)} {s t : Scope} {link : Link} {chain : List Link}

/-- The names of fragments, each once. -/
def distinctNames (fragments : List (Sourced Fragment)) : Finset String :=
  (fragments.map (·.node.name.text)).toFinset

theorem mem_distinctNames {name : String} {f : Sourced Fragment}
    (found : lastNamed name fragments = some f) : name ∈ distinctNames fragments := by
  obtain ⟨member, named⟩ := Closure.lastNamed_some found
  exact List.mem_toFinset.mpr (List.mem_map.mpr ⟨f, member, named⟩)

/-- What a walk has left at a scope: the names that it did not cross yet, and the selections. -/
def Scope.measure (fragments : List (Sourced Fragment)) (s : Scope) : Nat × Nat :=
  ((distinctNames fragments \ s.crossed.toFinset).card, sizeIn s.body)

/-- Crossing a name leaves fewer of them to cross. -/
theorem uncrossed_card_lt {name : String} {crossed : List String} (fresh : name ∉ crossed)
    (known : name ∈ distinctNames fragments) :
    (distinctNames fragments \ (name :: crossed).toFinset).card <
      (distinctNames fragments \ crossed.toFinset).card := by
  have fewer : distinctNames fragments \ (name :: crossed).toFinset ⊆
      distinctNames fragments \ crossed.toFinset := by
    refine Finset.sdiff_subset_sdiff subset_rfl ?_
    rw [List.toFinset_cons]
    exact Finset.subset_insert ..
  have left : name ∈ distinctNames fragments \ crossed.toFinset := by simp [known, fresh]
  have gone : name ∉ distinctNames fragments \ (name :: crossed).toFinset := by simp
  exact Finset.card_lt_card ((Finset.ssubset_iff_of_subset fewer).mpr ⟨name, left, gone⟩)

/-- Only across a spread may there be more selections, and then there are fewer names. -/
theorem Enters.descends (enters : Enters fragments s link t) :
    Prod.Lex (· < ·) (· < ·) (t.measure fragments) (s.measure fragments) := by
  cases enters with
  | field found => exact .right _ (sizeIn_inner_lt (List.mem_of_getElem? found))
  | inline found => exact .right _ (sizeIn_inner_lt (List.mem_of_getElem? found))
  | spread _ fresh known => exact .left _ _ (uncrossed_card_lt fresh (mem_distinctNames known))

theorem Enters.crossed_eq (enters : Enters fragments s link t) :
    t.crossed = link.selection.spreadName?.toList ++ s.crossed := by
  cases enters <;> rfl

theorem Enters.nodup (enters : Enters fragments s link t) (distinct : s.crossed.Nodup) :
    t.crossed.Nodup := by
  cases enters with
  | field | inline => exact distinct
  | spread _ fresh _ => exact List.nodup_cons.mpr ⟨fresh, distinct⟩

theorem Enters.known (enters : Enters fragments s link t) :
    ∀ name ∈ link.selection.spreadName?, name ∈ distinctNames fragments := by
  cases enters with
  | field | inline => simp [Selection.spreadName?]
  | spread _ _ known => simpa [Selection.spreadName?] using mem_distinctNames known

theorem crossings_cons (link : Link) (chain : List Link) :
    crossings (link :: chain) = link.selection.spreadName?.toList ++ crossings chain := by
  rw [crossings, List.filterMap_cons]
  cases link.selection.spreadName? <;> rfl

/-- What a chain crosses is added to what was crossed before, the last name in front. -/
theorem Chain.crossed_eq (steps : Chain fragments s chain t) :
    t.crossed = (crossings chain).reverse ++ s.crossed := by
  induction steps with
  | nil => rfl
  | @cons _ link _ chain _ enters _ ih =>
    rw [ih, enters.crossed_eq, crossings_cons, List.reverse_append, List.append_assoc]
    cases link.selection.spreadName? <;> rfl

theorem Chain.nodup (steps : Chain fragments s chain t) (distinct : s.crossed.Nodup) :
    t.crossed.Nodup := by
  induction steps with
  | nil => exact distinct
  | cons enters _ ih => exact ih (enters.nodup distinct)

theorem Chain.known (steps : Chain fragments s chain t) :
    ∀ name ∈ crossings chain, name ∈ distinctNames fragments := by
  induction steps with
  | nil => simp [crossings]
  | cons enters _ ih =>
    rw [crossings_cons, List.forall_mem_append]
    exact ⟨by simpa using enters.known, ih⟩

/-- A chain crosses no name twice, so it has no more spreads on it than there are names. -/
theorem Chain.crossings_length_le (steps : Chain fragments s chain t)
    (distinct : t.crossed.Nodup) : (crossings chain).length ≤ (distinctNames fragments).card := by
  rw [Chain.crossed_eq steps] at distinct
  have once : (crossings chain).Nodup := List.nodup_reverse.mp (List.Nodup.of_append_left distinct)
  rw [← List.toFinset_card_of_nodup once]
  refine Finset.card_le_card fun name member => ?_
  exact Chain.known steps name (List.mem_toFinset.mp member)

/-- One time that a walk goes through the selections of a scope, which stand at some level. -/
structure Call where
  scope : Scope
  level : Nat

def Call.ofRoot (root : CorpusDocument) : Call := ⟨.ofRoot root, 0⟩

/-- What a walk does about one selection. -/
inductive Act where
  | goOn
  | hit (v : Violation)
  | call (next : Call)

/-- What an act adds to the hits, if it is known what calls find. -/
def Act.found (find : Call → List Violation) : Act → List Violation
  | goOn => []
  | hit v => [v]
  | call next => find next

namespace Call

/-- What is done about a selection by its kind, its name and the names crossed on the way. -/
def act (limits : DepthLimits) (rootName : String) (fragments : List (Sourced Fragment)) (c : Call)
    (position : Nat) : Selection → Act
  | .field head body =>
    let name := head.name.text
    let inner : Scope := ⟨c.scope.crossed, c.scope.place.child position, body⟩
    if body.isEmpty || name.startsWith "__" then .goOn
    else if limits.isIgnored name then .call ⟨inner, c.level⟩
    else if limits.maxDepth < c.level + 1 then
      .hit ⟨inner.place.node, name, c.level + 1, limits.maxDepth,
        c.scope.place.locate head.position, rootName⟩
    else .call ⟨inner, c.level + 1⟩
  | .inline _ body => .call ⟨⟨c.scope.crossed, c.scope.place.child position, body⟩, c.level⟩
  | .spread head =>
    let name := head.name.text
    if name ∈ c.scope.crossed then .goOn
    else (lastNamed name fragments).elim .goOn fun f =>
      .call ⟨⟨name :: c.scope.crossed, .ofFragment f, f.node.body⟩, c.level⟩

/-- One pass over the selections of a call, in their order. -/
def pass (limits : DepthLimits) (rootName : String) (fragments : List (Sourced Fragment))
    (find : Call → List Violation) (c : Call) : List Violation :=
  (c.scope.body.mapIdx (c.act limits rootName fragments)).flatMap (·.found find)

/-- A call makes another one at a selection. -/
structure Makes (limits : DepthLimits) (rootName : String) (fragments : List (Sourced Fragment))
    (c : Call) (link : Link) (d : Call) : Prop where
  stands : c.scope.body[link.position]? = some link.selection
  calls : c.act limits rootName fragments link.position link.selection = .call d

/-- The walk over the selections of a call, which may enter what is not crossed. -/
def hits (limits : DepthLimits) (rootName : String) (fragments : List (Sourced Fragment))
    (c : Call) : List Violation :=
  Depth.hits limits rootName (fragments.filter (·.node.name.text ∉ c.scope.crossed)) c.scope.place
    c.level 0 c.scope.body

variable {c d : Call}

theorem leaving_uncrossed (name : String) (crossed : List String) :
    leaving name (fragments.filter (·.node.name.text ∉ crossed)) =
      fragments.filter (·.node.name.text ∉ name :: crossed) := by
  rw [leaving, List.filter_filter]
  exact List.filter_congr fun f _ => by simp

theorem lastNamed_uncrossed {name : String} {crossed : List String} (fresh : name ∉ crossed) :
    lastNamed name (fragments.filter (·.node.name.text ∉ crossed)) = lastNamed name fragments := by
  refine lastNamed_filter _ fun f _ same => ?_
  simp [same, fresh]

theorem lastNamed_crossed {name : String} {crossed : List String} (cut : name ∈ crossed) :
    lastNamed name (fragments.filter (·.node.name.text ∉ crossed)) = none := by
  rw [lastNamed_eq_none_iff]
  rintro f member rfl
  simp [cut] at member

/-- About one selection, a walk does what the act says. -/
theorem hits_single (c : Call) (position : Nat) (selection : Selection) :
    Depth.hits limits rootName (fragments.filter (·.node.name.text ∉ c.scope.crossed)) c.scope.place
        c.level position [selection] =
      (c.act limits rootName fragments position selection).found
        (hits limits rootName fragments) := by
  cases selection with
  | field head body =>
    simp only [Depth.hits, List.append_nil, act]
    split
    · rfl
    · split
      · rfl
      · split <;> rfl
  | inline head body =>
    simp only [Depth.hits, List.append_nil, act]
    rfl
  | spread head =>
    -- The walk looks for the fragment among those it may enter, the act among all of them.
    rw [hits_spread, Depth.hits, List.append_nil, leaving_uncrossed, act]
    split
    · next cut => rw [lastNamed_crossed cut]; rfl
    · next fresh =>
      rw [lastNamed_uncrossed fresh]
      cases lastNamed head.name.text fragments <;> rfl

theorem hits_eq_pass (c : Call) :
    c.hits limits rootName fragments =
      c.pass limits rootName fragments (hits limits rootName fragments) := by
  -- A walk goes on from any position, so the selections that are left are counted from there.
  have ahead (position : Nat) (rest : List Selection) :
      Depth.hits limits rootName (fragments.filter (·.node.name.text ∉ c.scope.crossed))
          c.scope.place c.level position rest =
        (rest.mapIdx fun i => c.act limits rootName fragments (i + position)).flatMap
          (·.found (hits limits rootName fragments)) := by
    induction rest generalizing position with
    | nil => simp [Depth.hits]
    | cons selection rest ih =>
      rw [hits_cons, hits_single, ih, List.mapIdx_cons, List.flatMap_cons, Nat.zero_add]
      simp only [Nat.add_assoc, Nat.add_comm 1]
  exact ahead 0 c.scope.body

/-- A pass asks for nothing but what the calls find that it makes. -/
theorem pass_congr {find other : Call → List Violation}
    (same : ∀ link d, c.Makes limits rootName fragments link d → find d = other d) :
    c.pass limits rootName fragments find = c.pass limits rootName fragments other := by
  simp only [pass, List.flatMap_def]
  congr 1
  refine List.map_congr_left fun act member => ?_
  obtain ⟨i, bound, rfl⟩ := List.mem_mapIdx.mp member
  cases calls : c.act limits rootName fragments i c.scope.body[i] with
  | goOn | hit => rfl
  | call d => exact same ⟨i, c.scope.body[i]⟩ d ⟨List.getElem?_eq_getElem bound, calls⟩

/-- A call is made where a chain goes on, at the same level or at one more if that is allowed. -/
theorem Makes.cases (makes : c.Makes limits rootName fragments link d) :
    Enters fragments c.scope link d.scope ∧
      (d.level = c.level ∨ d.level = c.level + 1 ∧ c.level + 1 ≤ limits.maxDepth) := by
  obtain ⟨stands, calls⟩ := makes
  obtain ⟨i, selection⟩ := link
  cases selection with
  | field head body =>
    simp only [act] at calls
    split at calls
    · cases calls
    · split at calls
      · cases calls
        exact ⟨.field stands, .inl rfl⟩
      · split at calls
        · cases calls
        · next allowed =>
          cases calls
          exact ⟨.field stands, .inr ⟨rfl, Nat.le_of_not_lt allowed⟩⟩
  | inline head body =>
    cases calls
    exact ⟨.inline stands, .inl rfl⟩
  | spread head =>
    simp only [act] at calls
    split at calls
    · cases calls
    · next fresh =>
      cases known : lastNamed head.name.text fragments with
      | none => simp [known] at calls
      | some f =>
        rw [known] at calls
        cases calls
        exact ⟨.spread stands fresh known, .inl rfl⟩

theorem Makes.descends (makes : c.Makes limits rootName fragments link d) :
    Prod.Lex (· < ·) (· < ·) (d.scope.measure fragments) (c.scope.measure fragments) :=
  makes.cases.1.descends

theorem Makes.level_le (makes : c.Makes limits rootName fragments link d)
    (within : c.level ≤ limits.maxDepth) : d.level ≤ limits.maxDepth := by
  rcases makes.cases.2 with same | ⟨more, allowed⟩
  · rwa [same]
  · rwa [more]

theorem wellFounded_makes (limits : DepthLimits) (rootName : String)
    (fragments : List (Sourced Fragment)) :
    WellFounded fun d c : Call => ∃ link, c.Makes limits rootName fragments link d := by
  refine Subrelation.wf ?_ (InvImage.wf (fun c : Call => c.scope.measure fragments)
    (WellFounded.prod_lex Nat.lt_wfRel.wf Nat.lt_wfRel.wf))
  rintro d c ⟨link, makes⟩
  exact makes.descends

/-- Only the walk finds in every call what one pass finds there. -/
theorem eq_hits_of_pass {find : Call → List Violation}
    (passes : ∀ c, find c = c.pass limits rootName fragments find) :
    find = hits limits rootName fragments := by
  funext c
  induction c using (wellFounded_makes limits rootName fragments).induction with
  | _ c ih =>
    rw [passes, hits_eq_pass]
    exact pass_congr fun link d makes => ih d ⟨link, makes⟩

theorem chain_of_makes (steps : Steps (Makes limits rootName fragments) c chain d) :
    Chain fragments c.scope chain d.scope := by
  induction steps with
  | nil => exact .nil
  | cons makes _ ih => exact .cons makes.cases.1 ih

theorem level_le_of_makes (steps : Steps (Makes limits rootName fragments) c chain d)
    (within : c.level ≤ limits.maxDepth) : d.level ≤ limits.maxDepth := by
  induction steps with
  | nil => exact within
  | cons makes _ ih => exact ih (makes.level_le within)

end Call

theorem enterableFrom_eq (root : CorpusDocument) (fragments : List (Sourced Fragment)) :
    enterableFrom root fragments =
      fragments.filter (·.node.name.text ∉ (Scope.ofRoot root).crossed) := by
  cases named : root.node.fragmentName? with
  | none => simp [enterableFrom, Scope.ofRoot, named]
  | some own => simp [enterableFrom, Scope.ofRoot, named, leaving]

/-- How far a walk from a root has gone at a call that it makes at the end of a chain. -/
structure Bounded (limits : DepthLimits) (root : CorpusDocument)
    (fragments : List (Sourced Fragment)) (chain : List Link) (c : Call) : Prop where
  /-- The path: what the root bears and, before it, what was crossed on the way. -/
  path : c.scope.crossed = (crossings chain).reverse ++ root.node.fragmentName?.toList
  distinct : c.scope.crossed.Nodup
  known : ∀ name ∈ crossings chain, name ∈ distinctNames fragments
  spreads : (crossings chain).length ≤ (distinctNames fragments).card
  level : c.level ≤ limits.maxDepth

theorem bounded_of_makes {c : Call}
    (steps : Steps (Call.Makes limits rootName fragments) (.ofRoot root) chain c) :
    Bounded limits root fragments chain c := by
  have leads : Chain fragments (.ofRoot root) chain c.scope := Call.chain_of_makes steps
  have start : (Scope.ofRoot root).crossed.Nodup := by
    rw [Scope.ofRoot]
    cases root.node.fragmentName? <;> simp
  have distinct : c.scope.crossed.Nodup := Chain.nodup leads start
  exact {
    path := Chain.crossed_eq leads
    distinct
    known := Chain.known leads
    spreads := Chain.crossings_length_le leads distinct
    level := Call.level_le_of_makes steps (Nat.zero_le _) }

/-- A check is a walk that calls itself, and ends. -/
structure Terminates (limits : DepthLimits) (root : CorpusDocument)
    (fragments : List (Sourced Fragment)) : Prop where
  /-- The first call is the one at the root. -/
  starts : check limits root fragments = firstsBy (fun v => (v.address, v.depth))
    ((Call.ofRoot root).hits limits root.node.displayName fragments)
  /-- Every call finds what one pass over its selections finds, with the calls made there. -/
  recurs : ∀ c : Call, c.hits limits root.node.displayName fragments =
    c.pass limits root.node.displayName fragments
      (Call.hits limits root.node.displayName fragments)
  /-- Nothing else finds this in every call, so what is found never hangs on itself. -/
  only : ∀ find, (∀ c : Call, find c = c.pass limits root.node.displayName fragments find) →
    find = Call.hits limits root.node.displayName fragments
  /-- A call that is made has fewer names to cross, or as many and fewer selections. -/
  descends : ∀ (c : Call) link d, c.Makes limits root.node.displayName fragments link d →
    Prod.Lex (· < ·) (· < ·) (d.scope.measure fragments) (c.scope.measure fragments)
  wellFounded : WellFounded fun d c : Call =>
    ∃ link, c.Makes limits root.node.displayName fragments link d
  /-- Calls that are made from the root, directly or through others, are within bounds. -/
  bounded : ∀ chain c,
    Steps (Call.Makes limits root.node.displayName fragments) (.ofRoot root) chain c →
      Bounded limits root fragments chain c

/-- Every check ends, whatever its fragments are and however they spread one another. -/
theorem check_terminates (limits : DepthLimits) (root : CorpusDocument)
    (fragments : List (Sourced Fragment)) : Terminates limits root fragments where
  starts := by
    rw [check_eq, rootHits, enterableFrom_eq]
    rfl
  recurs c := c.hits_eq_pass
  only _ := Call.eq_hits_of_pass
  descends _ _ _ makes := makes.descends
  wellFounded := Call.wellFounded_makes ..
  bounded _ _ := bounded_of_makes

open Sketch in
/-- A query that enters a cycle of fragments goes once around it: the last spread is passed by. -/
theorem cycle_check_terminates :
    let limits : DepthLimits := ⟨1, []⟩
    let root : CorpusDocument := (query [field "a" [spread "F"]]).map .operation
    let f := fragment "F" [inline "Query" [spread "G"]]
    let g := fragment "G" [field "b" [], spread "F"]
    let inner : Call := ⟨⟨["G", "F"], .ofFragment g, g.node.body⟩, 1⟩
    ∃ chain, Steps (Call.Makes limits root.node.displayName [f, g]) (.ofRoot root) chain inner ∧
      (crossings chain).length = (distinctNames [f, g]).card ∧
      inner.act limits root.node.displayName [f, g] 1 (spread "F") = .goOn ∧
      Bounded limits root [f, g] chain inner := by
  intro limits root f g inner
  have steps : Steps (Call.Makes limits root.node.displayName [f, g]) (.ofRoot root)
      [⟨0, field "a" [spread "F"]⟩, ⟨0, spread "F"⟩, ⟨0, inline "Query" [spread "G"]⟩,
        ⟨0, spread "G"⟩] inner := by
    refine .cons (t := ⟨⟨[], (Place.ofRoot root).child 0, [spread "F"]⟩, 1⟩) ⟨rfl, rfl⟩ ?_
    refine .cons (t := ⟨⟨["F"], .ofFragment f, f.node.body⟩, 1⟩) ⟨rfl, rfl⟩ ?_
    refine .cons (t := ⟨⟨["F"], (Place.ofFragment f).child 0, [spread "G"]⟩, 1⟩) ⟨rfl, rfl⟩ ?_
    exact .cons ⟨rfl, rfl⟩ .nil
  exact ⟨_, steps, by decide, rfl, (check_terminates limits root [f, g]).bounded _ _ steps⟩

end Depth

end QueryAudit
