import QueryAudit.Proofs.Depth.Account

/-! Ignoring a field is erasing its level. A walk goes through an ignored field as it goes through
an inline fragment without a type condition, so documents in which such fragments stand in the place
of the ignored fields are checked with nothing ignored to the same end. Erasing moves no selection
to another place, so addresses stay as they are. -/
namespace QueryAudit

/-- Whether a field is erased: it has a sub-selection, walks do not pass over it for its name, and
it is ignored. -/
def FieldHead.isErased (ignore : List IgnoreRule) (head : FieldHead) (body : List Selection) :
    Bool :=
  !body.isEmpty && !head.name.text.startsWith "__" && ignore.any (·.covers head.name.text)

/-- The head of the inline fragment that takes the place of a field. -/
def FieldHead.asInline (head : FieldHead) : InlineHead :=
  ⟨head.position, none, [], head.bodyPosition⟩

mutual

/-- A selection with inline fragments in the place of ignored fields, at whatever depth. -/
def Selection.erase (ignore : List IgnoreRule) : Selection → Selection
  | .field head body =>
    if head.isErased ignore body then .inline head.asInline (eraseIn ignore body)
    else .field head (eraseIn ignore body)
  | .spread head => .spread head
  | .inline head body => .inline head (eraseIn ignore body)

def eraseIn (ignore : List IgnoreRule) : List Selection → List Selection
  | [] => []
  | s :: rest => s.erase ignore :: eraseIn ignore rest

end

def Fragment.erase (ignore : List IgnoreRule) (f : Fragment) : Fragment :=
  { f with body := eraseIn ignore f.body }

def Executable.erase (ignore : List IgnoreRule) : Executable → Executable
  | operation o => .operation { o with body := eraseIn ignore o.body }
  | fragment f => .fragment (f.erase ignore)

variable {ignore : List IgnoreRule}

theorem eraseIn_eq_map (body : List Selection) :
    eraseIn ignore body = body.map (Selection.erase ignore) := by
  induction body with
  | nil => rfl
  | cons s rest ih => rw [eraseIn, ih, List.map_cons]

@[simp] theorem eraseIn_isEmpty (body : List Selection) :
    (eraseIn ignore body).isEmpty = body.isEmpty := by
  cases body <;> rfl

theorem Selection.inner_erase (s : Selection) :
    (s.erase ignore).inner = eraseIn ignore s.inner := by
  cases s with
  | field head body =>
    rw [Selection.erase]
    split <;> rfl
  | spread head => rfl
  | inline head body => rfl

@[simp] theorem Executable.body_erase (e : Executable) :
    (e.erase ignore).body = eraseIn ignore e.body := by
  cases e <;> rfl

@[simp] theorem Executable.fragmentName?_erase (e : Executable) :
    (e.erase ignore).fragmentName? = e.fragmentName? := by
  cases e <;> rfl

@[simp] theorem Executable.displayName_erase (e : Executable) :
    (e.erase ignore).displayName = e.displayName := by
  cases e <;> rfl

namespace Depth

/-- The fragments of a closure, erased one by one. -/
def eraseAll (ignore : List IgnoreRule) (fragments : List (Sourced Fragment)) :
    List (Sourced Fragment) :=
  fragments.map (·.map (Fragment.erase ignore))

variable {root : CorpusDocument} {fragments enterable : List (Sourced Fragment)} {rootName : String}
  {place : Place} {level position m : Nat} {body : List Selection}

theorem lastNamed_eraseAll (name : String) (fragments : List (Sourced Fragment)) :
    lastNamed name (eraseAll ignore fragments) =
      (lastNamed name fragments).map (·.map (Fragment.erase ignore)) :=
  lastNamed_map (·.map (Fragment.erase ignore)) (fun _ => rfl) name fragments

theorem leaving_eraseAll (name : String) (fragments : List (Sourced Fragment)) :
    leaving name (eraseAll ignore fragments) = eraseAll ignore (leaving name fragments) := by
  rw [leaving, eraseAll, List.filter_map]
  rfl

theorem enterableFrom_erase (root : CorpusDocument) (fragments : List (Sourced Fragment)) :
    enterableFrom (root.map (Executable.erase ignore)) (eraseAll ignore fragments) =
      eraseAll ignore (enterableFrom root fragments) := by
  simp only [enterableFrom, Sourced.map, Executable.fragmentName?_erase]
  cases root.node.fragmentName? with
  | none => rfl
  | some name => exact leaving_eraseAll name fragments

/-- The tests of a walk at a field come in this order: whether there is a sub-selection, whether the
name is passed over, whether it is ignored. Erasing asks the same of a field. -/
theorem hits_erase_field (head : FieldHead)
    (inside : ∀ place level,
      hits ⟨m, []⟩ rootName (eraseAll ignore enterable) place level 0 (eraseIn ignore body) =
        hits ⟨m, ignore⟩ rootName enterable place level 0 body) :
    hits ⟨m, []⟩ rootName (eraseAll ignore enterable) place level position
        [(Selection.field head body).erase ignore] =
      hits ⟨m, ignore⟩ rootName enterable place level position [.field head body] := by
  rw [Selection.erase, FieldHead.isErased]
  by_cases leaf : body = []
  · simp [leaf, eraseIn, hits]
  have inhabited : body.isEmpty = false := List.isEmpty_eq_false_iff.mpr leaf
  cases hidden : head.name.text.startsWith "__" with
  | true => simp [hits, hidden]
  | false =>
    cases ignored : ignore.any (·.covers head.name.text) with
    | true => simp [hits, inhabited, hidden, ignored, DepthLimits.isIgnored, inside]
    | false => simp [hits, inhabited, hidden, ignored, DepthLimits.isIgnored, inside]

/-- A walk through what is erased, with nothing ignored, makes the same hits. -/
theorem hits_erase :
    hits ⟨m, []⟩ rootName (eraseAll ignore enterable) place level position (eraseIn ignore body) =
      hits ⟨m, ignore⟩ rootName enterable place level position body := by
  induction enterable, body using walk_induction generalizing place level position with
  | nil => simp [hits, eraseIn]
  | field enterable head body rest inside after =>
    rw [eraseIn, hits_cons, hits_cons _ (.field head body), after,
      hits_erase_field head fun _ _ => inside]
  | inline enterable head body rest inside after =>
    rw [eraseIn, Selection.erase, hits, hits, inside, after]
  | spread enterable head rest inside after =>
    rw [eraseIn, Selection.erase, hits_spread, hits_spread, after, lastNamed_eraseAll,
      leaving_eraseAll]
    cases found : lastNamed head.name.text enterable with
    | none => rfl
    | some f =>
      simp only [Option.map_some, Option.elim_some, ← inside f found]
      rfl

theorem check_erase_eq (m : Nat) (ignore : List IgnoreRule) (root : CorpusDocument)
    (fragments : List (Sourced Fragment)) :
    check ⟨m, []⟩ (root.map (Executable.erase ignore)) (eraseAll ignore fragments) =
      check ⟨m, ignore⟩ root fragments := by
  have same : rootHits ⟨m, []⟩ (root.map (Executable.erase ignore)) (eraseAll ignore fragments) =
      rootHits ⟨m, ignore⟩ root fragments := by
    rw [rootHits, enterableFrom_erase]
    simp only [Sourced.map, Executable.displayName_erase, Executable.body_erase]
    exact hits_erase
  rw [check_eq, check_eq, same]

/-- The selection that an address leads to, in the root or in a fragment. -/
def selectionAt (root : CorpusDocument) (fragments : List (Sourced Fragment)) (address : Address) :
    Option Selection := do
  let owner ← ownerBody root fragments address.fragment
  let body ← bodyAt owner.node address.path.dropLast
  body[← address.path.getLast?]?

theorem getElem?_eraseIn (body : List Selection) (i : Nat) :
    (eraseIn ignore body)[i]? = body[i]?.map (Selection.erase ignore) := by
  rw [eraseIn_eq_map, List.getElem?_map]

theorem bodyAt_eraseIn (body : List Selection) (path : List Nat) :
    bodyAt (eraseIn ignore body) path = (bodyAt body path).map (eraseIn ignore) := by
  induction path generalizing body with
  | nil => rfl
  | cons i rest ih =>
    simp only [bodyAt, List.foldlM_cons, getElem?_eraseIn] at ih ⊢
    cases body[i]? with
    | none => rfl
    | some s => simpa [Selection.inner_erase] using ih s.inner

theorem ownerBody_erase (root : CorpusDocument) (fragments : List (Sourced Fragment))
    (owner : Option String) :
    ownerBody (root.map (Executable.erase ignore)) (eraseAll ignore fragments) owner =
      (ownerBody root fragments owner).map (·.map (eraseIn ignore)) := by
  cases owner with
  | none => simp [ownerBody, Sourced.map]
  | some name =>
    rw [ownerBody, lastNamed_eraseAll, ownerBody]
    cases lastNamed name fragments <;> rfl

/-- An address leads to the erased selection where it led to the selection before. -/
theorem selectionAt_erase (root : CorpusDocument) (fragments : List (Sourced Fragment))
    (address : Address) :
    selectionAt (root.map (Executable.erase ignore)) (eraseAll ignore fragments) address =
      (selectionAt root fragments address).map (Selection.erase ignore) := by
  simp only [selectionAt, ownerBody_erase]
  cases ownerBody root fragments address.fragment with
  | none => rfl
  | some owner =>
    simp only [Option.map_some, Option.bind_eq_bind, Option.bind_some, Sourced.map, bodyAt_eraseIn]
    cases bodyAt owner.node address.path.dropLast with
    | none => rfl
    | some body =>
      cases address.path.getLast? with
      | none => rfl
      | some i => exact getElem?_eraseIn body i

/-- A reported address leads to the field that is reported, which is not one to be erased. -/
theorem selectionAt_of_reported {v : Violation} (reported : v ∈ check ⟨m, ignore⟩ root fragments) :
    ∃ head body, selectionAt root fragments v.address = some (.field head body) ∧
      v.fieldName = head.name.text ∧ head.isErased ignore body = false := by
  rw [mem_check_iff, (rootHits_depthFirst ..).mem_iff] at reported
  obtain ⟨_, n, ⟨chain, position, ⟨t, steps, stands, placed⟩, opens, _⟩, rfl⟩ := reported
  obtain ⟨owner, owned, _, inside⟩ := (stands_ofRoot root fragments).along steps
  refine ⟨n.head, n.body, ?_, rfl, ?_⟩
  · simp [selectionAt, FieldNode.violation, placed, Place.child, Sourced.map, owned, inside, stands]
  · have counted : ignore.any (·.covers n.head.name.text) = false := opens.counted
    rw [FieldHead.isErased, counted, Bool.and_false]

/-- A check that ignores fields reports what a check that ignores nothing reports of the erased
documents: the same violations in the same order, at addresses that lead to the same fields. -/
theorem check_erase (m : Nat) (ignore : List IgnoreRule) (root : CorpusDocument)
    (fragments : List (Sourced Fragment)) :
    check ⟨m, ignore⟩ root fragments =
        check ⟨m, []⟩ (root.map (Executable.erase ignore)) (eraseAll ignore fragments) ∧
      ∀ v ∈ check ⟨m, ignore⟩ root fragments, ∃ head body, v.fieldName = head.name.text ∧
        selectionAt root fragments v.address = some (.field head body) ∧
        selectionAt (root.map (Executable.erase ignore)) (eraseAll ignore fragments) v.address =
          some (.field head (eraseIn ignore body)) := by
  refine ⟨(check_erase_eq m ignore root fragments).symm, fun v reported => ?_⟩
  obtain ⟨head, body, found, named, kept⟩ := selectionAt_of_reported reported
  refine ⟨head, body, named, found, ?_⟩
  rw [selectionAt_erase, found, Option.map_some, Selection.erase, if_neg (by simp [kept])]

end Depth

end QueryAudit
