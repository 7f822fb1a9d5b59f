import QueryAudit.Corpus.Closure
import QueryAudit.Depth.Limits

/-! The depth of selections. A walk goes through a root and, at each spread, through the fragment
of the closure it names, unless the walk is already inside a fragment of that name. A field that
would open a level beyond the limit is a hit, and the walk does not enter it. A field may be hit
on several ways through the fragments and is reported once for each depth. -/
namespace QueryAudit

/-- Which selection of a root or of a fragment is meant, by child positions from the outside in. -/
structure Address where
  /-- The fragment it belongs to, or none for the root itself. -/
  fragment : Option String
  path : List Nat
deriving DecidableEq, Repr, Inhabited

structure Violation where
  address : Address
  fieldName : String
  depth : Nat
  maxDepth : Nat
  location : Option Location
  rootName : String
deriving DecidableEq, Repr, Inhabited

def Violation.toJson (v : Violation) : Json :=
  .obj [("field_name", .str v.fieldName), ("depth", .ofNat v.depth),
    ("max_depth", .ofNat v.maxDepth), ("location", .ofOption (v.location.map (·.toJson))),
    ("root_name", .str v.rootName)]

namespace Depth

/-- Where a walk is: the text around it and the address of the enclosing selection. -/
abbrev Place := Sourced Address

def Place.ofRoot (root : CorpusDocument) : Place := root.map fun _ => ⟨none, []⟩

def Place.ofFragment (f : Sourced Fragment) : Place := f.map fun f => ⟨some f.name.text, []⟩

def Place.child (place : Place) (position : Nat) : Place :=
  place.map fun a => { a with path := a.path ++ [position] }

/-- The fragments that may still be entered after one of the given name was. -/
def leaving (name : String) (enterable : List (Sourced Fragment)) : List (Sourced Fragment) :=
  enterable.filter (·.node.name.text ≠ name)

theorem total_leaving_add_le {name : String} {fragments : List (Sourced Fragment)}
    {f : Sourced Fragment} (size : Sourced Fragment → Nat)
    (found : lastNamed name fragments = some f) :
    total size (leaving name fragments) + size f ≤ total size fragments := by
  obtain ⟨member, named⟩ := Closure.lastNamed_some found
  exact total_filter_add_le size member (by simp [named])

/-- The hits below a list of selections that stand at `level`, the first of them at `position`
among its siblings. `enterable` holds the fragments that the walk is not inside of. -/
def hits (limits : DepthLimits) (rootName : String) (enterable : List (Sourced Fragment))
    (place : Place) (level position : Nat) : List Selection → List Violation
  | [] => []
  | .field head body :: rest =>
    let name := head.name.text
    let inner := place.child position
    let here :=
      if body.isEmpty || name.startsWith "__" then []
      else if limits.isIgnored name then hits limits rootName enterable inner level 0 body
      else if limits.maxDepth < level + 1 then
        [⟨inner.node, name, level + 1, limits.maxDepth, place.locate head.position, rootName⟩]
      else hits limits rootName enterable inner (level + 1) 0 body
    here ++ hits limits rootName enterable place level (position + 1) rest
  | .inline _ body :: rest =>
    hits limits rootName enterable (place.child position) level 0 body ++
      hits limits rootName enterable place level (position + 1) rest
  | .spread head :: rest =>
    let here :=
      match _found : lastNamed head.name.text enterable with
      | none => []
      | some f =>
        hits limits rootName (leaving head.name.text enterable) (.ofFragment f) level 0 f.node.body
    here ++ hits limits rootName enterable place level (position + 1) rest
termination_by selections => total (fun f => sizeOf f.node.body) enterable + sizeOf selections
decreasing_by
  all_goals first
    | exact Nat.lt_of_le_of_lt (total_leaving_add_le (fun f => sizeOf f.node.body) _found)
        (Nat.lt_add_of_pos_right (by rw [List.cons.sizeOf_spec]; omega))
    | simp only [List.cons.sizeOf_spec, Selection.field.sizeOf_spec, Selection.inline.sizeOf_spec]
      omega

/-- Keeps the first of all items with the same key. -/
def firstsBy [DecidableEq κ] (key : α → κ) : List α → List α
  | [] => []
  | a :: rest => a :: (firstsBy key rest).filter (key · ≠ key a)

/-- The violations of a root, in document order. Spreads of fragments outside the given list are
skipped, and a fragment root is never entered again. -/
def check (limits : DepthLimits) (root : CorpusDocument) (fragments : List (Sourced Fragment)) :
    List Violation :=
  let enterable := match root.node.fragmentName? with
    | some name => leaving name fragments
    | none => fragments
  firstsBy (fun v => (v.address, v.depth))
    (hits limits root.node.displayName enterable (.ofRoot root) 0 0 root.node.body)

/-- A root and the fragments it is checked with. -/
def definitions (root : CorpusDocument) (fragments : List (Sourced Fragment)) : List Executable :=
  root.node :: fragments.map (.fragment ·.node)

end Depth

end QueryAudit
