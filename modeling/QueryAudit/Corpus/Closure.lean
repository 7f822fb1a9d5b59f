import QueryAudit.Corpus.Index

/-! The fragments that a root reaches through spreads, and the spreads that lead nowhere. The
search keeps the spreads still to follow and the names already settled; every step settles one
more name of the index, whose fragment then adds its spreads for the only time, or drops a
spread. -/
namespace QueryAudit

mutual

/-- Every spread in a selection, in document order. -/
def Selection.spreads : Selection → List SpreadHead
  | .field _ body => spreadsIn body
  | .spread head => [head]
  | .inline _ body => spreadsIn body

def spreadsIn : List Selection → List SpreadHead
  | [] => []
  | s :: rest => s.spreads ++ spreadsIn rest

end

/-- A spread whose fragment is not in the corpus, where its name was met first. -/
structure MissingFragment where
  name : String
  location : Option Location
  sourcePath : Label
deriving DecidableEq, Repr, Inhabited

/-- Fragments and missing names, each in the order of discovery. -/
structure Closure where
  fragments : List (Sourced Fragment) := []
  missing : List MissingFragment := []
deriving Repr, Inhabited

/-- The sizes of all items together. -/
def total (size : α → Nat) : List α → Nat
  | [] => 0
  | a :: rest => size a + total size rest

theorem total_filter_le (size : α → Nat) (keep : α → Bool) (items : List α) :
    total size (items.filter keep) ≤ total size items := by
  induction items with
  | nil => simp
  | cons b rest ih =>
    rw [List.filter_cons]
    split <;> simp only [total] <;> omega

theorem total_filter_add_le {keep : α → Bool} {items : List α} {a : α} (size : α → Nat)
    (member : a ∈ items) (dropped : keep a = false) :
    total size (items.filter keep) + size a ≤ total size items := by
  induction items with
  | nil => simp at member
  | cons b rest ih =>
    rcases List.mem_cons.mp member with rfl | later
    · have behind := total_filter_le size keep rest
      simp only [List.filter_cons, dropped, Bool.false_eq_true, if_false, total]
      omega
    · have behind := ih later
      rw [List.filter_cons]
      split <;> simp only [total] <;> omega

namespace Closure

def isComplete (closure : Closure) : Bool := closure.missing.isEmpty

def names (closure : Closure) : List String := closure.fragments.map (·.node.name.text)

/-- The spreads of a body, each still knowing the text it stands in. -/
def pending (s : Sourced α) (body : List Selection) : List (Sourced SpreadHead) :=
  (spreadsIn body).map fun head => s.map fun _ => head

/-- The fragments of an index whose names are not settled yet. -/
def unsettled (index : CorpusIndex) (settled : List String) : List (Sourced Fragment) :=
  index.fragments.filter (·.node.name.text ∉ settled)

theorem unsettled_cons (index : CorpusIndex) (settled : List String) (name : String) :
    unsettled index (name :: settled) =
      (unsettled index settled).filter (·.node.name.text ≠ name) := by
  simp only [unsettled, List.filter_filter]
  apply List.filter_congr
  intro f _
  simp

theorem lastNamed_some {name : String} {fragments : List (Sourced Fragment)}
    {f : Sourced Fragment} (found : lastNamed name fragments = some f) :
    f ∈ fragments ∧ f.node.name.text = name := by
  induction fragments with
  | nil => simp [lastNamed] at found
  | cons g rest ih =>
    rw [lastNamed] at found
    split at found
    · next later eq =>
      cases found
      exact ⟨List.mem_cons_of_mem _ (ih eq).1, (ih eq).2⟩
    · split at found
      · next same => cases found; exact ⟨List.mem_cons_self, same⟩
      · cases found

theorem total_unsettled_add_le {index : CorpusIndex} {settled : List String} {name : String}
    {f : Sourced Fragment} (size : Sourced Fragment → Nat) (fresh : name ∉ settled)
    (found : index.fragment? name = some f) :
    total size (unsettled index (name :: settled)) + size f ≤
      total size (unsettled index settled) := by
  obtain ⟨member, named⟩ := lastNamed_some found
  rw [unsettled_cons]
  exact total_filter_add_le size (by simp [unsettled, member, named, fresh]) (by simp [named])

/-- Follows the pending spreads, first the ones inside a fragment just found. -/
def follow (index : CorpusIndex) (settled : List String) : List (Sourced SpreadHead) → Closure
  | [] => {}
  | spread :: rest =>
    let name := spread.node.name.text
    if name ∈ settled then follow index settled rest
    else
      match _found : index.fragment? name with
      | some f =>
        let closure := follow index (name :: settled) (pending f f.node.body ++ rest)
        { closure with fragments := f :: closure.fragments }
      | none =>
        let closure := follow index (name :: settled) rest
        let missing := ⟨name, spread.locate spread.node.position, spread.sourcePath⟩
        { closure with missing := missing :: closure.missing }
termination_by spreads =>
  total (fun f => (pending f f.node.body).length) (unsettled index settled) + spreads.length
decreasing_by
  · simp
  · have entered := total_unsettled_add_le (fun f => (pending f f.node.body).length)
      (by assumption) _found
    simp only [name, List.length_append, List.length_cons] at entered ⊢
    omega
  · rw [unsettled_cons, List.length_cons]
    exact Nat.lt_succ_of_le (Nat.add_le_add_right (total_filter_le ..) _)

/-- The closure of a root. A fragment's own name counts as settled from the start. -/
def resolve (index : CorpusIndex) (root : CorpusDocument) : Closure :=
  follow index root.node.fragmentName?.toList (pending root root.node.body)

/-- One event for each missing fragment. -/
def events (closure : Closure) : List Event :=
  closure.missing.map fun m => .fragmentNotFound m.name m.sourcePath

def logged (index : CorpusIndex) (root : CorpusDocument) : Logged Closure :=
  let closure := resolve index root
  ⟨closure.events, closure⟩

end Closure

end QueryAudit
