import Mathlib.Logic.Relation
import QueryAudit.Corpus.Closure

/-! Which names a body spreads, and the graph that spreads make of the fragments of a corpus. The
nodes of the graph are names: a name that no fragment bears has no edge out of it. -/
namespace QueryAudit

/-- The selections directly inside a selection. -/
def Selection.inner : Selection → List Selection
  | .field _ body => body
  | .spread _ => []
  | .inline _ body => body

@[simp] theorem Selection.inner_field : (Selection.field head body).inner = body := rfl
@[simp] theorem Selection.inner_spread : (Selection.spread head).inner = [] := rfl
@[simp] theorem Selection.inner_inline : (Selection.inline head body).inner = body := rfl

/-- A selection stands in a body, at any nesting of fields and inline fragments. -/
inductive Occurs (s : Selection) : List Selection → Prop where
  | here : s ∈ body → Occurs s body
  | within : t ∈ body → Occurs s t.inner → Occurs s body

/-- A body spreads a name somewhere. -/
def SpreadIn (name : String) (body : List Selection) : Prop :=
  ∃ head, Occurs (.spread head) body ∧ head.name.text = name

@[simp] theorem not_occurs_nil (s : Selection) : ¬ Occurs s [] := by
  rintro (member | ⟨member, _⟩) <;> simp at member

@[simp] theorem occurs_cons (s t : Selection) (rest : List Selection) :
    Occurs s (t :: rest) ↔ s = t ∨ Occurs s t.inner ∨ Occurs s rest := by
  constructor
  · rintro (member | ⟨member, deeper⟩)
    · rcases List.mem_cons.mp member with same | later
      · exact .inl same
      · exact .inr (.inr (.here later))
    · rcases List.mem_cons.mp member with rfl | later
      · exact .inr (.inl deeper)
      · exact .inr (.inr (.within later deeper))
  · rintro (rfl | deeper | later)
    · exact .here List.mem_cons_self
    · exact .within List.mem_cons_self deeper
    · rcases later with member | ⟨member, deeper⟩
      · exact .here (List.mem_cons_of_mem _ member)
      · exact .within (List.mem_cons_of_mem _ member) deeper

@[simp] theorem not_spreadIn_nil (name : String) : ¬ SpreadIn name [] := by
  simp [SpreadIn]

@[simp] theorem spreadIn_field (name : String) (head : FieldHead) (body rest : List Selection) :
    SpreadIn name (.field head body :: rest) ↔ SpreadIn name body ∨ SpreadIn name rest := by
  simp [SpreadIn, or_and_right, exists_or]

@[simp] theorem spreadIn_inline (name : String) (head : InlineHead) (body rest : List Selection) :
    SpreadIn name (.inline head body :: rest) ↔ SpreadIn name body ∨ SpreadIn name rest := by
  simp [SpreadIn, or_and_right, exists_or]

@[simp] theorem spreadIn_spread (name : String) (head : SpreadHead) (rest : List Selection) :
    SpreadIn name (.spread head :: rest) ↔ head.name.text = name ∨ SpreadIn name rest := by
  simp [SpreadIn, or_and_right, exists_or]

mutual

/-- Listing the spreads of a selection finds the names that it spreads, at whatever depth. -/
theorem Selection.mem_spreads (name : String) (s : Selection) :
    name ∈ s.spreads.map (·.name.text) ↔ SpreadIn name [s] := by
  cases s with
  | field head body => simpa [Selection.spreads] using mem_spreadsIn name body
  | spread head => simp [Selection.spreads, eq_comm]
  | inline head body => simpa [Selection.spreads] using mem_spreadsIn name body

theorem mem_spreadsIn (name : String) (body : List Selection) :
    name ∈ (spreadsIn body).map (·.name.text) ↔ SpreadIn name body := by
  cases body with
  | nil => simp [spreadsIn]
  | cons s rest =>
    rw [spreadsIn, List.map_append, List.mem_append, Selection.mem_spreads name s,
      mem_spreadsIn name rest]
    cases s <;> simp

end

namespace Closure

/-- The names still to be followed after a fragment was found are those that its body spreads. -/
theorem mem_pending (s : Sourced α) (body : List Selection) (name : String) :
    name ∈ (pending s body).map (·.node.name.text) ↔ SpreadIn name body := by
  rw [← mem_spreadsIn]
  simp [pending, Sourced.map]

end Closure

namespace CorpusIndex

/-- An edge of the spread graph: the fragment that one name stands for spreads the other name. -/
def SpreadsTo (index : CorpusIndex) (name next : String) : Prop :=
  ∃ f, index.fragment? name = some f ∧ SpreadIn next f.node.body

/-- What can be reached along spreads from the names of a start, without ever meeting a name that
is to be avoided. -/
inductive Reaches (index : CorpusIndex) (avoid : List String) (start : String → Prop) :
    String → Prop where
  | start : start name → name ∉ avoid → Reaches index avoid start name
  | step : Reaches index avoid start via → index.SpreadsTo via name → name ∉ avoid →
      Reaches index avoid start name

/-- A name leads to another along one or more spreads. -/
abbrev Leads (index : CorpusIndex) : String → String → Prop := Relation.TransGen index.SpreadsTo

/-- No name leads back to itself. -/
def Acyclic (index : CorpusIndex) : Prop := ∀ name, ¬ index.Leads name name

theorem spreadsTo_iff {index : CorpusIndex} (found : index.fragment? name = some f) :
    index.SpreadsTo name next ↔ SpreadIn next f.node.body := by
  simp [SpreadsTo, found]

theorem not_spreadsTo {index : CorpusIndex} (missing : index.fragment? name = none) :
    ¬ index.SpreadsTo name next := by
  simp [SpreadsTo, missing]

/-- A corpus has no cycle if every spread goes down in some rank. -/
theorem acyclic_of_rank {index : CorpusIndex} (rank : String → Nat)
    (down : ∀ f ∈ index.fragments, ∀ name, SpreadIn name f.node.body →
      rank name < rank f.node.name.text) : index.Acyclic := by
  have edge {name next : String} (edge : index.SpreadsTo name next) : rank next < rank name := by
    obtain ⟨f, found, spread⟩ := edge
    obtain ⟨member, rfl⟩ := Closure.lastNamed_some found
    exact down f member next spread
  have descends {name next : String} (leads : index.Leads name next) : rank next < rank name := by
    induction leads with
    | single first => exact edge first
    | tail _ last ih => exact Nat.lt_trans (edge last) ih
  exact fun name leads => Nat.lt_irrefl _ (descends leads)

namespace Reaches

variable {index : CorpusIndex} {avoid : List String} {start : String → Prop}

theorem not_mem_avoid (reached : index.Reaches avoid start name) : name ∉ avoid := by
  cases reached with
  | start _ fresh => exact fresh
  | step _ _ fresh => exact fresh

/-- The last step of a way: from the start, or from a fragment that is reached itself. -/
theorem iff_last : index.Reaches avoid start name ↔
    (start name ∨ ∃ via, index.Reaches avoid start via ∧ index.SpreadsTo via name) ∧
      name ∉ avoid := by
  constructor
  · rintro (⟨begun, fresh⟩ | ⟨before, edge, fresh⟩)
    · exact ⟨.inl begun, fresh⟩
    · exact ⟨.inr ⟨_, before, edge⟩, fresh⟩
  · rintro ⟨begun | ⟨via, before, edge⟩, fresh⟩
    · exact .start begun fresh
    · exact .step before edge fresh

theorem mono {start' : String → Prop} (wider : ∀ name, start name → start' name)
    (reached : index.Reaches avoid start name) : index.Reaches avoid start' name := by
  induction reached with
  | start begun fresh => exact .start (wider _ begun) fresh
  | step _ edge fresh ih => exact .step ih edge fresh

/-- A start that is to be avoided leads nowhere. -/
theorem skip (avoided : name ∈ avoid) (target : String) :
    index.Reaches avoid (fun n => n = name ∨ start n) target ↔
      index.Reaches avoid start target := by
  constructor
  · intro reached
    induction reached with
    | start begun fresh =>
      rcases begun with rfl | begun
      · exact absurd avoided fresh
      · exact .start begun fresh
    | step _ edge fresh ih => exact .step ih edge fresh
  · exact mono fun _ => .inr

/-- Settling a start: what is reached from it is the start itself, or is reached from the names it
spreads and from the other starts without meeting it again. Ways that come back to it lose nothing
by leaving out the round trip. -/
theorem settle (fresh : name ∉ avoid) (target : String) :
    index.Reaches avoid (fun n => n = name ∨ start n) target ↔
      target = name ∨
        index.Reaches (name :: avoid) (fun n => index.SpreadsTo name n ∨ start n) target := by
  constructor
  · intro reached
    induction reached with
    | @start target begun fresh =>
      by_cases same : target = name
      · exact .inl same
      · exact .inr (.start (.inr (begun.resolve_left same)) (by simp [same, fresh]))
    | @step via target _ edge fresh ih =>
      by_cases same : target = name
      · exact .inl same
      · have away : target ∉ name :: avoid := by simp [same, fresh]
        rcases ih with rfl | before
        · exact .inr (.start (.inl edge) away)
        · exact .inr (.step before edge away)
  · have origin : index.Reaches avoid (fun n => n = name ∨ start n) name := .start (.inl rfl) fresh
    rintro (rfl | reached)
    · exact origin
    · induction reached with
      | start begun away =>
        have fresh := fun member => away (List.mem_cons_of_mem _ member)
        rcases begun with edge | begun
        · exact .step origin edge fresh
        · exact .start (.inr begun) fresh
      | step _ edge away ih =>
        exact .step ih edge fun member => away (List.mem_cons_of_mem _ member)

end Reaches

end CorpusIndex

end QueryAudit
