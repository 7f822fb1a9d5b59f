import QueryAudit.Proofs.Corpus.Sketch
import QueryAudit.Proofs.Depth.Agreement
import QueryAudit.Proofs.Depth.Nesting

/-! Checks of depth with a part of the fragments. A spread whose fragment is not among the given
ones is skipped, so of all chains those remain that cross only given fragments. Hence such a check
reports nothing new, and it misses a field only if each chain to it crosses something left out. -/
namespace QueryAudit

def Selection.spreadName? : Selection → Option String
  | .spread head => some head.name.text
  | _ => none

section Part

variable {part fragments : List (Sourced Fragment)} {name : String} {f : Sourced Fragment}

/-- A part of fragments with distinct names: a name stands for what it stands for among all of them,
if it stands for anything. -/
theorem lastNamed_part (distinct : (fragments.map (·.node.name.text)).Nodup)
    (inside : part ⊆ fragments) : lastNamed name part = some f ↔
      lastNamed name fragments = some f ∧ ∃ g ∈ part, g.node.name.text = name := by
  have wider {g : Sourced Fragment} (found : lastNamed name part = some g) :
      lastNamed name fragments = some g := by
    obtain ⟨member, named⟩ := Closure.lastNamed_some found
    exact (lastNamed_eq_some_iff distinct).mpr ⟨inside member, named⟩
  constructor
  · intro found
    exact ⟨wider found, f, Closure.lastNamed_some found⟩
  · rintro ⟨known, g, member, named⟩
    cases found : lastNamed name part with
    | none => exact absurd named (lastNamed_eq_none_iff.mp found g member)
    | some h =>
      rw [← known]
      exact (wider found).symm

end Part

namespace Depth

/-- The names that a chain crosses, from the outside in. -/
def crossings (chain : List Link) : List String := chain.filterMap (·.selection.spreadName?)

variable {limits : DepthLimits} {root : CorpusDocument} {part fragments : List (Sourced Fragment)}
  {s t : Scope} {link : Link} {chain : List Link} {position : Nat} {n : FieldNode} {v : Violation}

section Crossing

variable (distinct : (fragments.map (·.node.name.text)).Nodup) (inside : part ⊆ fragments)

include distinct inside

theorem enters_part : Enters part s link t ↔ Enters fragments s link t ∧
    ∀ name ∈ link.selection.spreadName?, ∃ f ∈ part, f.node.name.text = name := by
  -- only a spread asks for a fragment
  constructor
  · intro enters
    cases enters with
    | field found => exact ⟨.field found, by simp [Selection.spreadName?]⟩
    | inline found => exact ⟨.inline found, by simp [Selection.spreadName?]⟩
    | spread found fresh known =>
      obtain ⟨wider, held⟩ := (lastNamed_part distinct inside).mp known
      exact ⟨.spread found fresh wider, by simpa [Selection.spreadName?] using held⟩
  · rintro ⟨enters, held⟩
    cases enters with
    | field found => exact .field found
    | inline found => exact .inline found
    | spread found fresh known =>
      exact .spread found fresh ((lastNamed_part distinct inside).mpr ⟨known, held _ rfl⟩)

/-- With a part of the fragments, a chain may cross these and no others. -/
theorem chain_part : Chain part s chain t ↔ Chain fragments s chain t ∧
    ∀ name ∈ crossings chain, ∃ f ∈ part, f.node.name.text = name := by
  have allowed : Chain part s chain t ↔ Chain fragments s chain t ∧ ∀ link ∈ chain,
      ∀ name ∈ link.selection.spreadName?, ∃ f ∈ part, f.node.name.text = name :=
    steps_allowed fun s link t => enters_part distinct inside
  rw [allowed]
  refine and_congr_right fun _ => ?_
  simp only [crossings, List.mem_filterMap]
  constructor
  · rintro held name ⟨link, member, named⟩
    exact held link member name named
  · intro held link member name named
    exact held name ⟨link, member, named⟩

theorem chainTo_part : ChainTo limits root part v chain position n ↔
    ChainTo limits root fragments v chain position n ∧
      ∀ name ∈ crossings chain, ∃ f ∈ part, f.node.name.text = name := by
  constructor
  · rintro ⟨⟨t, steps, stands, placed⟩, opens, tells⟩
    obtain ⟨steps, held⟩ := (chain_part distinct inside).mp steps
    exact ⟨⟨⟨t, steps, stands, placed⟩, opens, tells⟩, held⟩
  · rintro ⟨⟨⟨t, steps, stands, placed⟩, opens, tells⟩, held⟩
    exact ⟨⟨t, (chain_part distinct inside).mpr ⟨steps, held⟩, stands, placed⟩, opens, tells⟩

end Crossing

/-- Names are all that a check asks its fragments for. -/
theorem check_eq_of_lastNamed (same : ∀ name, lastNamed name part = lastNamed name fragments) :
    check limits root part = check limits root fragments := by
  have agree : AgreeOn (fun _ => True) (enterableFrom root part) (enterableFrom root fragments) := by
    refine ⟨fun name _ => ?_, fun _ _ _ _ _ _ => trivial⟩
    ext f
    rw [uncrossed_enterableFrom root part, uncrossed_enterableFrom root fragments, same]
  rw [check_eq, check_eq, rootHits, agree.hits_eq fun _ _ => trivial, ← rootHits]

/-- What a check with a part of the fragments has to do with the check with all of them. -/
structure PartialCheck (limits : DepthLimits) (root : CorpusDocument)
    (part fragments : List (Sourced Fragment)) : Prop where
  /-- Nothing is reported that is not reported with all fragments, and in the same words. -/
  sound : ∀ v ∈ check limits root part, v ∈ check limits root fragments
  /-- Of what is reported with all fragments, that is reported to which some chain leads across
  fragments of the part alone. -/
  kept : ∀ v, v ∈ check limits root part ↔ ∃ chain position n,
    ChainTo limits root fragments v chain position n ∧
      ∀ name ∈ crossings chain, ∃ f ∈ part, f.node.name.text = name
  /-- All fragments, in whatever order, give the same list. -/
  reordered : part.Perm fragments → check limits root part = check limits root fragments

/-- Some of the fragments give a part of the violations, if names are distinct. -/
theorem check_part (limits : DepthLimits) (root : CorpusDocument)
    (distinct : (fragments.map (·.node.name.text)).Nodup) (inside : part ⊆ fragments) :
    PartialCheck limits root part fragments := by
  have kept (v : Violation) : v ∈ check limits root part ↔ ∃ chain position n,
      ChainTo limits root fragments v chain position n ∧
        ∀ name ∈ crossings chain, ∃ f ∈ part, f.node.name.text = name := by
    simp only [mem_check_iff_chainTo, chainTo_part distinct inside]
  refine ⟨fun v reported => ?_, kept, fun perm => ?_⟩
  · obtain ⟨chain, position, n, leads, _⟩ := (kept v).mp reported
    exact mem_check_iff_chainTo.mpr ⟨chain, position, n, leads⟩
  · exact check_eq_of_lastNamed (lastNamed_perm distinct perm)

open Sketch in
/-- Of two fragments that spread each other, the one that the query spreads is given. -/
theorem halfCycle_check_part :
    let limits : DepthLimits := ⟨1, []⟩
    let root : CorpusDocument := (query [field "a" [spread "F"]]).map .operation
    let f := fragment "F" [field "b" [field "c" []], spread "G"]
    let g := fragment "G" [field "d" [field "e" []], spread "F"]
    ([g, f].map (·.node.name.text)).Nodup ∧ [f] ⊆ [g, f] ∧
      (check limits root [f]).map (·.fieldName) = ["b"] ∧
      (check limits root [g, f]).map (·.fieldName) = ["b", "d"] ∧
      PartialCheck limits root [f] [g, f] := by
  intro limits root f g
  have distinct : ([g, f].map (·.node.name.text)).Nodup := by decide
  have inside : [f] ⊆ [g, f] := List.subset_cons_self ..
  exact ⟨distinct, inside, by decide +kernel, by decide +kernel,
    check_part limits root distinct inside⟩

end Depth

end QueryAudit
