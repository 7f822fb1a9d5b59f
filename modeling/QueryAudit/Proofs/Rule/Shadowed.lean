import QueryAudit.Proofs.Depth.Shadowed
import QueryAudit.Proofs.Rule.SelectionDepth

/-! Shadowed definitions and the rule on depth. To leave them out of a corpus can bring up findings
that the rule did not make before: a shadowed definition that is a target keeps what it reaches from
being one, and its own walk may see less of it. That is the only way. -/
namespace QueryAudit.Session

variable {session : Session} {limits : DepthLimits} {cache cache' : UsedFields.Cache}

/-- A rule has something to report. -/
def Finds (session : Session) (rule : Rule) (cache : UsedFields.Cache) : Prop :=
  ∃ first rest, ((session.check rule) cache).value.1 = .ok (first :: rest)

theorem not_finds {rule : Rule} (silent : ((session.check rule) cache).value.1 = .ok []) :
    ¬ session.Finds rule cache := by
  rintro ⟨first, rest, found⟩
  cases silent.symm.trans found

theorem finds_selectionDepth_iff : session.Finds (Rule.selectionDepth limits) cache ↔
    ∃ d ∈ Depth.targets session.index.value,
      Depth.check limits d (Closure.resolve session.index.value d).fragments ≠ [] := by
  rw [Finds, value_check_selectionDepth]
  simp only [Except.ok.injEq, ← List.ne_nil_iff_exists_cons, ne_eq, List.flatMap_eq_nil_iff,
    List.map_eq_nil_iff, not_forall, exists_prop]

/-- What the rule finds without shadowed definitions it finds with them, or one that is a target and
clear itself eclipses a target of the corpus without them. -/
theorem finds_or_eclipsed (session bare : Session)
    (without : bare.index.value = session.index.value.withoutShadowed)
    (found : bare.Finds (Rule.selectionDepth limits) cache) :
    session.Finds (Rule.selectionDepth limits) cache' ∨
      ∃ s t, Depth.Eclipses limits session.index.value s t := by
  rw [finds_selectionDepth_iff, without] at found
  obtain ⟨d, wanted, deep⟩ := found
  rw [CorpusIndex.resolve_withoutShadowed] at deep
  exact (Depth.found_or_eclipsed wanted deep).imp_left finds_selectionDepth_iff.mpr

/-- A session over a corpus, where neither schema nor configuration matters. -/
def ofIndex (index : CorpusIndex) : Session := { (default : Session) with index := ⟨0, index⟩ }

open Sketch in
/-- A cycle of two fragments, which a shadowed definition enters at the second. -/
def enteredByShadowed : CorpusIndex where
  operations := []
  fragments := [fragment "S" [spread "A"], fragment "S" [field "z" []],
    fragment "T" [field "x" [spread "A"]], fragment "A" [spread "T", field "y" [field "z" []]]]

open Rule in
theorem enteredByShadowed_bare_finds :
    (ofIndex enteredByShadowed.withoutShadowed).Finds (selectionDepth ⟨1, []⟩) {} :=
  ⟨depthDiagnostic ⟨⟨some "A", [1]⟩, "y", 2, 1, none, "T"⟩, [], by decide +kernel⟩

open Rule in
theorem enteredByShadowed_finds_or_eclipsed :
    (ofIndex enteredByShadowed.withoutShadowed).Finds (selectionDepth ⟨1, []⟩) {} ∧
      ((ofIndex enteredByShadowed).Finds (selectionDepth ⟨1, []⟩) {} ∨
        ∃ s t, Depth.Eclipses ⟨1, []⟩ enteredByShadowed s t) :=
  ⟨enteredByShadowed_bare_finds,
    finds_or_eclipsed (ofIndex enteredByShadowed) _ rfl enteredByShadowed_bare_finds⟩

open Sketch in
/-- A fragment that a shadowed definition spreads out of sight. -/
def hiddenByShadowed : CorpusIndex where
  operations := []
  fragments := [fragment "S" [field "__typename" [spread "G"]], fragment "S" [field "z" []],
    fragment "G" [field "x" [field "y" [field "z" []]]]]

open Rule in
/-- A shadowed definition can silence the rule: in one corpus the walk enters a cycle at another
fragment and is cut short there, in the other it does not enter the field that holds the spread. -/
theorem shadowed_silences :
    ((ofIndex enteredByShadowed.withoutShadowed).Finds (selectionDepth ⟨1, []⟩) {} ∧
      ¬ (ofIndex enteredByShadowed).Finds (selectionDepth ⟨1, []⟩) {}) ∧
    (ofIndex hiddenByShadowed.withoutShadowed).Finds (selectionDepth ⟨1, []⟩) {} ∧
      ¬ (ofIndex hiddenByShadowed).Finds (selectionDepth ⟨1, []⟩) {} := by
  refine ⟨⟨enteredByShadowed_bare_finds, not_finds (by decide +kernel)⟩, ?_, not_finds (by decide +kernel)⟩
  exact ⟨depthDiagnostic ⟨⟨none, [0, 0]⟩, "y", 2, 1, none, "G"⟩, [], by decide +kernel⟩

end QueryAudit.Session
