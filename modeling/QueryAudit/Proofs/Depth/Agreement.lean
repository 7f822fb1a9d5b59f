import QueryAudit.Proofs.Corpus.Closure
import QueryAudit.Proofs.Depth.Account

/-! What a walk of depth needs to know. It looks up the names that it comes by and no others, so
lists of fragments that agree on these give the same hits. The closure of a root agrees with the
whole index on all that a walk from the root comes by. -/
namespace QueryAudit.Depth

variable {limits : DepthLimits} {rootName : String} {names : String → Prop}
  {first second : List (Sourced Fragment)} {place : Place} {level position : Nat}
  {body : List Selection}

/-- Two lists agree on a set of names which the fragments of these names do not lead out of. -/
structure AgreeOn (names : String → Prop) (first second : List (Sourced Fragment)) : Prop where
  same : ∀ name, names name → lastNamed name first = lastNamed name second
  closed : ∀ name f, names name → lastNamed name first = some f →
    ∀ other, SpreadIn other f.node.body → names other

theorem AgreeOn.leaving (agree : AgreeOn names first second) (name : String) :
    AgreeOn names (leaving name first) (leaving name second) := by
  constructor
  · intro other member
    by_cases same : other = name
    · rw [same, lastNamed_leaving_self, lastNamed_leaving_self]
    · rw [lastNamed_leaving same, lastNamed_leaving same, agree.same other member]
  · intro other f member found
    by_cases same : other = name
    · rw [same, lastNamed_leaving_self] at found
      cases found
    · rw [lastNamed_leaving same] at found
      exact agree.closed other f member found

/-- A walk through a body that spreads only names of the set finds the same with both lists. -/
theorem AgreeOn.hits_eq (agree : AgreeOn names first second)
    (inside : ∀ name, SpreadIn name body → names name) :
    hits limits rootName first place level position body =
      hits limits rootName second place level position body := by
  induction first, body using walk_induction generalizing second place level position with
  | nil => rw [hits, hits]
  | field first head body rest within after =>
    simp only [spreadIn_field, or_imp, forall_and] at inside
    rw [hits, hits, after agree inside.2]
    simp only [within agree inside.1]
  | inline first head body rest within after =>
    simp only [spreadIn_inline, or_imp, forall_and] at inside
    rw [hits, hits, within agree inside.1, after agree inside.2]
  | spread first head rest within after =>
    simp only [spreadIn_spread, or_imp, forall_and, forall_eq'] at inside
    rw [hits_spread, hits_spread, after agree inside.2, ← agree.same _ inside.1]
    cases found : lastNamed head.name.text first with
    | none => rfl
    | some f =>
      have onward := agree.closed _ f inside.1 found
      rw [Option.elim_some, Option.elim_some, within f found (agree.leaving _) onward]

/-- What a walk from a root comes by: the names that the root reaches, and its own. -/
def ComesBy (index : CorpusIndex) (root : CorpusDocument) (name : String) : Prop :=
  Closure.Reachable index root name ∨ root.node.fragmentName? = some name

variable {index : CorpusIndex} {root : CorpusDocument}

theorem comesBy_of_step {via name : String}
    (step : index.Reaches root.node.fragmentName?.toList (SpreadIn · root.node.body) via)
    (edge : index.SpreadsTo via name) : ComesBy index root name := by
  by_cases own : root.node.fragmentName? = some name
  · exact .inr own
  · exact .inl (.step step edge (by simpa using own))

theorem comesBy_of_spread {name : String} (spread : SpreadIn name root.node.body) :
    ComesBy index root name := by
  by_cases own : root.node.fragmentName? = some name
  · exact .inr own
  · exact .inl (.start spread (by simpa using own))

/-- The closure and the index agree on what a walk comes by: a name that is reached stands in the
closure for what it stands for in the index, and the root's own name is never entered. -/
theorem agreeOn_resolve (index : CorpusIndex) (root : CorpusDocument) :
    AgreeOn (ComesBy index root)
      (enterableFrom root (Closure.resolve index root).fragments)
      (enterableFrom root index.fragments) := by
  have closure := uncrossed_enterableFrom root (Closure.resolve index root).fragments
  have whole := uncrossed_enterableFrom root index.fragments
  constructor
  · rintro name (reached | own)
    · ext f
      rw [closure, whole, Closure.lastNamed_resolve_iff, and_iff_right reached]
      rfl
    · ext f
      rw [closure, whole]
      simp [own]
  · rintro name f _ found other spread
    obtain ⟨_, found⟩ := (closure name f).mp found
    obtain ⟨reached, known⟩ := (Closure.lastNamed_resolve_iff ..).mp found
    exact comesBy_of_step reached ⟨f, known, spread⟩

theorem rootHits_resolve (limits : DepthLimits) (index : CorpusIndex) (root : CorpusDocument) :
    rootHits limits root (Closure.resolve index root).fragments =
      rootHits limits root index.fragments :=
  (agreeOn_resolve index root).hits_eq fun _ => comesBy_of_spread

/-- The closure of a root is all that a check of its depth needs of the corpus. -/
theorem check_resolve (limits : DepthLimits) (index : CorpusIndex) (root : CorpusDocument) :
    check limits root (Closure.resolve index root).fragments =
      check limits root index.fragments := by
  rw [check_eq, check_eq, rootHits_resolve]

end QueryAudit.Depth
