import QueryAudit.Depth.Walk
import QueryAudit.Proofs.Corpus.Named
import QueryAudit.Proofs.Corpus.SpreadGraph
import QueryAudit.Proofs.Document.DepthFirst

/-! Walks that find nothing. Such a walk goes through the whole of a body, so it enters every
fragment that is spread there in its sight and may be entered. And it finds nothing either if it
starts higher up or may enter less of what it sees. -/
namespace QueryAudit

/-- No spread hides beneath a field that walks pass over for its name. -/
def SpreadsVisible (body : List Selection) : Prop :=
  ∀ head inner, Occurs (.field head inner) body → head.name.text.startsWith "__" →
    ∀ name, ¬ SpreadIn name inner

@[simp] theorem spreadsVisible_nil : SpreadsVisible [] := by simp [SpreadsVisible]

@[simp] theorem spreadsVisible_field (head : FieldHead) (body rest : List Selection) :
    SpreadsVisible (.field head body :: rest) ↔
      (head.name.text.startsWith "__" → ∀ name, ¬ SpreadIn name body) ∧
      SpreadsVisible body ∧ SpreadsVisible rest := by
  simp only [SpreadsVisible, occurs_cons, Selection.inner_field, Selection.field.injEq]
  constructor
  · intro visible
    exact ⟨visible head body (.inl ⟨rfl, rfl⟩),
      fun other inner occurs => visible other inner (.inr (.inl occurs)),
      fun other inner occurs => visible other inner (.inr (.inr occurs))⟩
  · rintro ⟨here, inside, later⟩ other inner (⟨rfl, rfl⟩ | nested | after)
    · exact here
    · exact inside other inner nested
    · exact later other inner after

@[simp] theorem spreadsVisible_inline (head : InlineHead) (body rest : List Selection) :
    SpreadsVisible (.inline head body :: rest) ↔ SpreadsVisible body ∧ SpreadsVisible rest := by
  simp [SpreadsVisible, or_imp, forall_and]

@[simp] theorem spreadsVisible_spread (head : SpreadHead) (rest : List Selection) :
    SpreadsVisible (.spread head :: rest) ↔ SpreadsVisible rest := by
  simp [SpreadsVisible]

/-- A body spreads a name in sight of walks, not beneath a field that they pass over. -/
inductive InSight (name : String) : List Selection → Prop where
  | spread : head.name.text = name → InSight name (.spread head :: rest)
  | field : head.name.text.startsWith "__" = false → InSight name body →
      InSight name (.field head body :: rest)
  | inline : InSight name body → InSight name (.inline head body :: rest)
  | later : InSight name rest → InSight name (selection :: rest)

/-- What a body spreads is in sight unless something hides it. -/
theorem inSight_of_visible {name : String} {body : List Selection} (visible : SpreadsVisible body)
    (spread : SpreadIn name body) : InSight name body := by
  induction body using selections_induction with
  | nil => simp at spread
  | field head body rest inside after =>
    obtain ⟨unhidden, within, beyond⟩ := (spreadsVisible_field ..).mp visible
    rcases (spreadIn_field ..).mp spread with nested | later
    · refine .field (Bool.eq_false_iff.mpr fun hidden => ?_) (inside within nested)
      exact unhidden hidden name nested
    · exact .later (after beyond later)
  | inline head body rest inside after =>
    obtain ⟨within, beyond⟩ := (spreadsVisible_inline ..).mp visible
    rcases (spreadIn_inline ..).mp spread with nested | later
    · exact .inline (inside within nested)
    · exact .later (after beyond later)
  | spread head rest after =>
    rcases (spreadIn_spread ..).mp spread with same | later
    · exact .spread same
    · exact .later (after ((spreadsVisible_spread ..).mp visible) later)

namespace Depth

variable {limits : DepthLimits} {rootName : String} {enterable : List (Sourced Fragment)}
  {place : Place} {level position : Nat} {rest body : List Selection}

/-- Walks go down a body and, at a spread, into a fragment that no walk enters again from there. -/
@[elab_as_elim]
theorem walk_induction {motive : List (Sourced Fragment) → List Selection → Prop}
    (nil : ∀ enterable, motive enterable [])
    (field : ∀ enterable head body rest, motive enterable body → motive enterable rest →
      motive enterable (.field head body :: rest))
    (inline : ∀ enterable head body rest, motive enterable body → motive enterable rest →
      motive enterable (.inline head body :: rest))
    (spread : ∀ enterable (head : SpreadHead) rest,
      (∀ f, lastNamed head.name.text enterable = some f →
        motive (leaving head.name.text enterable) f.node.body) →
      motive enterable rest → motive enterable (.spread head :: rest))
    (enterable : List (Sourced Fragment)) (body : List Selection) : motive enterable body := by
  refine hits.induct default "" (fun enterable _ _ _ body => motive enterable body) ?_ ?_ ?_ ?_
    enterable default 0 0 body
  · exact fun enterable _ _ _ => nil enterable
  · exact fun enterable _ _ _ head body rest inside _ after =>
      field enterable head body rest inside after
  · exact fun enterable _ _ _ head body rest inside after =>
      inline enterable head body rest inside after
  · exact fun enterable _ _ _ head rest inside after => spread enterable head rest inside after

/-- A field is clear if the walk passes it by, or enters it and finds nothing inside. -/
theorem hits_field_eq_nil (head : FieldHead) :
    hits limits rootName enterable place level position (.field head body :: rest) = [] ↔
      (body = [] ∨ head.name.text.startsWith "__" = true ∨
        (limits.isIgnored head.name.text = true ∧
          hits limits rootName enterable (place.child position) level 0 body = []) ∨
        (limits.isIgnored head.name.text = false ∧ level < limits.maxDepth ∧
          hits limits rootName enterable (place.child position) (level + 1) 0 body = [])) ∧
      hits limits rootName enterable place level (position + 1) rest = [] := by
  rw [hits, List.append_eq_nil_iff]
  refine and_congr_left fun _ => ?_
  by_cases leaf : body = []
  · simp [leaf]
  cases head.name.text.startsWith "__" with
  | true => simp
  | false =>
    cases limits.isIgnored head.name.text with
    | true => simp [leaf]
    | false =>
      by_cases deep : limits.maxDepth < level + 1
      · have : ¬ level < limits.maxDepth := by omega
        simp [leaf, deep, this]
      · have : level < limits.maxDepth := by omega
        simp [leaf, deep, this]

theorem hits_inline_eq_nil (head : InlineHead) :
    hits limits rootName enterable place level position (.inline head body :: rest) = [] ↔
      hits limits rootName enterable (place.child position) level 0 body = [] ∧
      hits limits rootName enterable place level (position + 1) rest = [] := by
  rw [hits, List.append_eq_nil_iff]

/-- At a spread the walk goes through the fragment that it may enter there, if any. -/
theorem hits_spread (head : SpreadHead) :
    hits limits rootName enterable place level position (.spread head :: rest) =
      ((lastNamed head.name.text enterable).elim [] fun f =>
        hits limits rootName (leaving head.name.text enterable) (.ofFragment f) level 0
          f.node.body) ++
      hits limits rootName enterable place level (position + 1) rest := by
  rw [hits]
  congr 1
  split
  · next unknown => rw [unknown, Option.elim_none]
  · next f found => rw [found, Option.elim_some]

theorem hits_spread_eq_nil (head : SpreadHead) :
    hits limits rootName enterable place level position (.spread head :: rest) = [] ↔
      (∀ f, lastNamed head.name.text enterable = some f →
        hits limits rootName (leaving head.name.text enterable) (.ofFragment f) level 0
          f.node.body = []) ∧
      hits limits rootName enterable place level (position + 1) rest = [] := by
  rw [hits, List.append_eq_nil_iff]
  refine and_congr_left fun _ => ?_
  split
  · next unknown => simp [unknown]
  · next f found => simp [found]

theorem lastNamed_leaving {name other : String} {fragments : List (Sourced Fragment)}
    (apart : other ≠ name) :
    lastNamed other (leaving name fragments) = lastNamed other fragments := by
  refine lastNamed_filter _ fun f _ same => ?_
  simp [same, apart]

theorem lastNamed_leaving_self (name : String) (fragments : List (Sourced Fragment)) :
    lastNamed name (leaving name fragments) = none := by
  rw [lastNamed_eq_none_iff]
  simp [leaving]

/-- Of some names, one list of fragments offers at most what another does, and the fragments that it
offers show no other names to a walk. -/
structure OffersOf (names : String → Prop) (wide narrow : List (Sourced Fragment)) : Prop where
  offers : ∀ name f, names name → lastNamed name narrow = some f → lastNamed name wide = some f
  closed : ∀ name f, names name → lastNamed name narrow = some f →
    ∀ other, InSight other f.node.body → names other

theorem OffersOf.leaving {names : String → Prop} {wide narrow : List (Sourced Fragment)}
    (offers : OffersOf names wide narrow) (name : String) :
    OffersOf names (leaving name wide) (leaving name narrow) := by
  have narrower {other : String} {f : Sourced Fragment}
      (found : lastNamed other (Depth.leaving name narrow) = some f) :
      other ≠ name ∧ lastNamed other narrow = some f := by
    by_cases same : other = name
    · rw [same, lastNamed_leaving_self] at found
      cases found
    · exact ⟨same, (lastNamed_leaving same).symm.trans found⟩
  constructor
  · intro other f member found
    obtain ⟨apart, found⟩ := narrower found
    rw [lastNamed_leaving apart]
    exact offers.offers other f member found
  · intro other f member found
    exact offers.closed other f member (narrower found).2

/-- What is clear at a level, with some fragments to enter, is clear higher up and with fewer of
them. Names and places only tell what is found. -/
theorem OffersOf.hits_eq_nil {names : String → Prop} {wide narrow : List (Sourced Fragment)}
    {low high : Nat} {rootName' : String} {place' : Place} {position' : Nat}
    (offers : OffersOf names wide narrow) (seen : ∀ name, InSight name body → names name)
    (above : high ≤ low) (clear : hits limits rootName wide place low position body = []) :
    hits limits rootName' narrow place' high position' body = [] := by
  induction wide, body using walk_induction
    generalizing narrow place place' low high position position' with
  | nil => simp [hits]
  | field wide head body rest inside after =>
    rw [hits_field_eq_nil] at clear ⊢
    refine ⟨?_, after offers (fun name later => seen name (.later later)) above clear.2⟩
    cases hidden : head.name.text.startsWith "__" with
    | true => exact .inr (.inl rfl)
    | false =>
      have within (name : String) (nested : InSight name body) := seen name (.field hidden nested)
      rcases clear.1 with leaf | started | ⟨ignored, clear⟩ | ⟨counted, room, clear⟩
      · exact .inl leaf
      · simp [hidden] at started
      · exact .inr (.inr (.inl ⟨ignored, inside offers within above clear⟩))
      · exact .inr (.inr (.inr ⟨counted, by omega, inside offers within (by omega) clear⟩))
  | inline wide head body rest inside after =>
    rw [hits_inline_eq_nil] at clear ⊢
    exact ⟨inside offers (fun name nested => seen name (.inline nested)) above clear.1,
      after offers (fun name later => seen name (.later later)) above clear.2⟩
  | spread wide head rest inside after =>
    rw [hits_spread_eq_nil] at clear ⊢
    refine ⟨fun f found => ?_, after offers (fun name later => seen name (.later later)) above
      clear.2⟩
    have member := seen _ (.spread rfl)
    have entered := offers.offers _ f member found
    exact inside f entered (offers.leaving _) (offers.closed _ f member found) above
      (clear.1 f entered)

/-- The same without regard to what a walk sees. -/
theorem hits_eq_nil_mono {wide narrow : List (Sourced Fragment)} {low high : Nat}
    {rootName' : String} {place' : Place} {position' : Nat}
    (offers : ∀ name f, lastNamed name narrow = some f → lastNamed name wide = some f)
    (above : high ≤ low) (clear : hits limits rootName wide place low position body = []) :
    hits limits rootName' narrow place' high position' body = [] := by
  have all : OffersOf (fun _ => True) wide narrow :=
    ⟨fun name f _ => offers name f, fun _ _ _ _ _ _ => trivial⟩
  exact all.hits_eq_nil (fun _ _ => trivial) above clear

/-- A clear walk has entered each fragment that is spread before its eyes. -/
theorem hits_eq_nil_inSight {name : String} {f : Sourced Fragment} (seen : InSight name body)
    (found : lastNamed name enterable = some f)
    (clear : hits limits rootName enterable place level position body = []) :
    ∃ deeper, hits limits rootName (leaving name enterable) (.ofFragment f) deeper 0
      f.node.body = [] := by
  induction seen generalizing place level position with
  | spread same =>
    subst same
    exact ⟨level, ((hits_spread_eq_nil ..).mp clear).1 f found⟩
  | field limited nested ih =>
    rcases ((hits_field_eq_nil ..).mp clear).1 with rfl | hidden | ⟨_, clear⟩ | ⟨_, _, clear⟩
    · cases nested
    · simp [limited] at hidden
    · exact ih clear
    · exact ih clear
  | inline _ ih => exact ih ((hits_inline_eq_nil ..).mp clear).1
  | @later _ selection _ ih =>
    cases selection with
    | field => exact ih ((hits_field_eq_nil ..).mp clear).2
    | inline => exact ih ((hits_inline_eq_nil ..).mp clear).2
    | spread => exact ih ((hits_spread_eq_nil ..).mp clear).2

theorem firstsBy_eq_nil_iff [DecidableEq κ] (key : α → κ) (items : List α) :
    firstsBy key items = [] ↔ items = [] := by
  cases items <;> simp [firstsBy]

/-- The fragments that a check of a root may enter. -/
def enterableFrom (root : CorpusDocument) (fragments : List (Sourced Fragment)) :
    List (Sourced Fragment) :=
  match root.node.fragmentName? with
  | some name => leaving name fragments
  | none => fragments

theorem check_eq_nil_iff (root : CorpusDocument) (fragments : List (Sourced Fragment)) :
    check limits root fragments = [] ↔
      hits limits root.node.displayName (enterableFrom root fragments) (.ofRoot root) 0 0
        root.node.body = [] :=
  firstsBy_eq_nil_iff ..

end Depth

end QueryAudit
