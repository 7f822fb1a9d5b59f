import QueryAudit.Proofs.Corpus.Unfolding
import QueryAudit.Proofs.Depth.Account

/-! Where a name that stands for nothing is met first. The search notes such a name with the spread
that it settles the name at. Among all spreads of the name that chains from the root come to, this
is the one that is met first. -/
namespace QueryAudit.Closure

open Depth

/-- A spread, and the place of the selections that it stands among. -/
structure Meeting where
  place : Depth.Place
  head : SpreadHead

def Meeting.name (m : Meeting) : String := m.head.name.text

/-- What is noted of a spread that leads nowhere. -/
def Meeting.missing (m : Meeting) : MissingFragment :=
  ⟨m.name, m.place.locate m.head.position, m.place.sourcePath⟩

/-- The spreads that lead nowhere, as they are met when a body is unfolded; the first selection
stands at `position` among its siblings. -/
def lost (index : CorpusIndex) (path : List String) (place : Depth.Place) (position : Nat) :
    List Selection → List Meeting
  | [] => []
  | .field _ body :: rest =>
    lost index path (place.child position) 0 body ++ lost index path place (position + 1) rest
  | .inline _ body :: rest =>
    lost index path (place.child position) 0 body ++ lost index path place (position + 1) rest
  | .spread head :: rest =>
    let name := head.name.text
    let here :=
      if name ∈ path then []
      else
        match _found : index.fragment? name with
        | none => [⟨place, head⟩]
        | some f => lost index (name :: path) (.ofFragment f) 0 f.node.body
    here ++ lost index path place (position + 1) rest
termination_by selections =>
  total (fun f => sizeOf f.node.body) (unsettled index path) + sizeOf selections
decreasing_by
  all_goals first
    | exact Nat.lt_of_le_of_lt (total_unsettled_add_le (fun f => sizeOf f.node.body)
        (by assumption) _found) (Nat.lt_add_of_pos_right (by rw [List.cons.sizeOf_spec]; omega))
    | simp only [List.cons.sizeOf_spec, Selection.field.sizeOf_spec, Selection.inline.sizeOf_spec]
      omega

variable {index : CorpusIndex} {path settled other : List String} {place : Depth.Place}
  {position i : Nat} {body rest : List Selection} {name : String} {s t : Scope} {m : Meeting}
  {trail more : List Nat}

theorem lost_spread (head : SpreadHead) :
    lost index path place position (.spread head :: rest) =
      (if head.name.text ∈ path then []
        else (index.fragment? head.name.text).elim [⟨place, head⟩] fun f =>
          lost index (head.name.text :: path) (.ofFragment f) 0 f.node.body) ++
      lost index path place (position + 1) rest := by
  rw [lost]
  congr 1
  split
  · rfl
  · split
    · next unknown => rw [unknown, Option.elim_none]
    · next f found => rw [found, Option.elim_some]

/-- The names that lead nowhere are those that unfolding meets and nothing stands for. -/
theorem mem_lost_names (index : CorpusIndex) (path : List String) (body : List Selection)
    (name : String) : ∀ place position,
      name ∈ (lost index path place position body).map (·.name) ↔
        name ∈ unfolding index path body ∧ index.fragment? name = none := by
  induction path, body using unfolding_induction index with
  | nil path => simp [lost, unfolding]
  | field path head body rest inside after =>
    intro place position
    rw [lost, unfolding, List.map_append, List.mem_append, List.mem_append, inside, after,
      or_and_right]
  | inline path head body rest inside after =>
    intro place position
    rw [lost, unfolding, List.map_append, List.mem_append, List.mem_append, inside, after,
      or_and_right]
  | spread path head rest inside after =>
    intro place position
    rw [lost_spread, List.map_append, List.mem_append, after, mem_unfolding_spread, or_and_right]
    refine or_congr_left ?_
    by_cases cut : head.name.text ∈ path
    · simp [cut]
    · rw [if_neg cut]
      cases found : index.fragment? head.name.text with
      | none =>
        simp only [Option.elim_none, List.map_cons, List.map_nil, List.mem_singleton, Meeting.name]
        grind
      | some f =>
        rw [Option.elim_some, inside f cut found]
        grind

/-- The first meetings with names that are not settled yet. -/
def firstLost (settled : List String) (met : List Meeting) : List Meeting :=
  firstsBy (·.name) (met.filter (·.name ∉ settled))

theorem firstLost_eq_nil {met : List Meeting} (old : ∀ m ∈ met, m.name ∈ settled) :
    firstLost settled met = [] := by
  rw [firstLost, List.filter_eq_nil_iff.mpr (by simpa using old), firstsBy]

theorem firstLost_single (fresh : m.name ∉ settled) : firstLost settled [m] = [m] := by
  simp [firstLost, fresh, firstsBy]

theorem firstLost_congr {met : List Meeting}
    (same : ∀ m ∈ met, m.name ∈ settled ↔ m.name ∈ other) :
    firstLost settled met = firstLost other met := by
  rw [firstLost, firstLost, List.filter_congr]
  intro m member
  simp [same m member]

/-- What is new behind others is what they do not have. -/
theorem firstLost_append {first second : List Meeting} (after : ∀ m ∈ second,
    m.name ∈ other ↔ m.name ∈ settled ∨ m.name ∈ first.map (·.name)) :
    firstLost settled (first ++ second) = firstLost settled first ++ firstLost other second := by
  rw [firstLost, List.filter_append, firstsBy_append, List.filter_filter]
  congr 2
  refine List.filter_congr fun m member => ?_
  have settles := after m member
  simp only [List.mem_map, List.mem_filter] at settles ⊢
  grind

/-- After a search through a body, what unfolding the body meets is settled. -/
theorem Explored.mem_settledBy_follow (explored : Explored index path settled) (s : Sourced α)
    (body : List Selection) (name : String) :
    name ∈ (Closure.follow index settled (pending s body)).settledBy settled ↔
      name ∈ settled ∨ name ∈ unfolding index path body := by
  rw [(lists_unfolding index path body settled explored s).mem_settledBy, mem_news]
  grind

/-- What two searches note one after the other. -/
theorem Explored.missing_append (explored : Explored index path settled)
    {first second : List Selection} (s : Sourced α) {met later : List Meeting}
    (names : ∀ name, name ∈ met.map (·.name) ↔
      name ∈ unfolding index path first ∧ index.fragment? name = none)
    (unknown : ∀ m ∈ later, index.fragment? m.name = none)
    (here : (Closure.follow index settled (pending s first)).missing =
      (firstLost settled met).map (·.missing))
    (behind : ∀ settled, Explored index path settled →
      (Closure.follow index settled (pending s second)).missing =
        (firstLost settled later).map (·.missing)) :
    (Closure.follow index settled (pending s first ++ pending s second)).missing =
      (firstLost settled (met ++ later)).map (·.missing) := by
  have after : ∀ m ∈ later,
      m.name ∈ (Closure.follow index settled (pending s first)).settledBy settled ↔
        m.name ∈ settled ∨ m.name ∈ met.map (·.name) := by
    intro m member
    rw [explored.mem_settledBy_follow s first, names, and_iff_left (unknown m member)]
  rw [follow_append, firstLost_append after, List.map_append, ← here,
    ← behind _ (explored.follow (pending s first))]
  rfl

theorem unknown_of_lost (met : m ∈ lost index path place position body) :
    index.fragment? m.name = none :=
  ((mem_lost_names index path body m.name place position).mp (List.mem_map_of_mem met)).2

/-- At a spread, the search notes the name if it is new and leads nowhere. -/
theorem Explored.missing_spread (explored : Explored index path settled) (place : Depth.Place)
    (head : SpreadHead)
    (inside : ∀ f, head.name.text ∉ path → index.fragment? head.name.text = some f →
      (Closure.follow index (head.name.text :: settled) (pending f f.node.body)).missing =
        (firstLost (head.name.text :: settled)
          (lost index (head.name.text :: path) (.ofFragment f) 0 f.node.body)).map (·.missing)) :
    (Closure.follow index settled (pending place [.spread head])).missing =
      (firstLost settled (if head.name.text ∈ path then []
        else (index.fragment? head.name.text).elim [⟨place, head⟩] fun f =>
          lost index (head.name.text :: path) (.ofFragment f) 0 f.node.body)).map (·.missing) := by
  have single : pending place [.spread head] = [place.map fun _ => head] := rfl
  rw [single]
  by_cases cut : head.name.text ∈ path
  · rw [if_pos cut, follow_settled (explored.entered _ cut), Closure.follow]
    rfl
  rw [if_neg cut]
  cases found : index.fragment? head.name.text with
  | none =>
    rw [Option.elim_none]
    by_cases old : head.name.text ∈ settled
    · rw [follow_settled old, Closure.follow, firstLost_eq_nil (by simpa [Meeting.name] using old)]
      rfl
    · rw [follow_missing old found, Closure.follow, firstLost_single old]
      rfl
  | some f =>
    rw [Option.elim_some]
    by_cases old : head.name.text ∈ settled
    · rw [follow_settled old, Closure.follow, firstLost_eq_nil]
      · rfl
      · intro m met
        have names := (mem_lost_names ..).mp (List.mem_map_of_mem met)
        exact explored.mem_of_unfolding (fun n member => List.mem_cons_of_mem _ member)
          (fun next edge => explored.onward _ old cut next ⟨f, found, edge⟩) names.1
    · have apart : ∀ m ∈ lost index (head.name.text :: path) (.ofFragment f) 0 f.node.body,
          m.name ∈ head.name.text :: settled ↔ m.name ∈ settled := by
        intro m met
        have differs : m.name ≠ head.name.text := by
          intro same
          have unknown := unknown_of_lost met
          rw [same, found] at unknown
          cases unknown
        simp [differs]
      rw [follow_found old found, List.append_nil, ← firstLost_congr apart, ← inside f cut found]
      rfl

/-- The search notes the first meetings with names that lead nowhere. -/
theorem missing_follow (index : CorpusIndex) (path : List String) (body : List Selection) :
    ∀ settled, Explored index path settled → ∀ (place : Depth.Place) position,
      (follow index settled (pending place body)).missing =
        (firstLost settled (lost index path place position body)).map (·.missing) := by
  induction path, body using unfolding_induction index with
  | nil path =>
    intro settled explored place position
    have nothing : pending place [] = [] := rfl
    rw [lost, nothing, follow]
    rfl
  | field path head body rest inside after =>
    intro settled explored place position
    have split : pending place (.field head body :: rest) =
      pending place body ++ pending place rest := List.map_append
    rw [lost, split]
    exact explored.missing_append place (fun name => mem_lost_names index path body name _ _)
      (fun m => unknown_of_lost) (inside settled explored (place.child position) 0)
      fun settled explored => after settled explored place _
  | inline path head body rest inside after =>
    intro settled explored place position
    have split : pending place (.inline head body :: rest) =
      pending place body ++ pending place rest := List.map_append
    rw [lost, split]
    exact explored.missing_append place (fun name => mem_lost_names index path body name _ _)
      (fun m => unknown_of_lost) (inside settled explored (place.child position) 0)
      fun settled explored => after settled explored place _
  | spread path head rest inside after =>
    intro settled explored place position
    have split : pending place (.spread head :: rest) =
      pending place [.spread head] ++ pending place rest := rfl
    have parted : lost index path place position (.spread head :: rest) =
        lost index path place position [.spread head] ++
          lost index path place (position + 1) rest := by
      rw [lost_spread, lost_spread, lost, List.append_nil]
    rw [parted, split]
    refine explored.missing_append place (fun name => mem_lost_names index path _ name _ _)
      (fun m => unknown_of_lost) ?_ fun settled explored => after settled explored place _
    rw [lost_spread, lost, List.append_nil]
    exact explored.missing_spread place head fun f fresh found =>
      inside f fresh found _ (explored.enter _) (.ofFragment f) 0

theorem missing_resolve (index : CorpusIndex) (root : CorpusDocument) :
    (resolve index root).missing =
      (firstsBy (·.name) (lost index root.node.fragmentName?.toList (.ofRoot root) 0
        root.node.body)).map (·.missing) := by
  have searched := missing_follow index root.node.fragmentName?.toList root.node.body _
    (explored_path index _) (.ofRoot root) 0
  have fresh : ∀ m ∈ lost index root.node.fragmentName?.toList (.ofRoot root) 0 root.node.body,
      m.name ∉ root.node.fragmentName?.toList := by
    intro m met
    exact not_mem_path_of_unfolding ((mem_lost_names ..).mp (List.mem_map_of_mem met)).1
  rw [firstLost, List.filter_eq_self.mpr (by simpa using fresh)] at searched
  exact searched

/-- A trail leads, along a chain through the corpus, to a spread whose name stands for nothing. -/
def Meets (index : CorpusIndex) (s : Scope) (trail : List Nat) (m : Meeting) : Prop :=
  ∃ chain position t, Chain index.fragments s chain t ∧
    t.body[position]? = some (.spread m.head) ∧ m.place = t.place ∧ m.name ∉ t.crossed ∧
    index.fragment? m.name = none ∧ trail = chain.map (·.position) ++ [position]

theorem not_meets_nil : ¬ Meets index s [] m := by
  rintro ⟨chain, position, t, _, _, _, _, _, split⟩
  simp at split

/-- A trail ends at the spread, or enters a selection and goes on from there. -/
theorem meets_cons : Meets index s (i :: more) m ↔
    (more = [] ∧ s.body[i]? = some (.spread m.head) ∧ m.place = s.place ∧ m.name ∉ s.crossed ∧
      index.fragment? m.name = none) ∨
    ∃ selection t, Enters index.fragments s ⟨i, selection⟩ t ∧ Meets index t more m := by
  constructor
  · rintro ⟨chain, position, t, steps, stands, placed, fresh, unknown, split⟩
    cases steps with
    | nil =>
      obtain ⟨rfl, rfl⟩ : i = position ∧ more = [] := by simpa using split
      exact .inl ⟨rfl, stands, placed, fresh, unknown⟩
    | @cons _ link u links _ first steps =>
      obtain ⟨rfl, rfl⟩ : i = link.position ∧ more = links.map (·.position) ++ [position] := by
        simpa using split
      exact .inr ⟨link.selection, u, first,
        ⟨links, position, t, steps, stands, placed, fresh, unknown, rfl⟩⟩
  · rintro (⟨rfl, stands, placed, fresh, unknown⟩ |
      ⟨selection, t, first, chain, position, u, steps, stands, placed, fresh, unknown, rfl⟩)
    · exact ⟨[], i, s, .nil, stands, placed, fresh, unknown, rfl⟩
    · exact ⟨⟨i, selection⟩ :: chain, position, u, .cons first steps, stands, placed, fresh,
        unknown, rfl⟩

theorem not_meets_beyond (beyond : s.body[i]? = none) : ¬ Meets index s (i :: more) m := by
  rw [meets_cons]
  rintro (⟨_, stands, _⟩ | ⟨selection, t, first, _⟩)
  · simp [beyond] at stands
  · cases first <;> simp_all

/-- Into a field or an inline fragment there is only one way. -/
theorem meets_inner {selection : Selection} (stands : s.body[i]? = some selection)
    (noSpread : ∀ head, selection ≠ .spread head) : Meets index s (i :: more) m ↔
      Meets index ⟨s.crossed, s.place.child i, selection.inner⟩ more m := by
  rw [meets_cons]
  constructor
  · rintro (⟨_, other, _⟩ | ⟨other, t, first, onward⟩)
    · exact absurd (Option.some.inj (stands.symm.trans other)) (noSpread _)
    · cases first with
      | field found =>
        cases stands.symm.trans found
        exact onward
      | inline found =>
        cases stands.symm.trans found
        exact onward
      | spread found => exact absurd (Option.some.inj (stands.symm.trans found)) (noSpread _)
  · intro onward
    cases selection with
    | field head body => exact .inr ⟨_, _, .field stands, onward⟩
    | inline head body => exact .inr ⟨_, _, .inline stands, onward⟩
    | spread head => exact absurd rfl (noSpread head)

theorem meets_spread {head : SpreadHead} (stands : s.body[i]? = some (.spread head)) :
    Meets index s (i :: more) m ↔ head.name.text ∉ s.crossed ∧
      (index.fragment? head.name.text = none ∧ more = [] ∧ m = ⟨s.place, head⟩ ∨
        ∃ f, index.fragment? head.name.text = some f ∧
          Meets index ⟨head.name.text :: s.crossed, .ofFragment f, f.node.body⟩ more m) := by
  rw [meets_cons]
  constructor
  · rintro (⟨rfl, found, placed, fresh, unknown⟩ | ⟨selection, t, first, onward⟩)
    · obtain ⟨place, head⟩ := m
      cases stands.symm.trans found
      cases placed
      exact ⟨fresh, .inl ⟨unknown, rfl, rfl⟩⟩
    · cases first with
      | spread found fresh known =>
        cases stands.symm.trans found
        exact ⟨fresh, .inr ⟨_, known, onward⟩⟩
      | field found => simp [stands] at found
      | inline found => simp [stands] at found
  · rintro ⟨fresh, ⟨unknown, rfl, rfl⟩ | ⟨f, known, onward⟩⟩
    · exact .inl ⟨rfl, stands, rfl, fresh, unknown⟩
    · exact .inr ⟨_, _, .spread stands fresh known, onward⟩

/-- What is met inside a field or an inline fragment is met through it. -/
theorem depthFirst_inner {met : List Meeting} {selection : Selection}
    (stands : s.body[i]? = some selection) (noSpread : ∀ head, selection ≠ .spread head)
    (below : DepthFirst (DepthFirst.Behind 0
      (Meets index ⟨s.crossed, s.place.child i, selection.inner⟩)) met) :
    DepthFirst (fun trail => Meets index s (i :: trail)) met :=
  (below.of_behind_zero fun _ => not_meets_nil).congr fun _ _ => (meets_inner stands noSpread).symm

/-- Unfolding meets the spreads that lead nowhere once for each trail, in depth-first order. -/
theorem lost_depthFirst {ahead : List Selection} (crossed : s.crossed = path)
    (split : s.body.drop position = ahead) :
    DepthFirst (DepthFirst.Behind position (Meets index s))
      (lost index path s.place position ahead) := by
  induction path, ahead using unfolding_induction index generalizing s position with
  | nil path =>
    rw [lost]
    refine .nothing ?_
    rintro _ m ⟨⟨i, rest, rfl, behind⟩, meets⟩
    refine not_meets_beyond ?_ meets
    exact List.getElem?_eq_none (Nat.le_trans (List.drop_eq_nil_iff.mp split) behind)
  | field path head body rest inside after =>
    obtain ⟨stands, split⟩ := drop_eq_cons split
    rw [lost]
    exact .siblings (depthFirst_inner stands (by simp) (inside crossed rfl)) (after crossed split)
  | inline path head body rest inside after =>
    obtain ⟨stands, split⟩ := drop_eq_cons split
    rw [lost]
    exact .siblings (depthFirst_inner stands (by simp) (inside crossed rfl)) (after crossed split)
  | spread path head rest inside after =>
    obtain ⟨stands, split⟩ := drop_eq_cons split
    rw [lost_spread]
    refine .siblings ?_ (after crossed split)
    simp only [meets_spread stands, crossed]
    by_cases cut : head.name.text ∈ path
    · rw [if_pos cut]
      exact .nothing fun trail m meets => meets.1 cut
    rw [if_neg cut]
    cases found : index.fragment? head.name.text with
    | none =>
      rw [Option.elim_none]
      refine (DepthFirst.single [] _).congr fun trail m => ?_
      simp [cut]
    | some f =>
      let inner : Scope := ⟨head.name.text :: path, .ofFragment f, f.node.body⟩
      have below := (inside f cut found (s := inner) rfl rfl).of_behind_zero
        fun _ => not_meets_nil
      rw [Option.elim_some]
      refine below.congr fun trail m => ?_
      simp [cut, inner]

theorem lost_root_depthFirst (index : CorpusIndex) (root : CorpusDocument) :
    DepthFirst (Meets index (.ofRoot root))
      (lost index root.node.fragmentName?.toList (.ofRoot root) 0 root.node.body) :=
  (lost_depthFirst (s := .ofRoot root) rfl rfl).of_behind_zero fun _ => not_meets_nil

/-- A name that stands for nothing is noted with the first spread of it that chains from the root
come to. -/
theorem missing_first {index : CorpusIndex} {root : CorpusDocument} {missing : MissingFragment}
    (noted : missing ∈ (resolve index root).missing) :
    ∃ trail m, Meets index (.ofRoot root) trail m ∧ m.missing = missing ∧
      ∀ other again, Meets index (.ofRoot root) other again → again.name = m.name →
        other = trail ∨ Earlier trail other := by
  -- The first meetings are chosen from the meetings with their trails, whose order is known.
  obtain ⟨trailed, listed, members, ordered⟩ := lost_root_depthFirst index root
  rw [missing_resolve, ← listed, firstsBy_map, List.map_map] at noted
  obtain ⟨⟨trail, m⟩, kept, same⟩ := List.mem_map.mp noted
  have met := (members trail m).mp ((firstsBy_sublist ..).mem kept)
  refine ⟨trail, m, met, same, fun other again meets equal => ?_⟩
  have first := firstsBy_first ordered kept ((members other again).mpr meets) equal
  exact first.imp_left (congrArg Prod.fst)

end QueryAudit.Closure
