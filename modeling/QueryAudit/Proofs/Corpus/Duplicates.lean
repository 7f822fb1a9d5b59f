import QueryAudit.Proofs.Corpus.Definitions
import QueryAudit.Proofs.Document.DepthFirst

/-! Fragments that share a name. Whenever a fragment bears a name that was borne before, an event
links it to the last one that bore it. So the events of one name go from each definition to the next,
and all events together come in the order of the later definitions. -/
namespace QueryAudit

/-- Tells of a fragment whose name was borne before. -/
def Event.isDuplicateOf (name : String) : Event → Bool
  | duplicateFragment fragment _ _ => fragment = name
  | _ => false

namespace CorpusIndex

/-- What is told of fragments that come after earlier ones, one by one. -/
def duplicates (earlier : List (Sourced Fragment)) : List (Sourced Fragment) → List Event
  | [] => []
  | f :: rest =>
    ((lastNamed f.node.name.text earlier).map fun previous =>
      Event.duplicateFragment f.node.name.text previous.sourcePath f.sourcePath).toList ++
    duplicates (earlier ++ [f]) rest

theorem duplicates_append (earlier fragments others : List (Sourced Fragment)) :
    duplicates earlier (fragments ++ others) =
      duplicates earlier fragments ++ duplicates (earlier ++ fragments) others := by
  induction fragments generalizing earlier with
  | nil => simp [duplicates]
  | cons f rest ih => simp [duplicates, ih]

/-- At the one position of a trail stands a fragment whose name is borne before it, and the event
links it to the last definition that bears the name there. -/
def Links (definitions : List (Sourced Definition)) (trail : List Nat) (event : Event) : Prop :=
  ∃ front previous between current back name,
    definitions = (front ++ previous :: between) ++ current :: back ∧
    trail = [(front ++ previous :: between).length] ∧
    previous.node.fragmentName? = some name ∧ current.node.fragmentName? = some name ∧
    (∀ d ∈ between, d.node.fragmentName? ≠ some name) ∧
    event = .duplicateFragment name previous.sourcePath current.sourcePath

/-- What is told of a definition that comes after others. -/
def warning? (before : List (Sourced Definition)) (d : Sourced Definition) : Option Event := do
  let f ← d.fragment?
  let previous ← lastNamed f.node.name.text (before.filterMap (·.fragment?))
  return .duplicateFragment f.node.name.text previous.sourcePath f.sourcePath

theorem duplicates_definitions_cons (before : List (Sourced Definition)) (d : Sourced Definition)
    (rest : List (Sourced Definition)) :
    duplicates (before.filterMap (·.fragment?)) ((d :: rest).filterMap (·.fragment?)) =
      (warning? before d).toList ++
        duplicates ((before ++ [d]).filterMap (·.fragment?)) (rest.filterMap (·.fragment?)) := by
  cases here : d.fragment? with
  | none => simp [warning?, here]
  | some f =>
    cases last : lastNamed f.node.name.text (before.filterMap (·.fragment?)) <;>
      simp [warning?, here, duplicates, last]

section Links

variable {definitions before ahead : List (Sourced Definition)} {current : Sourced Definition}
  {event : Event}

theorem warning?_eq_some_iff : warning? before current = some event ↔
    ∃ f previous : Sourced Fragment, current = f.map .fragment ∧
      lastNamed f.node.name.text (before.filterMap (·.fragment?)) = some previous ∧
      event = .duplicateFragment f.node.name.text previous.sourcePath f.sourcePath := by
  simp only [warning?, Option.bind_eq_bind, Option.bind_eq_some_iff, fragment?_eq_some_iff,
    Option.pure_def, Option.some.injEq]
  constructor
  · rintro ⟨f, same, previous, last, rfl⟩
    exact ⟨f, previous, same, last, rfl⟩
  · rintro ⟨f, previous, same, last, rfl⟩
    exact ⟨f, same, previous, last, rfl⟩

theorem not_links_nil : ¬ Links definitions [] event := by
  rintro ⟨_, _, _, _, _, _, _, place, _⟩
  cases place

/-- What is linked at a position is what is told of the definition there. -/
theorem links_iff {trail : List Nat} (split : definitions = before ++ current :: ahead) :
    Links definitions (before.length :: trail) event ↔
      trail = [] ∧ warning? before current = some event := by
  constructor
  · rintro ⟨front, previous, between, c, back, name, parted, place, first, second, apart, rfl⟩
    obtain ⟨here, rfl⟩ := List.cons.inj place
    obtain ⟨rfl, rest⟩ := List.append_inj (split.symm.trans parted) here
    obtain ⟨rfl, rfl⟩ := List.cons.inj rest
    obtain ⟨p, rfl, sameFirst⟩ := fragmentName?_eq_some_iff.mp first
    obtain ⟨f, rfl, rfl⟩ := fragmentName?_eq_some_iff.mp second
    have last := lastNamed_definitions_eq_some_iff.mpr ⟨front, between, rfl, sameFirst, apart⟩
    exact ⟨rfl, warning?_eq_some_iff.mpr ⟨f, p, rfl, last, rfl⟩⟩
  · rintro ⟨rfl, told⟩
    obtain ⟨f, previous, rfl, last, rfl⟩ := warning?_eq_some_iff.mp told
    obtain ⟨front, between, rfl, same, apart⟩ := lastNamed_definitions_eq_some_iff.mp last
    exact ⟨front, previous.map .fragment, between, f.map .fragment, ahead, f.node.name.text, split,
      rfl, congrArg some same, rfl, apart, rfl⟩

/-- Nothing is linked behind the last definition. -/
theorem not_links_beyond {i : Nat} {trail : List Nat} (beyond : definitions.length ≤ i) :
    ¬ Links definitions (i :: trail) event := by
  rintro ⟨front, previous, between, current, back, _, parted, place, _⟩
  have inside := congrArg List.length parted
  obtain ⟨here, _⟩ := List.cons.inj place
  rw [List.length_append, ← here, List.length_cons] at inside
  omega

/-- The events come in the order of the fragments that they are told of, one for each that is linked
to an earlier one. -/
theorem duplicates_behind (split : definitions = before ++ ahead) :
    DepthFirst (DepthFirst.Behind before.length (Links definitions))
      (duplicates (before.filterMap (·.fragment?)) (ahead.filterMap (·.fragment?))) := by
  -- every definition moves on to those before, although only fragments are kept for their names
  induction ahead generalizing before with
  | nil =>
    refine .nothing ?_
    rintro _ event ⟨⟨i, rest, rfl, behind⟩, links⟩
    rw [List.append_nil] at split
    exact not_links_beyond (split ▸ behind) links
  | cons d rest ih =>
    have onward := @ih (before ++ [d]) (by simpa using split)
    rw [List.length_append, List.length_singleton] at onward
    rw [duplicates_definitions_cons]
    refine DepthFirst.siblings ?_ onward
    simp only [links_iff split]
    cases warning? before d with
    | none => exact .nothing (by simp)
    | some event =>
      refine (DepthFirst.single [] event).congr fun trail e => ?_
      rw [Option.some.injEq, eq_comm (a := event)]

theorem duplicates_depthFirst (definitions : List (Sourced Definition)) :
    DepthFirst (Links definitions) (duplicates [] (definitions.filterMap (·.fragment?))) := by
  have all : definitions = [] ++ definitions := rfl
  exact (duplicates_behind all).of_behind_zero fun _ => not_links_nil

end Links

/-- Of one name, each fragment is linked to the next, and the first of them to the last one before. -/
theorem filter_duplicates (name : String) (earlier rest : List (Sourced Fragment)) :
    let paths := ((lastNamed name earlier).toList ++
      rest.filter (·.node.name.text = name)).map (·.sourcePath)
    (duplicates earlier rest).filter (·.isDuplicateOf name) =
      List.zipWith (.duplicateFragment name) paths paths.tail := by
  induction rest generalizing earlier with
  | nil =>
    cases lastNamed name earlier <;> rfl
  | cons f rest ih =>
    -- whoever bears the name last is what the next bearer is linked to
    have last : lastNamed name (earlier ++ [f]) =
        if f.node.name.text = name then some f else lastNamed name earlier := by
      rw [lastNamed_append]
      by_cases same : f.node.name.text = name <;> simp [lastNamed, same]
    rw [duplicates, List.filter_append, ih, last]
    by_cases same : f.node.name.text = name
    · subst same
      cases lastNamed f.node.name.text earlier <;> simp [Event.isDuplicateOf]
    · cases lastNamed f.node.name.text earlier <;> simp [Event.isDuplicateOf, same]

theorem paths_fragments (name : String) (definitions : List (Sourced Definition)) :
    ((definitions.filterMap (·.fragment?)).filter (·.node.name.text = name)).map (·.sourcePath) =
      (definitions.filter (·.node.fragmentName? = some name)).map (·.sourcePath) := by
  induction definitions with
  | nil => rfl
  | cons d rest ih =>
    obtain ⟨node, origin, path⟩ := d
    cases node with
    | fragment f =>
      by_cases same : f.name.text = name <;>
        simpa [Sourced.fragment?, Definition.fragmentName?, same] using ih
    | _ => simpa [Sourced.fragment?, Definition.fragmentName?] using ih

/-- What is told of fragments whose names were borne before. -/
structure Warns (definitions : List (Sourced Definition)) (warnings : List Event) : Prop where
  /-- Of each name, every definition is linked to the next one, path by path. -/
  ofName : ∀ name, warnings.filter (·.isDuplicateOf name) =
    let paths := (definitions.filter (·.node.fragmentName? = some name)).map (·.sourcePath)
    List.zipWith (.duplicateFragment name) paths paths.tail
  count : ∀ name, warnings.countP (·.isDuplicateOf name) =
    definitions.countP (·.node.fragmentName? = some name) - 1
  /-- Nothing else is told, and all of it in the order of the later definitions. -/
  inOrder : DepthFirst (Links definitions) warnings

theorem warns_duplicates (definitions : List (Sourced Definition)) :
    Warns definitions (duplicates [] (definitions.filterMap (·.fragment?))) := by
  have ofName (name : String) := filter_duplicates name [] (definitions.filterMap (·.fragment?))
  simp only [lastNamed, Option.toList_none, List.nil_append, paths_fragments] at ofName
  refine ⟨ofName, fun name => ?_, duplicates_depthFirst definitions⟩
  rw [List.countP_eq_length_filter, ofName, List.length_zipWith, List.length_tail, List.length_map,
    List.countP_eq_length_filter]
  omega

end CorpusIndex

end QueryAudit
