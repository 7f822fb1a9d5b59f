import QueryAudit.Proofs.Corpus.Documents

/-! The definitions that a corpus is made of. Inputs are taken apart into definitions, each with the
path of its text, and these are taken in one by one, up to the first that is neither an operation
nor a fragment. The index of what was taken in is told by the definitions, without regard to how
they came together. -/
namespace QueryAudit

namespace Definition

def isOperation : Definition → Bool
  | operation _ => true
  | _ => false

def isFragment : Definition → Bool
  | fragment _ => true
  | _ => false

/-- The name that a definition can be spread by. -/
def fragmentName? : Definition → Option String
  | fragment f => some f.name.text
  | _ => none

end Definition

/-- The definitions of inputs one after the other, each with its path; a document or a definition
without one has the empty path. -/
inductive Flattens : List CorpusInput → List (Sourced Definition) → Prop where
  | nil : Flattens [] []
  | source {s rest definitions} : Flattens rest definitions → Flattens (.source s :: rest)
      (s.document.definitions.map (⟨·, s.document.origin, s.path⟩) ++ definitions)
  | document {d rest definitions} : Flattens rest definitions → Flattens (.document d :: rest)
      (d.definitions.map (⟨·, d.origin, ""⟩) ++ definitions)
  | definition {origin d rest definitions} : Flattens rest definitions →
      Flattens (.definition origin d :: rest) (⟨d, origin, ""⟩ :: definitions)
  | operation {rest definitions} (o : Sourced Operation) : Flattens rest definitions →
      Flattens (.classified (o.map .operation) :: rest) (o.map .operation :: definitions)
  | fragment {rest definitions} (f : Sourced Fragment) : Flattens rest definitions →
      Flattens (.classified (f.map .fragment) :: rest) (f.map .fragment :: definitions)

theorem flattens_iff {inputs : List CorpusInput} {definitions : List (Sourced Definition)} :
    Flattens inputs definitions ↔ definitions = inputs.flatMap (·.definitions) := by
  constructor
  · intro flattens
    induction flattens with
    | nil => rfl
    | source _ ih | document _ ih | definition _ ih | operation _ _ ih | fragment _ _ ih =>
      rw [List.flatMap_cons, ← ih]
      rfl
  · rintro rfl
    induction inputs with
    | nil => exact .nil
    | cons input rest ih =>
      rw [List.flatMap_cons]
      cases input with
      | source s => exact .source ih
      | document d => exact .document ih
      | definition origin d => exact .definition ih
      | classified d =>
        obtain ⟨node, origin, path⟩ := d
        cases node with
        | operation o => exact .operation ⟨o, origin, path⟩ ih
        | fragment f => exact .fragment ⟨f, origin, path⟩ ih

section Classify

variable {definitions front rest : List (Sourced Definition)} {d : Sourced Definition}

theorem toDefinition_of_executable? {d : Definition} {node : Executable}
    (found : d.executable? = some node) : node.toDefinition = d := by
  cases d with
  | operation | fragment =>
    cases found
    rfl
  | _ => cases found

theorem executable?_toDefinition (node : Executable) :
    node.toDefinition.executable? = some node := by
  cases node <;> rfl

theorem executable?_isSome_iff {d : Definition} :
    d.executable?.isSome ↔ d.isOperation = true ∨ d.isFragment = true := by
  cases d <;> simp [Definition.executable?, Definition.isOperation, Definition.isFragment]

theorem executable?_eq_none_iff {d : Definition} :
    d.executable? = none ↔ d.isOperation = false ∧ d.isFragment = false := by
  cases d <;> simp [Definition.executable?, Definition.isOperation, Definition.isFragment]

namespace CorpusIndex

/-- Definitions that can be executed or spread are taken in as documents, and none of them is
lost. -/
theorem addAll_append (executable : ∀ d ∈ front, d.node.executable?.isSome) (growing : Growing)
    (rest : List (Sourced Definition)) :
    ∃ documents : List CorpusDocument, documents.map (·.map Executable.toDefinition) = front ∧
      growing.addAll (front ++ rest) = (documents.foldl .add growing).addAll rest := by
  induction front generalizing growing with
  | nil => exact ⟨[], rfl, rfl⟩
  | cons d more ih =>
    obtain ⟨here, onward⟩ := List.forall_mem_cons.mp executable
    obtain ⟨node, found⟩ := Option.isSome_iff_exists.mp here
    obtain ⟨documents, same, done⟩ := ih onward (growing.add ⟨node, d.origin, d.sourcePath⟩)
    refine ⟨⟨node, d.origin, d.sourcePath⟩ :: documents, ?_, ?_⟩
    · rw [List.map_cons, same, Sourced.map, toDefinition_of_executable? found]
    · rw [List.cons_append, Growing.addAll, Sourced.classify, found]
      exact done

theorem addAll_executable (executable : ∀ d ∈ definitions, d.node.executable?.isSome)
    (growing : Growing) :
    ∃ documents : List CorpusDocument, documents.map (·.map Executable.toDefinition) = definitions ∧
      growing.addAll definitions = (documents.foldl .add growing, none) := by
  obtain ⟨documents, same, done⟩ := addAll_append executable growing []
  rw [List.append_nil] at done
  exact ⟨documents, same, done⟩

/-- The first definition that cannot be executed or spread ends the work. -/
theorem addAll_stops (executable : ∀ d ∈ front, d.node.executable?.isSome)
    (stop : d.node.executable? = none) (growing : Growing) (rest : List (Sourced Definition)) :
    ∃ documents : List CorpusDocument, documents.map (·.map Executable.toDefinition) = front ∧
      growing.addAll (front ++ d :: rest) = (documents.foldl .add growing,
        some (.ofKind d.node.kindText (d.locate d.node.position) d.sourcePath)) := by
  obtain ⟨documents, same, done⟩ := addAll_append executable growing (d :: rest)
  refine ⟨documents, same, ?_⟩
  rw [done, Growing.addAll, Sourced.classify, stop]

end CorpusIndex

end Classify

/-- A definition as the fragment that it is. -/
def Sourced.fragment? (d : Sourced Definition) : Option (Sourced Fragment) :=
  match d.node with
  | .fragment f => some ⟨f, d.origin, d.sourcePath⟩
  | _ => none

section Fragments

variable {definitions : List (Sourced Definition)} {name : String} {f : Sourced Fragment}
  {d : Sourced Definition}

theorem fragment?_eq_some_iff : d.fragment? = some f ↔ d = f.map .fragment := by
  obtain ⟨node, origin, path⟩ := d
  obtain ⟨f, origin', path'⟩ := f
  cases node <;> simp [Sourced.fragment?, Sourced.map]

theorem fragment?_eq_none_iff : d.fragment? = none ↔ d.node.fragmentName? = none := by
  obtain ⟨node, origin, path⟩ := d
  cases node <;> simp [Sourced.fragment?, Definition.fragmentName?]

@[simp] theorem fragment?_map_fragment (f : Sourced Fragment) :
    (f.map Definition.fragment).fragment? = some f := rfl

@[simp] theorem fragmentName?_map_fragment (f : Sourced Fragment) :
    (f.map Definition.fragment).node.fragmentName? = some f.node.name.text := rfl

theorem fragmentName?_eq_some_iff : d.node.fragmentName? = some name ↔
    ∃ f : Sourced Fragment, d = f.map .fragment ∧ f.node.name.text = name := by
  constructor
  · intro named
    cases found : d.fragment? with
    | none => simp [fragment?_eq_none_iff.mp found] at named
    | some f =>
      obtain rfl := fragment?_eq_some_iff.mp found
      exact ⟨f, rfl, by simpa using named⟩
  · rintro ⟨f, rfl, rfl⟩
    rfl

theorem lastNamed_definitions_eq_none_iff :
    lastNamed name (definitions.filterMap (·.fragment?)) = none ↔
      ∀ d ∈ definitions, d.node.fragmentName? ≠ some name := by
  rw [lastNamed_eq_none_iff]
  constructor
  · intro other d member named
    obtain ⟨f, rfl, same⟩ := fragmentName?_eq_some_iff.mp named
    exact other f (List.mem_filterMap.mpr ⟨_, member, rfl⟩) same
  · intro other f member same
    obtain ⟨d, member, found⟩ := List.mem_filterMap.mp member
    obtain rfl := fragment?_eq_some_iff.mp found
    exact other _ member (congrArg some same)

/-- The last fragment of a name, by where it stands among all definitions. -/
theorem lastNamed_definitions_eq_some_iff :
    lastNamed name (definitions.filterMap (·.fragment?)) = some f ↔
      ∃ front back, definitions = front ++ f.map .fragment :: back ∧ f.node.name.text = name ∧
        ∀ d ∈ back, d.node.fragmentName? ≠ some name := by
  constructor
  · intro found
    have named := (Closure.lastNamed_some found).2
    induction definitions with
    | nil => cases found
    | cons d rest ih =>
      have onward (later : lastNamed name (rest.filterMap (·.fragment?)) = some f) :
          ∃ front back, d :: rest = front ++ f.map .fragment :: back ∧ f.node.name.text = name ∧
            ∀ d ∈ back, d.node.fragmentName? ≠ some name := by
        obtain ⟨front, back, split, last⟩ := ih later
        exact ⟨d :: front, back, congrArg (d :: ·) split, last⟩
      cases here : d.fragment? with
      | none =>
        rw [List.filterMap_cons_none here] at found
        exact onward found
      | some g =>
        rw [List.filterMap_cons_some here, lastNamed] at found
        -- this fragment counts only if no later one bears the name
        cases later : lastNamed name (rest.filterMap (·.fragment?)) with
        | some h =>
          rw [later] at found
          exact onward (later.trans found)
        | none =>
          rw [later] at found
          obtain ⟨_, ⟨⟩⟩ := Option.ite_none_right_eq_some.mp found
          obtain rfl := fragment?_eq_some_iff.mp here
          exact ⟨[], rest, rfl, named, lastNamed_definitions_eq_none_iff.mp later⟩
  · rintro ⟨front, back, rfl, named, last⟩
    have none := lastNamed_definitions_eq_none_iff.mpr last
    rw [List.filterMap_append, lastNamed_append,
      List.filterMap_cons_some (fragment?_map_fragment f), lastNamed, none]
    simp [named]

end Fragments

namespace CorpusIndex

section OfDocuments

variable (documents : List CorpusDocument)

theorem operations_append (others : List CorpusDocument) :
    (ofDocuments (documents ++ others)).operations =
      (ofDocuments documents).operations ++ (ofDocuments others).operations :=
  List.filterMap_append

theorem fragments_append (others : List CorpusDocument) :
    (ofDocuments (documents ++ others)).fragments =
      (ofDocuments documents).fragments ++ (ofDocuments others).fragments :=
  List.filterMap_append

theorem operations_ofDocuments :
    (ofDocuments documents).operations.map (·.map Definition.operation) =
      (documents.map (·.map Executable.toDefinition)).filter (·.node.isOperation) := by
  induction documents with
  | nil => rfl
  | cons d rest ih =>
    obtain ⟨node, origin, path⟩ := d
    cases node with
    | operation o => exact congrArg (⟨.operation o, origin, path⟩ :: ·) ih
    | fragment f => exact ih

theorem fragments_ofDocuments :
    (ofDocuments documents).fragments.map (·.map Definition.fragment) =
      (documents.map (·.map Executable.toDefinition)).filter (·.node.isFragment) := by
  induction documents with
  | nil => rfl
  | cons d rest ih =>
    obtain ⟨node, origin, path⟩ := d
    cases node with
    | operation o => exact ih
    | fragment f => exact congrArg (⟨.fragment f, origin, path⟩ :: ·) ih

theorem fragments_ofDocuments_filterMap : (ofDocuments documents).fragments =
    (documents.map (·.map Executable.toDefinition)).filterMap (·.fragment?) := by
  rw [List.filterMap_map]
  refine List.filterMap_congr fun d _ => ?_
  obtain ⟨node, origin, path⟩ := d
  cases node <;> rfl

theorem size_ofDocuments : (ofDocuments documents).size = documents.length := by
  induction documents with
  | nil => rfl
  | cons d rest ih =>
    obtain ⟨node, origin, path⟩ := d
    cases node with
    | operation o =>
      simp only [size, ofDocuments, List.filterMap_cons, List.length_cons] at ih ⊢
      omega
    | fragment f =>
      simp only [size, ofDocuments, List.filterMap_cons, List.length_cons] at ih ⊢
      omega

end OfDocuments

end CorpusIndex

end QueryAudit
