import QueryAudit.Proofs.Corpus.Documents
import QueryAudit.Proofs.Corpus.Indexing
import QueryAudit.Proofs.Corpus.Meetings
import QueryAudit.Proofs.Depth.Agreement
import QueryAudit.Proofs.Results

/-! Locations lead into the right text. Whoever reads the texts of a corpus from some definition on,
and goes on at a spread in the text that has the fragment, always knows the text that lies open.
Checks and closures only carry a path along; it is the path of that text. -/
namespace QueryAudit

/-- A definition as its text brings it into a corpus. -/
def SourceDocument.entry (text : SourceDocument) (node : α) : Sourced α :=
  ⟨node, text.document.origin, text.path⟩

theorem SourceDocument.of_parse {text : SourceDocument} {raw : String} {path : Label}
    (parsed : SourceDocument.parse raw path = .ok text) : text.path = path ∧
      text.document.origin = if path.isBlank then .anonymous else .ofName path := by
  rw [SourceDocument.parse] at parsed
  split at parsed
  case h_1 document accepted =>
    cases parsed
    obtain ⟨definitions, _, made⟩ := ok_of_bind accepted
    cases made
    exact ⟨rfl, rfl⟩
  case h_2 => cases parsed
  case h_3 => cases parsed

/-- Every place in a text that was parsed is located by line and column under the path of the
text. -/
theorem SourceDocument.locate_entry {text : SourceDocument} {raw : String}
    (parsed : SourceDocument.parse raw text.path = .ok text) (node : α) (position : Position) :
    (text.entry node).locate position = some ⟨text.path, position.line, position.column⟩ := by
  change text.document.origin.locate text.path position = _
  rw [(of_parse parsed).2]
  by_cases blank : text.path.isBlank
  · rw [if_pos blank]
    rfl
  · rw [if_neg blank, Origin.ofName]
    by_cases anonymous : text.path = Origin.anonymousName
    · rw [if_pos anonymous]
      rfl
    · simp [anonymous, Origin.locate, Origin.pathOr, blank]

/-- A name stands for the last fragment that bears it, in the last text that has one. -/
def StandsFor (sources : List SourceDocument) (name : String) (text : SourceDocument)
    (f : Fragment) : Prop :=
  ∃ before after front back, sources = before ++ text :: after ∧
    text.document.definitions = front ++ .fragment f :: back ∧ f.name.text = name ∧
    (∀ d ∈ back, d.fragmentName? ≠ some name) ∧
    ∀ later ∈ after, ∀ d ∈ later.document.definitions, d.fragmentName? ≠ some name

theorem StandsFor.mem {sources : List SourceDocument} {name : String} {text : SourceDocument}
    {f : Fragment} (stands : StandsFor sources name text f) :
    text ∈ sources ∧ .fragment f ∈ text.document.definitions := by
  obtain ⟨before, after, front, back, rfl, parted, _⟩ := stands
  simp [parted]

namespace CorpusIndex

variable {inputs : List CorpusInput} {sources : List SourceDocument} {index : CorpusIndex}

/-- An index that could be built holds documents of all definitions. -/
theorem documents_of_build (built : (build inputs).value = .ok index) :
    ∃ documents, index = ofDocuments documents ∧
      documents.map (·.map Executable.toDefinition) = inputs.flatMap (·.definitions) := by
  cases stop : (inputs.flatMap (·.definitions)).find? (·.node.executable?.isNone) with
  | none =>
    have executable : ∀ d ∈ inputs.flatMap (·.definitions), d.node.executable?.isSome := by
      intro d member
      simpa [Option.isSome_iff_ne_none] using List.find?_eq_none.mp stop d member
    obtain ⟨documents, same, done⟩ := build_executable executable
    rw [done] at built
    cases built
    exact ⟨documents, rfl, same⟩
  | some d =>
    obtain ⟨found, front, back, split, before⟩ := List.find?_eq_some_iff_append.mp stop
    have executable : ∀ e ∈ front, e.node.executable?.isSome := by
      intro e member
      simpa [Option.isSome_iff_ne_none] using before e member
    rw [build_stops split executable (by simpa using found)] at built
    cases built

theorem definitions_sources (sources : List SourceDocument) :
    (sources.map CorpusInput.source).flatMap (·.definitions) =
      sources.flatMap fun text => text.document.definitions.map text.entry := by
  rw [List.flatMap_map]
  rfl

/-- Whatever stands in the lists that are given one after the other stands in one of them. -/
theorem flatMap_eq_append_cons {give : α → List β} {items : List α} {front back : List β}
    {b : β} (split : items.flatMap give = front ++ b :: back) :
    ∃ before a after ahead behind, items = before ++ a :: after ∧
      give a = ahead ++ b :: behind ∧ back = behind ++ after.flatMap give := by
  induction items generalizing front with
  | nil => simp at split
  | cons a rest ih =>
    have onward {front : List β} (split : rest.flatMap give = front ++ b :: back) :
        ∃ before c after ahead behind, a :: rest = before ++ c :: after ∧
          give c = ahead ++ b :: behind ∧ back = behind ++ after.flatMap give := by
      obtain ⟨before, c, after, ahead, behind, rfl, found, rfl⟩ := ih split
      exact ⟨a :: before, c, after, ahead, behind, rfl, found, rfl⟩
    rw [List.flatMap_cons, List.append_eq_append_iff] at split
    rcases split with ⟨later, _, split⟩ | ⟨here, found, split⟩
    · exact onward split
    · cases here with
      | nil =>
        have start : rest.flatMap give = [] ++ b :: back := split.symm
        exact onward start
      | cons c behind =>
        obtain ⟨rfl, rfl⟩ := List.cons.inj split
        exact ⟨[], a, rest, front, behind, rfl, found, rfl⟩

theorem fragment?_sources_iff (built : (build (sources.map .source)).value = .ok index)
    {name : String} {f : Sourced Fragment} : index.fragment? name = some f ↔
      ∃ text g, StandsFor sources name text g ∧ f = text.entry g := by
  obtain ⟨documents, rfl, same⟩ := documents_of_build built
  rw [(holds_ofDocuments documents).named, same, definitions_sources]
  constructor
  · rintro ⟨front, back, split, rfl, last⟩
    obtain ⟨before, text, after, ahead, behind, rfl, found, rfl⟩ := flatMap_eq_append_cons split
    obtain ⟨ahead, behind, parted, rfl, marked⟩ := List.map_eq_append_iff.mp found
    obtain ⟨d, behind, rfl, same, rfl⟩ := List.map_eq_cons_iff.mp marked
    obtain ⟨g, origin, path⟩ := f
    cases same
    rw [List.forall_mem_append, List.forall_mem_flatMap] at last
    refine ⟨text, g, ⟨before, after, ahead, behind, rfl, parted, rfl, ?_, ?_⟩, rfl⟩
    · exact fun d member => last.1 (text.entry d) (List.mem_map_of_mem member)
    · intro later given d member
      exact last.2 later given (later.entry d) (List.mem_map_of_mem member)
  · rintro ⟨text, g, ⟨before, after, front, back, rfl, parted, rfl, last, later⟩, rfl⟩
    refine ⟨(before.flatMap fun text => text.document.definitions.map text.entry) ++
      front.map text.entry, back.map text.entry ++
      after.flatMap fun text => text.document.definitions.map text.entry, ?_, rfl, ?_⟩
    · simp [parted]
      rfl
    · rw [List.forall_mem_append, List.forall_mem_flatMap]
      refine ⟨List.forall_mem_map.mpr last, fun text member => ?_⟩
      exact List.forall_mem_map.mpr (later text member)

theorem fragment?_ne_none (built : (build (sources.map .source)).value = .ok index)
    {text : SourceDocument} (given : text ∈ sources) {f : Fragment}
    (member : .fragment f ∈ text.document.definitions) : index.fragment? f.name.text ≠ none := by
  obtain ⟨documents, rfl, same⟩ := documents_of_build built
  rw [Ne, (holds_ofDocuments documents).unnamed, same, definitions_sources]
  intro unnamed
  have entered : text.entry (.fragment f) ∈
      sources.flatMap fun text => text.document.definitions.map text.entry :=
    List.mem_flatMap.mpr ⟨text, given, List.mem_map_of_mem member⟩
  exact unnamed _ entered rfl

theorem mem_documents_sources_iff (built : (build (sources.map .source)).value = .ok index)
    {root : CorpusDocument} : root ∈ index.documents ↔
      ∃ text ∈ sources, ∃ node : Executable, node.toDefinition ∈ text.document.definitions ∧
        root = text.entry node := by
  obtain ⟨documents, rfl, same⟩ := documents_of_build built
  have injective : Function.Injective fun d : CorpusDocument => d.map Executable.toDefinition := by
    rintro ⟨node, origin, path⟩ ⟨node', origin', path'⟩ equal
    cases node <;> cases node' <;> cases equal <;> rfl
  rw [mem_documents_ofDocuments, ← List.mem_map_of_injective injective, same, definitions_sources,
    List.mem_flatMap]
  refine exists_congr fun text => and_congr_right fun _ => ?_
  rw [List.mem_map]
  constructor
  · rintro ⟨d, member, equal⟩
    obtain ⟨node, origin, path⟩ := root
    cases equal
    exact ⟨node, member, rfl⟩
  · rintro ⟨node, member, rfl⟩
    exact ⟨node.toDefinition, member, rfl⟩

end CorpusIndex

namespace Depth

/-- Where a reader of texts is: the text that lies open, the names that were crossed or that the
start bears, and the selections ahead with their address. -/
structure Spot where
  text : SourceDocument
  crossed : List String
  address : Address
  body : List Selection

def Spot.start (text : SourceDocument) (node : Executable) : Spot :=
  ⟨text, node.fragmentName?.toList, ⟨none, []⟩, node.body⟩

/-- The address of a selection ahead. -/
def Spot.addressOf (spot : Spot) (i : Nat) : Address :=
  ⟨spot.address.fragment, spot.address.path ++ [i]⟩

/-- One link further: into a field or an inline fragment of the same text, or across a spread into
the text of the fragment that the name stands for. -/
inductive Reads (sources : List SourceDocument) (spot : Spot) : Link → Spot → Prop where
  | field : spot.body[i]? = some (.field head body) →
      Reads sources spot ⟨i, .field head body⟩ ⟨spot.text, spot.crossed, spot.addressOf i, body⟩
  | inline : spot.body[i]? = some (.inline head body) →
      Reads sources spot ⟨i, .inline head body⟩ ⟨spot.text, spot.crossed, spot.addressOf i, body⟩
  | spread : spot.body[i]? = some (.spread head) → head.name.text ∉ spot.crossed →
      StandsFor sources head.name.text text f → Reads sources spot ⟨i, .spread head⟩
        ⟨text, head.name.text :: spot.crossed, ⟨some head.name.text, []⟩, f.body⟩

/-- A reader goes from one spot to another. -/
abbrev Trip (sources : List SourceDocument) : Spot → List Link → Spot → Prop :=
  Steps (Reads sources)

/-- The scope in which a chain is where a reader is. -/
def Spot.scope (spot : Spot) : Scope := ⟨spot.crossed, spot.text.entry spot.address, spot.body⟩

variable {sources : List SourceDocument} {index : CorpusIndex} {spot next : Spot} {link : Link}
  {chain : List Link} {s t : Scope} {text : SourceDocument} {node : Executable} {i : Nat}

/-- Across a spread, both stand at the beginning of the fragment. -/
theorem scope_fragment {head : SpreadHead} {f : Fragment}
    (stands : StandsFor sources head.name.text text f) :
    Spot.scope ⟨text, head.name.text :: spot.crossed, ⟨some head.name.text, []⟩, f.body⟩ =
      ⟨head.name.text :: spot.scope.crossed, .ofFragment (text.entry f),
        (text.entry f).node.body⟩ := by
  obtain ⟨_, _, _, _, _, _, named, _⟩ := stands
  simp [Spot.scope, SourceDocument.entry, Place.ofFragment, Sourced.map, named]

/-- Chains through the index take the same links as readers of the texts. -/
theorem enters_scope_iff (built : (CorpusIndex.build (sources.map .source)).value = .ok index) :
    Enters index.fragments spot.scope link s ↔
      ∃ next, Reads sources spot link next ∧ next.scope = s := by
  constructor
  · intro enters
    cases enters with
    | field found => exact ⟨_, .field found, rfl⟩
    | inline found => exact ⟨_, .inline found, rfl⟩
    | spread found fresh known =>
      obtain ⟨text, g, stands, rfl⟩ := (CorpusIndex.fragment?_sources_iff built).mp known
      exact ⟨_, .spread found fresh stands, scope_fragment stands⟩
  · rintro ⟨next, reads, rfl⟩
    cases reads with
    | field found => exact .field found
    | inline found => exact .inline found
    | spread found fresh stands =>
      have known := (CorpusIndex.fragment?_sources_iff built).mpr ⟨_, _, stands, rfl⟩
      rw [scope_fragment stands]
      exact .spread found fresh known

theorem chain_scope_iff (built : (CorpusIndex.build (sources.map .source)).value = .ok index) :
    Chain index.fragments spot.scope chain s ↔
      ∃ next, Trip sources spot chain next ∧ next.scope = s := by
  constructor
  · intro steps
    induction chain generalizing spot with
    | nil =>
      cases steps
      exact ⟨spot, .nil, rfl⟩
    | cons link rest ih =>
      cases steps with
      | cons first steps =>
        obtain ⟨via, reads, rfl⟩ := (enters_scope_iff built).mp first
        obtain ⟨next, trip, same⟩ := ih steps
        exact ⟨next, .cons reads trip, same⟩
  · rintro ⟨next, trip, rfl⟩
    induction trip with
    | nil => exact .nil
    | cons reads _ ih => exact .cons ((enters_scope_iff built).mpr ⟨_, reads, rfl⟩) ih

theorem chain_root_iff (built : (CorpusIndex.build (sources.map .source)).value = .ok index) :
    Chain index.fragments (.ofRoot (text.entry node)) chain s ↔
      ∃ spot, Trip sources (.start text node) chain spot ∧ spot.scope = s := by
  have start : Scope.ofRoot (text.entry node) = (Spot.start text node).scope := rfl
  rw [start, chain_scope_iff built]

/-- The selections ahead of a reader stand in the text that lies open. -/
structure Spot.Within (sources : List SourceDocument) (spot : Spot) : Prop where
  given : spot.text ∈ sources
  stands : ∃ d : Executable, d.toDefinition ∈ spot.text.document.definitions ∧
    bodyAt d.body spot.address.path = some spot.body

theorem Spot.Within.child (within : spot.Within sources) {selection : Selection}
    (found : spot.body[i]? = some selection) (crossed : List String) :
    Spot.Within sources ⟨spot.text, crossed, spot.addressOf i, selection.inner⟩ := by
  obtain ⟨d, member, inside⟩ := within.stands
  refine ⟨within.given, d, member, ?_⟩
  simp only [bodyAt, Spot.addressOf] at inside ⊢
  simp [List.foldlM_append, inside, found]

theorem Reads.within (reads : Reads sources spot link next) (within : spot.Within sources) :
    next.Within sources := by
  cases reads with
  | field found => exact within.child found _
  | inline found => exact within.child found _
  | spread found fresh stands =>
    obtain ⟨given, member⟩ := stands.mem
    exact ⟨given, .fragment _, member, rfl⟩

theorem within_of_trip (given : text ∈ sources)
    (member : node.toDefinition ∈ text.document.definitions)
    (trip : Trip sources (.start text node) chain spot) : spot.Within sources :=
  Steps.invariant (fun _ _ _ reads => reads.within) trip ⟨given, node, member, rfl⟩

/-- Nothing is crossed that does not stand for a fragment. -/
theorem crossed_of_trip (built : (CorpusIndex.build (sources.map .source)).value = .ok index)
    (given : text ∈ sources) (member : node.toDefinition ∈ text.document.definitions)
    (trip : Trip sources (.start text node) chain spot) :
    ∀ name ∈ spot.crossed, index.fragment? name ≠ none := by
  have step (spot : Spot) (link : Link) (next : Spot) (reads : Reads sources spot link next)
      (known : ∀ name ∈ spot.crossed, index.fragment? name ≠ none) :
      ∀ name ∈ next.crossed, index.fragment? name ≠ none := by
    cases reads with
    | field => exact known
    | inline => exact known
    | spread found fresh stands =>
      refine List.forall_mem_cons.mpr ⟨?_, known⟩
      rw [(CorpusIndex.fragment?_sources_iff built).mpr ⟨_, _, stands, rfl⟩]
      simp
  refine Steps.invariant step trip fun name own => ?_
  cases node with
  | operation => simp [Spot.start, Executable.fragmentName?] at own
  | fragment f =>
    obtain rfl : name = f.name.text := by simpa [Spot.start, Executable.fragmentName?] using own
    exact CorpusIndex.fragment?_ne_none built given member

/-- The positions along a chain and then of a selection. -/
def trailTo (chain : List Link) (i : Nat) : List Nat := chain.map (·.position) ++ [i]

/-- The location of a position in the text that lies open. -/
def Spot.located (spot : Spot) (position : Position) : Location :=
  ⟨spot.text.path, position.line, position.column⟩

/-- What reports and closures say of places, for one definition of a text as the root. -/
structure Located (sources : List SourceDocument) (index : CorpusIndex) (text : SourceDocument)
    (node : Executable) : Prop where
  /-- Wherever a reader comes, the selections ahead stand in the text that lies open. -/
  within : ∀ chain spot, Trip sources (.start text node) chain spot → spot.Within sources
  /-- The address of a violation can be come by, and whoever comes there has the field that is
  reported ahead, in the text that its location names. -/
  violations : ∀ limits, ∀ v ∈ check limits (text.entry node)
      (Closure.resolve index (text.entry node)).fragments,
    (∃ chain spot i, Trip sources (.start text node) chain spot ∧ spot.addressOf i = v.address) ∧
    ∀ chain spot i, Trip sources (.start text node) chain spot → spot.addressOf i = v.address →
      ∃ head body, spot.body[i]? = some (.field head body) ∧ v.fieldName = head.name.text ∧
        v.location = some (spot.located head.position)
  /-- A missing fragment is located at the first spread of its name that a reader meets. -/
  missing : ∀ m ∈ (Closure.resolve index (text.entry node)).missing, ∃ chain spot i head,
    Trip sources (.start text node) chain spot ∧ spot.body[i]? = some (.spread head) ∧
    head.name.text = m.name ∧ m.location = some (spot.located head.position) ∧
    m.sourcePath = spot.text.path ∧
    ∀ other there j again, Trip sources (.start text node) other there →
      there.body[j]? = some (.spread again) → again.name.text = m.name →
        trailTo other j = trailTo chain i ∨ Earlier (trailTo chain i) (trailTo other j)

section Root

variable (parsed : ∀ text ∈ sources, ∃ raw, SourceDocument.parse raw text.path = .ok text)
  (built : (CorpusIndex.build (sources.map .source)).value = .ok index)
  (given : text ∈ sources) (member : node.toDefinition ∈ text.document.definitions)

include parsed in
theorem Spot.Within.locate (within : spot.Within sources) (position : Position) :
    spot.scope.place.locate position = some (spot.located position) := by
  obtain ⟨raw, accepted⟩ := parsed spot.text within.given
  exact SourceDocument.locate_entry accepted spot.address position

include built in
/-- Readers that come to the same address have the same selections of the same text ahead. -/
theorem trip_unique {there : Spot} {other : List Link}
    (first : Trip sources (.start text node) chain spot)
    (second : Trip sources (.start text node) other there)
    (same : spot.address = there.address) :
    spot.text.path = there.text.path ∧ spot.body = there.body := by
  have root := stands_ofRoot (text.entry node) index.fragments
  have here := root.along ((chain_root_iff built).mpr ⟨spot, first, rfl⟩)
  have away := root.along ((chain_root_iff built).mpr ⟨there, second, rfl⟩)
  obtain ⟨places, bodies⟩ := here.unique away same
  exact ⟨congrArg Sourced.sourcePath places, bodies⟩

include parsed built given member in
/-- A reader can come to each field that is reported. -/
theorem exists_trip_of_reported {limits : DepthLimits} {v : Violation}
    (reported : v ∈ check limits (text.entry node)
      (Closure.resolve index (text.entry node)).fragments) :
    ∃ chain spot i head body, Trip sources (.start text node) chain spot ∧
      spot.body[i]? = some (.field head body) ∧ spot.addressOf i = v.address ∧
      v.fieldName = head.name.text ∧ v.location = some (spot.located head.position) := by
  rw [mem_check_iff, rootHits_resolve, (rootHits_depthFirst ..).mem_iff] at reported
  obtain ⟨_, n, ⟨chain, position, ⟨t, steps, stands, placed⟩, _, _⟩, rfl⟩ := reported
  obtain ⟨spot, trip, rfl⟩ := (chain_root_iff built).mp steps
  have within := within_of_trip given member trip
  refine ⟨chain, spot, position, n.head, n.body, trip, stands, ?_, rfl, ?_⟩
  · rw [FieldNode.violation, placed]
    rfl
  · rw [FieldNode.violation, placed]
    exact within.locate parsed n.head.position

include parsed built given member in
theorem violations_located {limits : DepthLimits} {v : Violation}
    (reported : v ∈ check limits (text.entry node)
      (Closure.resolve index (text.entry node)).fragments) :
    (∃ chain spot i, Trip sources (.start text node) chain spot ∧ spot.addressOf i = v.address) ∧
    ∀ chain spot i, Trip sources (.start text node) chain spot → spot.addressOf i = v.address →
      ∃ head body, spot.body[i]? = some (.field head body) ∧ v.fieldName = head.name.text ∧
        v.location = some (spot.located head.position) := by
  obtain ⟨chain, spot, i, head, body, trip, stands, address, named, location⟩ :=
    exists_trip_of_reported parsed built given member reported
  refine ⟨⟨chain, spot, i, trip, address⟩, fun other there j second same => ?_⟩
  rw [← address] at same
  obtain ⟨addresses, positions⟩ : there.address = spot.address ∧ j = i :=
    (child_node_inj there.scope.place spot.scope.place j i).mp same
  obtain ⟨paths, bodies⟩ := trip_unique built second trip addresses
  refine ⟨head, body, ?_, named, ?_⟩
  · rw [bodies, positions, stands]
  · rw [location, Spot.located, Spot.located, paths]

include parsed built given member in
theorem missing_located {m : MissingFragment}
    (noted : m ∈ (Closure.resolve index (text.entry node)).missing) : ∃ chain spot i head,
    Trip sources (.start text node) chain spot ∧ spot.body[i]? = some (.spread head) ∧
    head.name.text = m.name ∧ m.location = some (spot.located head.position) ∧
    m.sourcePath = spot.text.path ∧
    ∀ other there j again, Trip sources (.start text node) other there →
      there.body[j]? = some (.spread again) → again.name.text = m.name →
        trailTo other j = trailTo chain i ∨ Earlier (trailTo chain i) (trailTo other j) := by
  obtain ⟨_, ⟨place, head⟩, meets, rfl, first⟩ := Closure.missing_first noted
  obtain ⟨chain, i, t, steps, stands, placed, fresh, unknown, rfl⟩ := meets
  obtain ⟨spot, trip, rfl⟩ := (chain_root_iff built).mp steps
  have within := within_of_trip given member trip
  cases placed
  refine ⟨chain, spot, i, head, trip, stands, rfl, within.locate parsed head.position, rfl,
    fun other there j again second stands same => ?_⟩
  -- A name that stands for nothing is never crossed, so no spread of it is passed over.
  have lost : index.fragment? again.name.text = none := by
    rw [same]
    exact unknown
  have away : again.name.text ∉ there.crossed := by
    intro listed
    exact crossed_of_trip built given member second _ listed lost
  have steps := (chain_root_iff built).mpr ⟨there, second, rfl⟩
  exact first (trailTo other j) ⟨there.scope.place, again⟩
    ⟨other, j, there.scope, steps, stands, rfl, away, lost, rfl⟩ same

end Root

/-- Locations lead into the texts: for every corpus of parsed texts and every document of it. -/
theorem locations_in_texts
    (parsed : ∀ text ∈ sources, ∃ raw, SourceDocument.parse raw text.path = .ok text)
    (built : (CorpusIndex.build (sources.map .source)).value = .ok index) :
    (∀ root, root ∈ index.documents ↔ ∃ text ∈ sources, ∃ node : Executable,
      node.toDefinition ∈ text.document.definitions ∧ root = text.entry node) ∧
    ∀ text ∈ sources, ∀ node : Executable, node.toDefinition ∈ text.document.definitions →
      Located sources index text node := by
  refine ⟨fun root => CorpusIndex.mem_documents_sources_iff built, fun text given node member => ?_⟩
  exact ⟨fun _ _ => within_of_trip given member,
    fun _ _ => violations_located parsed built given member,
    fun _ => missing_located parsed built given member⟩

/-- Two texts with a fragment of the same name, which stands for the one in the second text. What
neither text has is met there first. -/
def crossing : List SourceDocument :=
  [("query Q \x7b a \x7b ...F \x7d ...M \x7d fragment F on T \x7b x \x7d", "a.graphql"),
    ("fragment F on T \x7b b \x7b c \x7d ...M \x7d", "b.graphql")].filterMap
      fun (raw, path) => (SourceDocument.parse raw path).toOption

def crossingIndex : CorpusIndex :=
  (CorpusIndex.build (crossing.map .source)).value.toOption.getD default

theorem parsed_crossing :
    ∀ text ∈ crossing, ∃ raw, SourceDocument.parse raw text.path = .ok text := by
  intro text member
  obtain ⟨⟨raw, path⟩, _, read⟩ := List.mem_filterMap.mp member
  have parsed : SourceDocument.parse raw path = .ok text := by
    cases result : SourceDocument.parse raw path <;> simp_all [Except.toOption]
  refine ⟨raw, ?_⟩
  rw [(SourceDocument.of_parse parsed).1, parsed]

theorem crossing_located : ∃ index,
    (CorpusIndex.build (crossing.map .source)).value = .ok index ∧
    (index.documents.map fun root =>
      (check ⟨1, []⟩ root (Closure.resolve index root).fragments).map (·.location)) =
        [[some ⟨"b.graphql", 1, 19⟩], [], []] ∧
    (index.documents.map fun root => (Closure.resolve index root).missing.map (·.location)) =
      [[some ⟨"b.graphql", 1, 27⟩], [], [some ⟨"b.graphql", 1, 27⟩]] ∧
    ∀ text ∈ crossing, ∀ node : Executable, node.toDefinition ∈ text.document.definitions →
      Located crossing index text node := by
  have built : (CorpusIndex.build (crossing.map .source)).value = .ok crossingIndex := by
    have done : (CorpusIndex.build (crossing.map .source)).value.isOk := by decide +kernel
    obtain ⟨index, done⟩ := ok_of_isOk done
    rw [crossingIndex, done]
    rfl
  exact ⟨crossingIndex, built, by decide +kernel, by decide +kernel,
    (locations_in_texts parsed_crossing built).2⟩

end Depth

end QueryAudit
