import Mathlib.Data.List.Basic
import QueryAudit.Config.Depth

/-! What the options of the depth rule are read as. The names to ignore should be a list of texts,
but every value that has something to list is taken apart first, and only its parts are checked: a
text counts as its characters, an object as its keys, and whatever counts as absent as nothing. A
value with nothing to list stops the reading before the limit is looked at. The main statement gives
each outcome by rules on the options alone, and says for which options none of this shows. -/
namespace QueryAudit

namespace Json

theorem asNat?_eq_some_iff {value : Json} {n : Nat} : value.asNat? = some n ↔ value = .ofNat n := by
  cases value with
  | int i =>
    simp only [asNat?, ofNat, Json.int.injEq]
    by_cases negative : i < 0
    · simp only [if_pos negative, reduceCtorEq, false_iff]
      omega
    · simp only [if_neg negative, Option.some.injEq]
      omega
  | _ => simp [asNat?, ofNat]

theorem asNat?_eq_none_iff {value : Json} : value.asNat? = none ↔ ∀ n, value ≠ .ofNat n := by
  rw [Option.eq_none_iff_forall_ne_some]
  exact forall_congr' fun n => not_congr asNat?_eq_some_iff

theorem asString?_eq_some_iff {value : Json} {text : String} :
    value.asString? = some text ↔ value = .str text := by
  cases value <;> simp [asString?]

theorem asString?_eq_none_iff {value : Json} :
    value.asString? = none ↔ ∀ text, value ≠ .str text := by
  rw [Option.eq_none_iff_forall_ne_some]
  exact forall_congr' fun text => not_congr asString?_eq_some_iff

theorem mapM_asString?_cons (item : Json) (rest : List Json) : (item :: rest).mapM asString? =
    item.asString?.bind fun text => (rest.mapM asString?).map (text :: ·) := by
  rw [List.mapM_cons]
  cases item.asString? with
  | none => rfl
  | some text => cases rest.mapM asString? <;> rfl

/-- Values are read as texts if they are the values of these texts. -/
theorem mapM_asString?_eq_some_iff {items : List Json} {texts : List String} :
    items.mapM asString? = some texts ↔ items = texts.map .str := by
  induction items generalizing texts with
  | nil => cases texts <;> simp
  | cons item rest ih =>
    simp only [mapM_asString?_cons, Option.bind_eq_some_iff, asString?_eq_some_iff,
      Option.map_eq_some_iff, ih]
    constructor
    · rintro ⟨text, rfl, more, rfl, rfl⟩
      rfl
    · intro same
      obtain ⟨text, more, rfl, rfl, rfl⟩ := List.map_eq_cons_iff.mp same.symm
      exact ⟨text, rfl, more, rfl, rfl⟩

/-- One value that is no text is enough to read none of them. -/
theorem mapM_asString?_eq_none_iff {items : List Json} :
    items.mapM asString? = none ↔ ∃ item ∈ items, ∀ text, item ≠ .str text := by
  induction items with
  | nil => simp
  | cons item rest ih =>
    rw [mapM_asString?_cons]
    cases here : item.asString? with
    | none => simp [asString?_eq_none_iff.mp here]
    | some text =>
      obtain rfl := asString?_eq_some_iff.mp here
      simp [ih]

end Json

namespace DepthOptions

/-- The limit in force: the first spelling, else the second, else the one that holds where none is
given. -/
inductive InForce (options : Members) : Json → Prop where
  | first : Members.get? "maxDepth" options = some value → InForce options value
  | second : Members.get? "maxDepth" options = none →
      Members.get? "max_depth" options = some value → InForce options value
  | neither : Members.get? "maxDepth" options = none → Members.get? "max_depth" options = none →
      InForce options (.ofNat 7)

/-- The names to ignore as they should be given: as a list of texts, or not at all. -/
inductive Given : Option Json → List String → Prop where
  | absent : Given none []
  | null : Given (some .null) []
  | names : Given (some (.strings names)) names

/-- The names that are taken from a value. -/
inductive Taken : Option Json → List String → Prop where
  | given : Given value names → Taken value names
  | no : Taken (some (.bool false)) []
  | zero : Taken (some (.int 0)) []
  | zeroFloat : x.isZero → Taken (some (.float x)) []
  | characters : Taken (some (.str text)) (text.toList.map String.singleton)
  | keys : Taken (some (.obj members)) (Members.keys members)

/-- A value that has nothing to list and does not count as absent. -/
inductive Unlistable : Option Json → Prop where
  | yes : Unlistable (some (.bool true))
  | int : n ≠ 0 → Unlistable (some (.int n))
  | float : x.isZero = false → Unlistable (some (.float x))

/-- A value of the kind that names are given by. -/
inductive Plain : Option Json → Prop where
  | absent : Plain none
  | null : Plain (some .null)
  | list : Plain (some (.arr items))

/-- What comes of reading options, by one rule for each outcome. -/
inductive Reads (options : Members) : Except ConfigFailure DepthOptions → Prop where
  | stopped : Unlistable (Members.get? "ignore" options) → Reads options (.error .notListable)
  | limit : ¬ Unlistable (Members.get? "ignore" options) → InForce options value →
      (∀ n, value ≠ .ofNat n) → Reads options (.error (.reported (.maxDepth value)))
  | names : InForce options (.ofNat n) → Members.get? "ignore" options = some (.arr items) →
      item ∈ items → (∀ text, item ≠ .str text) → Reads options (.error (.reported .ignoreNames))
  | accepted : InForce options (.ofNat depth) → Taken (Members.get? "ignore" options) names →
      Reads options (.ok ⟨depth, names⟩)

/-- What options should be read as: the limit in force and the names that are given, and nothing but
reported errors otherwise. -/
structure Strict (options : Members) (outcome : Except ConfigFailure DepthOptions) : Prop where
  succeeds : ∀ found, outcome = .ok found ↔ InForce options (.ofNat found.maxDepth) ∧
    Given (Members.get? "ignore" options) found.ignore
  otherwise : (∀ found, outcome ≠ .ok found) → ∃ error, outcome = .error (.reported error)

variable {options : Members} {value : Json} {names : List String} {given : Option Json}
  {items : List Json} {outcome : Except ConfigFailure DepthOptions}

theorem inForce_iff : InForce options value ↔ limit options = value := by
  constructor
  · rintro (present | ⟨missing, present⟩ | ⟨missing, missingToo⟩)
    · simp [limit, present]
    · simp [limit, missing, present]
    · simp [limit, missing, missingToo, defaultMaxDepth]
  · rintro rfl
    cases here : Members.get? "maxDepth" options with
    | some given => simpa [limit, here] using InForce.first here
    | none =>
      cases other : Members.get? "max_depth" options with
      | some given => simpa [limit, here, other] using InForce.second here other
      | none => simpa [limit, here, other, defaultMaxDepth] using InForce.neither here other

@[simp] theorem listed_str (text : String) :
    listed (.str text) = .ok ((text.toList.map String.singleton).map .str) := by
  by_cases empty : text = ""
  · simp [listed, Json.isFalsy, empty]
  · simp [listed, Json.isFalsy, empty]

@[simp] theorem listed_arr (items : List Json) : listed (.arr items) = .ok items := by
  cases items <;> rfl

@[simp] theorem listed_obj (members : Members) :
    listed (.obj members) = .ok ((Members.keys members).map .str) := by
  cases members <;> simp [listed, Json.isFalsy, Members.keys]

/-- Names are taken from a value, it is a list, or there is nothing to list. -/
theorem kinds (given : Option Json) :
    (∃ names, Taken given names) ∨ (∃ items, given = some (.arr items)) ∨ Unlistable given := by
  cases given with
  | none => exact .inl ⟨_, .given .absent⟩
  | some value =>
    cases value with
    | null => exact .inl ⟨_, .given .null⟩
    | bool b =>
      cases b with
      | true => exact .inr (.inr .yes)
      | false => exact .inl ⟨_, .no⟩
    | int n =>
      by_cases zero : n = 0
      · subst zero
        exact .inl ⟨_, .zero⟩
      · exact .inr (.inr (.int zero))
    | float x =>
      cases zero : x.isZero with
      | true => exact .inl ⟨_, .zeroFloat zero⟩
      | false => exact .inr (.inr (.float zero))
    | str text => exact .inl ⟨_, .characters⟩
    | arr items => exact .inr (.inl ⟨items, rfl⟩)
    | obj members => exact .inl ⟨_, .keys⟩

theorem listed_of_taken (taken : Taken given names) :
    listed (given.getD .null) = .ok (names.map .str) := by
  cases taken with
  | given plain =>
    cases plain with
    | absent => rfl
    | null => rfl
    | names => exact listed_arr _
  | no => rfl
  | zero => rfl
  | zeroFloat zero => simp [listed, Json.isFalsy, zero]
  | characters => exact listed_str _
  | keys => exact listed_obj _

theorem listed_of_unlistable (unlistable : Unlistable given) :
    listed (given.getD .null) = .error .notListable := by
  cases unlistable with
  | yes => rfl
  | int other => simp [listed, Json.isFalsy, other]
  | float other => simp [listed, Json.isFalsy, other]

/-- Listing what is given lists the names that are taken from it, as texts. -/
theorem listed_eq_texts_iff :
    listed (given.getD .null) = .ok (names.map .str) ↔ Taken given names := by
  refine ⟨fun done => ?_, listed_of_taken⟩
  rcases kinds given with ⟨others, taken⟩ | ⟨items, rfl⟩ | unlistable
  · rw [listed_of_taken taken, Except.ok.injEq] at done
    obtain rfl : others = names := List.map_injective_iff.mpr (fun _ _ => Json.str.inj) done
    exact taken
  · rw [Option.getD_some, listed_arr, Except.ok.injEq] at done
    exact done ▸ .given .names
  · rw [listed_of_unlistable unlistable] at done
    cases done

/-- Only a list can list what is no text. -/
theorem eq_arr_of_listed (done : listed (given.getD .null) = .ok items)
    (other : ∃ item ∈ items, ∀ text, item ≠ .str text) : given = some (.arr items) := by
  obtain ⟨item, member, noText⟩ := other
  rcases kinds given with ⟨names, taken⟩ | ⟨listed, rfl⟩ | unlistable
  · rw [listed_of_taken taken, Except.ok.injEq] at done
    obtain ⟨name, _, same⟩ := List.mem_map.mp (done ▸ member)
    exact absurd same.symm (noText name)
  · rw [Option.getD_some, listed_arr, Except.ok.injEq] at done
    rw [done]
  · rw [listed_of_unlistable unlistable] at done
    cases done

/-- Reading lists the names first, then looks at the limit, and last at what was listed. -/
theorem reads_read (options : Members) : Reads options (read options) := by
  rw [read]
  cases done : listed ((Members.get? "ignore" options).getD .null) with
  | error failure =>
    rcases kinds (Members.get? "ignore" options) with ⟨names, taken⟩ | ⟨items, given⟩ | unlistable
    · simp [listed_of_taken taken] at done
    · simp [given] at done
    · rw [listed_of_unlistable unlistable] at done
      cases done
      exact .stopped unlistable
  | ok items =>
    have listable : ¬ Unlistable (Members.get? "ignore" options) := by
      intro unlistable
      simp [listed_of_unlistable unlistable] at done
    cases natural : (limit options).asNat? with
    | none =>
      exact .limit listable (inForce_iff.mpr rfl) (Json.asNat?_eq_none_iff.mp natural)
    | some depth =>
      have inForce := inForce_iff.mpr (Json.asNat?_eq_some_iff.mp natural)
      cases texts : items.mapM (·.asString?) with
      | none =>
        obtain ⟨item, member, other⟩ := Json.mapM_asString?_eq_none_iff.mp texts
        have given := eq_arr_of_listed done ⟨item, member, other⟩
        simp only [bind, Except.bind, texts]
        exact .names inForce given member other
      | some names =>
        rw [Json.mapM_asString?_eq_some_iff.mp texts] at done
        simp only [bind, Except.bind, texts]
        exact .accepted inForce (listed_eq_texts_iff.mp done)

theorem exists_listed (listable : ¬ Unlistable given) :
    ∃ items, listed (given.getD .null) = .ok items := by
  rcases kinds given with ⟨names, taken⟩ | ⟨items, rfl⟩ | unlistable
  · exact ⟨_, listed_of_taken taken⟩
  · exact ⟨items, listed_arr items⟩
  · exact absurd unlistable listable

theorem Reads.read_eq (reads : Reads options outcome) : read options = outcome := by
  cases reads with
  | stopped unlistable =>
    rw [read, listed_of_unlistable unlistable]
    rfl
  | limit listable inForce other =>
    obtain ⟨items, done⟩ := exists_listed listable
    obtain rfl := inForce_iff.mp inForce
    rw [read, done, Json.asNat?_eq_none_iff.mpr other]
    rfl
  | names inForce given member other =>
    have natural := Json.asNat?_eq_some_iff.mpr (inForce_iff.mp inForce)
    have noTexts := Json.mapM_asString?_eq_none_iff.mpr ⟨_, member, other⟩
    rw [read, given, Option.getD_some, listed_arr, natural]
    simp only [bind, Except.bind, noTexts]
    rfl
  | @accepted depth names inForce taken =>
    have natural := Json.asNat?_eq_some_iff.mpr (inForce_iff.mp inForce)
    have texts : (names.map Json.str).mapM (·.asString?) = some names :=
      Json.mapM_asString?_eq_some_iff.mpr rfl
    rw [read, listed_of_taken taken, natural]
    simp only [bind, Except.bind, texts]
    rfl

/-- The rules give one outcome for all options, which is the one of reading them. -/
theorem reads_iff : Reads options outcome ↔ read options = outcome :=
  ⟨Reads.read_eq, fun same => same ▸ reads_read options⟩

theorem plain_of_given (plain : Given given names) : Plain given := by
  cases plain with
  | absent => exact .absent
  | null => exact .null
  | names => exact .list

/-- From a value of the right kind nothing is taken but what is given. -/
theorem given_of_taken (plain : Plain given) (taken : Taken given names) : Given given names := by
  cases taken with
  | given same => exact same
  | _ => cases plain

theorem Plain.listable (plain : Plain given) : ¬ Unlistable given := by
  intro unlistable
  cases plain <;> cases unlistable

theorem read_eq_ok_iff {found : DepthOptions} : read options = .ok found ↔
    InForce options (.ofNat found.maxDepth) ∧
      Taken (Members.get? "ignore" options) found.ignore := by
  rw [← reads_iff]
  constructor
  · intro reads
    cases reads with
    | accepted inForce taken => exact ⟨inForce, taken⟩
  · rintro ⟨inForce, taken⟩
    exact .accepted inForce taken

/-- Errors are reported unless there was nothing to list. -/
theorem reported_of_listable (listable : ¬ Unlistable (Members.get? "ignore" options))
    (failed : ∀ found, read options ≠ .ok found) :
    ∃ error, read options = .error (.reported error) := by
  have reads := reads_read options
  generalize read options = outcome at reads failed ⊢
  cases reads with
  | stopped unlistable => exact absurd unlistable listable
  | limit => exact ⟨_, rfl⟩
  | names => exact ⟨_, rfl⟩
  | accepted => exact absurd rfl (failed _)

theorem strict_of_plain (plain : Plain (Members.get? "ignore" options)) :
    Strict options (read options) where
  succeeds found := by
    rw [read_eq_ok_iff]
    exact and_congr_right fun _ => ⟨given_of_taken plain, .given⟩
  otherwise := reported_of_listable plain.listable

theorem strict_of_no_limit (listable : ¬ Unlistable (Members.get? "ignore" options))
    (noLimit : ∀ n, ¬ InForce options (.ofNat n)) : Strict options (read options) where
  succeeds found := by
    rw [read_eq_ok_iff]
    simp [noLimit]
  otherwise := reported_of_listable listable

theorem Strict.listable (strict : Strict options (read options)) :
    ¬ Unlistable (Members.get? "ignore" options) := by
  intro unlistable
  have stopped := (Reads.stopped unlistable).read_eq
  obtain ⟨error, reported⟩ := strict.otherwise (by simp [stopped])
  simp [stopped] at reported

/-- With a limit that can be used, strict reading asks for a value of the right kind. -/
theorem Strict.plain {n : Nat} (strict : Strict options (read options))
    (inForce : InForce options (.ofNat n)) : Plain (Members.get? "ignore" options) := by
  rcases kinds (Members.get? "ignore" options) with ⟨names, taken⟩ | ⟨items, list⟩ | unlistable
  · have accepted := (Reads.accepted inForce taken).read_eq
    exact plain_of_given ((strict.succeeds ⟨n, names⟩).mp accepted).2
  · exact list ▸ .list
  · exact absurd unlistable strict.listable

/-- Reading goes by rules on the options alone. It is strict exactly if the names to ignore are
given by a value of the right kind, or if something can be listed but the limit is refused
before. -/
theorem read_strict_iff (options : Members) :
    (∀ outcome, Reads options outcome ↔ read options = outcome) ∧
    (Strict options (read options) ↔ Plain (Members.get? "ignore" options) ∨
      ¬ Unlistable (Members.get? "ignore" options) ∧ ∀ n, ¬ InForce options (.ofNat n)) := by
  refine ⟨fun outcome => reads_iff, fun strict => ?_, ?_⟩
  · by_cases noLimit : ∀ n, ¬ InForce options (.ofNat n)
    · exact .inr ⟨strict.listable, noLimit⟩
    · obtain ⟨n, inForce⟩ := not_forall_not.mp noLimit
      exact .inl (strict.plain inForce)
  · rintro (plain | ⟨listable, noLimit⟩)
    · exact strict_of_plain plain
    · exact strict_of_no_limit listable noLimit

/-- A text is taken apart into characters and an object into keys, what counts as absent is taken
for an empty list, and a number ends the reading without a report. -/
theorem ignored_loosely :
    ¬ Strict [("ignore", .str "ab")] (read [("ignore", .str "ab")]) ∧
    ¬ Strict [("ignore", .obj [("k", .int 1)])] (read [("ignore", .obj [("k", .int 1)])]) ∧
    ¬ Strict [("ignore", .bool false)] (read [("ignore", .bool false)]) ∧
    ¬ Strict [("ignore", .int 3)] (read [("ignore", .int 3)]) := by
  have apart (value : Json) (strict : Strict [("ignore", value)] (read [("ignore", value)])) :
      Plain (some value) := strict.plain (.neither rfl rfl)
  refine ⟨fun strict => ?_, fun strict => ?_, fun strict => ?_, fun strict => ?_⟩
  · cases apart _ strict
  · cases apart _ strict
  · cases apart _ strict
  · cases apart _ strict

end DepthOptions

end QueryAudit
