import Mathlib.Algebra.GroupWithZero.Nat
import QueryAudit.Proofs.Report.Decoded
import QueryAudit.Proofs.Report.Layout

/-! A report printed as lines of text goes with the report printed as JSON. If nothing that is put
into the lines holds a line break, each line of the text is one line: a diagnostic with the message
that JSON gives it, its suggestions, a failure, a warning, or the summary, which counts what JSON
lists. Both texts are there if all messages and suggestions can be made and no integer is too
long. -/
namespace QueryAudit

section Line

variable {a b : String}

def OneLine (s : String) : Prop := '\n' ∉ s.toList

instance (s : String) : Decidable (OneLine s) := inferInstanceAs (Decidable (_ ∉ _))

@[simp] theorem oneLine_append : OneLine (a ++ b) ↔ OneLine a ∧ OneLine b := by
  simp [OneLine]

/-- A line that is not blank. -/
def Visible (s : String) : Prop := ∃ c ∈ s.toList, c.isWhitespace = false

instance (s : String) : Decidable (Visible s) :=
  decidable_of_iff (s.toList.any (!·.isWhitespace) = true) (by simp [Visible])

@[simp] theorem visible_append : Visible (a ++ b) ↔ Visible a ∨ Visible b := by
  simp [Visible, or_and_right, exists_or]

theorem oneLine_toString (n : Nat) : OneLine (toString n) := by
  intro broken
  rw [Nat.toString_eq_ofList_toDigits, String.toList_ofList] at broken
  have digit := Nat.isDigit_of_mem_toDigits (by decide) (by decide) broken
  cases digit

theorem oneLine_counted {noun : String} (single : OneLine noun) (n : Nat) :
    OneLine (counted n noun) := by
  simp only [counted, oneLine_append]
  refine ⟨⟨⟨oneLine_toString n, by decide⟩, single⟩, ?_⟩
  split <;> decide

end Line

theorem Place.print_eq_ok_iff {place : Place} {text : String} :
    place.print = .ok text ↔ place.toJson.Short ∧ place.text = text := by
  simp only [print, bind_eq_ok_iff, Json.print_eq_ok_iff, pure, Except.pure, Except.ok.injEq, toJson,
    Json.short_obj, List.forall_mem_cons]
  constructor
  · rintro ⟨_, ⟨path, rfl⟩, _, ⟨line, rfl⟩, _, ⟨column, rfl⟩, rfl⟩
    exact ⟨⟨path, line, column, List.forall_mem_nil _⟩, rfl⟩
  · rintro ⟨⟨path, line, column, _⟩, rfl⟩
    exact ⟨_, ⟨path, rfl⟩, _, ⟨line, rfl⟩, _, ⟨column, rfl⟩, rfl⟩

theorem warningText_eq_ok_iff {warning label : Label} : warningText warning = .ok label ↔
    warning.isKey = true ∧ ((warningMessage? warning).map .ofString).getD warning = label := by
  simp only [warningText, bind_eq_ok_iff, Label.lookUp_eq_ok_iff, pure, Except.pure,
    Except.ok.injEq]
  constructor
  · rintro ⟨_, ⟨key, rfl⟩, same⟩
    exact ⟨key, same⟩
  · rintro ⟨key, same⟩
    exact ⟨_, ⟨key, rfl⟩, same⟩

namespace Diagnostic

def suggestionTemplate? (d : Diagnostic) (s : Suggestion) : Option String :=
  d.rule?.bind (·.suggestion? s.id)

/-- All that is printed of a diagnostic can be made: its message, and its suggestions. -/
structure Printable (d : Diagnostic) : Prop extends Sayable d where
  ids : ∀ s ∈ d.suggestions, d.rule? ≠ none → s.id.isKey = true
  suggestions : ∀ s ∈ d.suggestions, d.suggestionTemplate? s ≠ none → "self" ∉ s.data.keys

/-- The place of a diagnostic, or a word for one that is not known. -/
def placeWord (d : Diagnostic) : String := (d.place.map (·.text)).getD "<unknown>"

/-- The line of a diagnostic with a given message, then its suggestions. -/
def block (d : Diagnostic) (message : Json) (suggestions : List Label) : List String :=
  (d.placeWord ++ "  " ++ d.severity.word ++ "  " ++ message.display ++ "  [" ++ d.ruleId.shown ++
    "]") :: suggestions.map fun text => "    suggestion: " ++ text.shown

/-- What is put into the lines of a diagnostic. -/
def rendered (d : Diagnostic) : List String :=
  (d.place.map (·.text)).toList ++ [d.ruleId.shown] ++
    (d.message.toOption.toList ++ d.suggestionTexts.toOption.getD []).map (·.shown)

variable {d : Diagnostic} {view : View} {texts : List Label} {line : String}

theorem suggestionTexts_eq_ok_iff : d.suggestionTexts = .ok texts ↔ d.ruleId.isKey = true ∧
    d.suggestions.mapM (fun s => RuleName.describe d.rule? RuleName.suggestion? s.id s.data) =
      .ok texts := by
  rw [suggestionTexts, bind_eq_ok_iff]
  constructor
  · rintro ⟨_, found, made⟩
    obtain ⟨key, rfl⟩ := Label.lookUp_eq_ok_iff.mp found
    exact ⟨key, made⟩
  · rintro ⟨key, made⟩
    exact ⟨_, Label.lookUp_eq_ok_iff.mpr ⟨key, rfl⟩, made⟩

theorem view_eq_ok_iff : d.view = .ok view ↔ (∀ place ∈ d.place, place.toJson.Short) ∧
    ∃ message suggestions, d.message = .ok message ∧ d.suggestionTexts = .ok suggestions ∧
      ⟨(d.place.map (·.text)).getD "", d.severity.word, message, d.ruleId, suggestions⟩ = view := by
  have placed {location : String} : d.place.elim (pure "") (·.print) = .ok location ↔
      (∀ place ∈ d.place, place.toJson.Short) ∧ (d.place.map (·.text)).getD "" = location := by
    cases d.place with
    | none => simp [pure, Except.pure]
    | some place => simp [Place.print_eq_ok_iff]
  rw [Diagnostic.view]
  simp only [bind_eq_ok_iff, placed]
  simp only [pure, Except.pure, Except.ok.injEq]
  constructor
  · rintro ⟨_, ⟨short, rfl⟩, message, said, suggestions, suggested, rfl⟩
    exact ⟨short, message, suggestions, said, suggested, rfl⟩
  · rintro ⟨short, message, suggestions, said, suggested, rfl⟩
    exact ⟨_, ⟨short, rfl⟩, message, said, suggestions, suggested, rfl⟩

/-- What is seen of a diagnostic leaves its lines. -/
theorem lines_of_view (viewed : d.view = .ok view) :
    view.lines = d.block view.message.value view.suggestions := by
  obtain ⟨_, message, suggestions, _, _, rfl⟩ := view_eq_ok_iff.mp viewed
  have place : (if ((d.place.map (·.text)).getD "").isEmpty then "<unknown>"
      else (d.place.map (·.text)).getD "") = d.placeWord := by
    cases known : d.place with
    | none => simp [placeWord, known]
    | some place =>
      have text : place.text = place.path.shown ++ ":" ++ place.line.shown ++ ":" ++
          place.column.shown := rfl
      simp [placeWord, known, text]
  rw [View.lines, place]
  rfl

theorem printable_of_view (viewed : d.view = .ok view) : d.Printable := by
  obtain ⟨_, message, suggestions, said, suggested, _⟩ := view_eq_ok_iff.mp viewed
  obtain ⟨_, made⟩ := suggestionTexts_eq_ok_iff.mp suggested
  have describable (s : Suggestion) (listed : s ∈ d.suggestions) :
      RuleName.Describable d.rule? RuleName.suggestion? s.id s.data := by
    obtain ⟨_, _, described⟩ := exists_of_mapM made listed
    exact (RuleName.describe_cases described).1
  exact ⟨(message_cases said).1, fun s listed => (describable s listed).key,
    fun s listed => (describable s listed).data⟩

theorem length_suggestions_of_view (viewed : d.view = .ok view) :
    view.suggestions.length = d.suggestions.length := by
  obtain ⟨_, message, suggestions, _, suggested, rfl⟩ := view_eq_ok_iff.mp viewed
  obtain ⟨_, made⟩ := suggestionTexts_eq_ok_iff.mp suggested
  exact (mapM_eq_ok_iff.mp made).length_eq.symm

/-- A diagnostic that can be printed is seen, with no integer that it does not have itself. -/
theorem Printable.exists_view (printable : d.Printable) (short : Json.Short (.obj d.members)) :
    ∃ view, d.view = .ok view ∧ view.Short := by
  simp only [members, Json.short_obj, List.forall_mem_cons, Json.short_arr,
    List.forall_mem_map] at short
  obtain ⟨rule, messageId, data, location, suggestions, _⟩ := short
  obtain ⟨message, said⟩ := printable.exists_message (Json.short_obj.mpr data)
  have suggestion (s : Suggestion) (listed : s ∈ d.suggestions) : s.id.value.Short ∧
      ∃ label, RuleName.describe d.rule? RuleName.suggestion? s.id s.data = .ok label := by
    have inside := suggestions s listed
    simp only [Suggestion.toJson, Json.short_obj, List.forall_mem_cons] at inside
    have describable : RuleName.Describable d.rule? RuleName.suggestion? s.id s.data :=
      ⟨printable.ids s listed, printable.suggestions s listed⟩
    exact ⟨inside.1, describable.exists_describe (fun _ _ => RuleName.isPlain_suggestion?)
      (Json.short_obj.mpr inside.2.1)⟩
  obtain ⟨texts, made⟩ := exists_mapM_ok fun s listed => (suggestion s listed).2
  have suggested := suggestionTexts_eq_ok_iff.mpr ⟨printable.rule, made⟩
  have place : ∀ place ∈ d.place, place.toJson.Short := by
    intro place known
    rw [Option.mem_def.mp known] at location
    exact location
  refine ⟨_, view_eq_ok_iff.mpr ⟨place, message, texts, said, suggested, rfl⟩, ?_, rule, ?_⟩
  · rcases (message_cases said).2 with ⟨text, rfl⟩ | rfl
    · exact Json.short_str text
    · exact messageId
  · intro label listed
    obtain ⟨s, given, described⟩ := mem_of_mapM made listed
    rcases (RuleName.describe_cases described).2 with ⟨text, rfl⟩ | rfl
    · exact Json.short_str text
    · exact (suggestion s given).1

theorem oneLine_lines (viewed : d.view = .ok view) (single : ∀ s ∈ d.rendered, OneLine s)
    (listed : line ∈ view.lines) : OneLine line := by
  rw [lines_of_view viewed] at listed
  obtain ⟨_, message, suggestions, said, suggested, rfl⟩ := view_eq_ok_iff.mp viewed
  simp only [rendered, said, suggested, Except.toOption, Option.toList_some, Option.getD_some,
    List.forall_mem_append, List.forall_mem_map, List.forall_mem_singleton] at single
  obtain ⟨⟨located, rule⟩, message, suggestions⟩ := single
  have place : OneLine d.placeWord := by
    cases known : d.place with
    | none =>
      rw [placeWord, known]
      decide
    | some place =>
      rw [placeWord, known]
      exact located place.text (by simp [known])
  have severity : OneLine d.severity.word := by
    cases d.severity
    decide
  rw [block, List.mem_cons, List.mem_map] at listed
  rcases listed with rfl | ⟨text, suggested, rfl⟩
  · simp only [oneLine_append]
    refine ⟨⟨⟨⟨⟨⟨⟨place, ?_⟩, severity⟩, ?_⟩, message⟩, ?_⟩, rule⟩, ?_⟩ <;> decide
  · exact oneLine_append.mpr ⟨by decide, suggestions text suggested⟩

theorem View.visible_lines (view : View) : ∀ line ∈ view.lines, Visible line := by
  simp only [View.lines, List.forall_mem_cons, List.forall_mem_map]
  refine ⟨visible_append.mpr (.inr (by decide)), fun s _ => ?_⟩
  exact visible_append.mpr (.inl (by decide))

end Diagnostic

namespace Failure

/-- What is put into the line of a failure. -/
def rendered (f : Failure) : List String :=
  [f.sourcePath.shown, f.ruleId.shown, f.target.shown, f.error.shown]

theorem oneLine_line {f : Failure} (single : ∀ s ∈ f.rendered, OneLine s) : OneLine f.line := by
  simp only [rendered, List.forall_mem_cons] at single
  obtain ⟨path, rule, target, error, -⟩ := single
  have place : OneLine (if f.sourcePath.isBlank then "<unknown>" else f.sourcePath.shown) := by
    split
    · decide
    · exact path
  simp only [line, oneLine_append]
  refine ⟨⟨⟨⟨⟨⟨place, ?_⟩, rule⟩, ?_⟩, target⟩, ?_⟩, error⟩ <;> decide

theorem visible_line (f : Failure) : Visible f.line := by
  have word : Visible "  failure  " := by decide
  simp [line, word]

end Failure

namespace Report

/-- What is put into the lines of a report. -/
def rendered (report : Report) : List String :=
  report.diagnostics.flatMap (·.rendered) ++ report.failures.flatMap (·.rendered) ++
    (report.warnings.filterMap fun w => (warningText w).toOption).map (·.shown)

/-- The lines of diagnostics, one after the other, each with the message of its JSON value and with
its suggestions. -/
inductive Shows : List Diagnostic → List Json → List String → Prop where
  | nil : Shows [] [] []
  | cons {d : Diagnostic} {item message : Json} {suggestions : List Label}
      {others : List Diagnostic} {items : List Json} {lines : List String}
      (given : item.get? "message" = some message)
      (suggested : d.suggestionTexts = .ok suggestions) (later : Shows others items lines) :
      Shows (d :: others) (item :: items) (d.block message suggestions ++ lines)

/-- Lines that go with the JSON value of a report. -/
structure LineByLine (report : Report) (value : Json) (lines : List String) : Prop where
  count : lines.length = (report.diagnostics.map fun d => 1 + d.suggestions.length).sum +
    report.failures.length + report.warnings.length + 1
  visible : ∀ line ∈ lines, Visible line
  order : ∃ items failed problems warnings,
    value.get? "diagnostics" = some (.arr items) ∧
    value.get? "failures" = some (.arr failed) ∧
    report.warnings.mapM warningText = .ok warnings ∧
    Shows report.diagnostics items problems ∧
    lines = problems ++ report.failures.map (·.line) ++
      warnings.map (fun w => "warning: " ++ w.shown) ++
      [counted items.length "problem" ++ ", " ++ counted failed.length "failure"]

variable {report : Report} {diagnostics : List Diagnostic} {views : List Diagnostic.View}
  {warnings : List Label} {items : List Json}

theorem shows_told (viewed : diagnostics.mapM (·.view) = .ok views)
    (told : diagnostics.mapM (·.told) = .ok items) :
    Shows diagnostics items (views.flatMap (·.lines)) := by
  rw [mapM_eq_ok_iff] at viewed told
  induction viewed generalizing items with
  | nil =>
    cases told
    exact .nil
  | cons here _ ih =>
    cases told with
    | cons told others =>
      obtain ⟨message, said, rfl⟩ := Diagnostic.told_eq_ok_iff.mp told
      rw [List.flatMap_cons, Diagnostic.lines_of_view here]
      obtain ⟨_, message', suggestions, saidToo, suggested, rfl⟩ := Diagnostic.view_eq_ok_iff.mp here
      cases said.symm.trans saidToo
      exact .cons rfl suggested (ih others)

theorem length_linesOf (viewed : report.diagnostics.mapM (·.view) = .ok views)
    (told : report.warnings.mapM warningText = .ok warnings) :
    (linesOf views report.failures warnings).length =
      (report.diagnostics.map fun d => 1 + d.suggestions.length).sum + report.failures.length +
        report.warnings.length + 1 := by
  have problems : views.map (fun view => view.lines.length) =
      report.diagnostics.map fun d => 1 + d.suggestions.length := by
    refine map_of_mapM (fun d view viewed => ?_) viewed
    rw [Diagnostic.View.lines, List.length_cons, List.length_map,
      Diagnostic.length_suggestions_of_view viewed, Nat.add_comm]
  have warned : warnings.length = report.warnings.length := (mapM_eq_ok_iff.mp told).length_eq.symm
  simp only [linesOf, List.length_append, List.length_flatMap, problems, List.length_map,
    List.length_singleton, warned]

theorem visible_linesOf (views : List Diagnostic.View) (failures : List Failure)
    (warnings : List Label) : ∀ line ∈ linesOf views failures warnings, Visible line := by
  have word : Visible "warning: " := by decide
  have comma : Visible ", " := by decide
  simp only [linesOf, List.forall_mem_append, List.forall_mem_flatMap, List.forall_mem_map,
    List.forall_mem_singleton]
  refine ⟨⟨⟨fun view _ => view.visible_lines, fun f _ => f.visible_line⟩, fun w _ => ?_⟩, ?_⟩
  · exact visible_append.mpr (.inl word)
  · exact visible_append.mpr (.inl (visible_append.mpr (.inr comma)))

theorem oneLine_linesOf (single : ∀ s ∈ report.rendered, OneLine s)
    (viewed : report.diagnostics.mapM (·.view) = .ok views)
    (told : report.warnings.mapM warningText = .ok warnings) :
    ∀ line ∈ linesOf views report.failures warnings, OneLine line := by
  simp only [rendered, List.forall_mem_append, List.forall_mem_flatMap, List.forall_mem_map,
    List.forall_mem_filterMap] at single
  obtain ⟨⟨diagnostics, failures⟩, warned⟩ := single
  simp only [linesOf, List.forall_mem_append, List.forall_mem_flatMap, List.forall_mem_map,
    List.forall_mem_singleton]
  refine ⟨⟨⟨fun view seen line listed => ?_, fun f listed => ?_⟩, fun w listed => ?_⟩, ?_⟩
  · obtain ⟨d, given, viewed⟩ := mem_of_mapM viewed seen
    exact Diagnostic.oneLine_lines viewed (diagnostics d given) listed
  · exact Failure.oneLine_line (failures f listed)
  · obtain ⟨warning, given, told⟩ := mem_of_mapM told listed
    exact oneLine_append.mpr ⟨by decide, warned warning given w (by rw [told]; rfl)⟩
  · simp only [oneLine_append]
    exact ⟨⟨oneLine_counted (by decide) _, by decide⟩, oneLine_counted (by decide) _⟩

/-- Whatever the layout sees can be told as JSON, and the lines go with it. -/
theorem exists_lineByLine (viewed : report.diagnostics.mapM (·.view) = .ok views)
    (told : report.warnings.mapM warningText = .ok warnings) :
    ∃ value, report.annotated = .ok value ∧
      report.LineByLine value (linesOf views report.failures warnings) := by
  have said : ∃ items, report.diagnostics.mapM (·.told) = .ok items := by
    refine exists_mapM_ok fun d given => ?_
    obtain ⟨view, _, viewed⟩ := exists_of_mapM viewed given
    obtain ⟨_, message, _, said, _, _⟩ := Diagnostic.view_eq_ok_iff.mp viewed
    exact ⟨_, Diagnostic.told_eq_ok_iff.mpr ⟨message, said, rfl⟩⟩
  obtain ⟨items, said⟩ := said
  have seen : views.length = items.length :=
    (mapM_eq_ok_iff.mp viewed).length_eq.symm.trans (mapM_eq_ok_iff.mp said).length_eq
  refine ⟨_, annotated_eq_ok_iff.mpr ⟨items, said, rfl⟩, length_linesOf viewed told,
    visible_linesOf _ _ _, items, _, _, warnings, rfl, rfl, told, shows_told viewed said, ?_⟩
  rw [linesOf, seen, List.length_map]

/-- All that is printed of a report can be made, and no integer in it is too long. -/
structure Printable (report : Report) : Prop where
  diagnostics : ∀ d ∈ report.diagnostics, d.Printable
  warnings : ∀ w ∈ report.warnings, w.isKey = true
  short : report.toJson.Short
  problemCount : report.diagnostics.length < 10 ^ Text.longestNumber
  failureCount : report.failures.length < 10 ^ Text.longestNumber

theorem Printable.exists_text (printable : report.Printable) :
    ∃ text, report.text = .ok text := by
  obtain ⟨diagnostics, failures, warnings⟩ := short_toJson_iff.mp printable.short
  have seen (d : Diagnostic) (given : d ∈ report.diagnostics) :=
    (printable.diagnostics d given).exists_view (diagnostics d given)
  obtain ⟨views, viewed⟩ := exists_mapM_ok fun d given => (seen d given).imp fun _ view => view.1
  obtain ⟨labels, told⟩ := exists_mapM_ok fun w given =>
    ⟨_, warningText_eq_ok_iff.mpr ⟨printable.warnings w given, rfl⟩⟩
  refine ⟨_, text_eq_ok_iff.mpr ⟨views, labels, viewed, told, ⟨fun view listed => ?_, failures,
    fun label listed => ?_, ?_, printable.failureCount⟩, rfl⟩⟩
  · obtain ⟨d, given, viewed⟩ := mem_of_mapM viewed listed
    obtain ⟨_, viewedToo, short⟩ := seen d given
    cases viewed.symm.trans viewedToo
    exact short
  · obtain ⟨w, given, told⟩ := mem_of_mapM told listed
    obtain ⟨_, rfl⟩ := warningText_eq_ok_iff.mp told
    cases warningMessage? w with
    | none => exact warnings w given
    | some text => exact Json.short_str text
  · rw [← (mapM_eq_ok_iff.mp viewed).length_eq]
    exact printable.problemCount

theorem printable_of_text {text json : String} (printed : report.text = .ok text)
    (encoded : report.json = .ok json) : report.Printable := by
  obtain ⟨views, labels, viewed, told, writable, _⟩ := text_eq_ok_iff.mp printed
  obtain ⟨_, short⟩ := exists_json_iff.mp ⟨json, encoded⟩
  refine ⟨fun d given => ?_, fun w given => ?_, short, ?_, writable.failureCount⟩
  · obtain ⟨_, _, viewed⟩ := exists_of_mapM viewed given
    exact Diagnostic.printable_of_view viewed
  · obtain ⟨_, _, told⟩ := exists_of_mapM told given
    exact (warningText_eq_ok_iff.mp told).1
  · rw [(mapM_eq_ok_iff.mp viewed).length_eq]
    exact writable.problemCount

/-- The two texts of a report say the same. -/
structure Agrees (report : Report) : Prop where
  /-- A text ends with a line break, and its lines go with the JSON value. -/
  lines : ∀ text, report.text = .ok text → ∃ value lines, report.annotated = .ok value ∧
    text.toList.splitOn '\n' = lines.map String.toList ++ [[]] ∧ report.LineByLine value lines
  /-- It is this value that is printed as JSON. -/
  json : ∀ text, report.json = .ok text →
    ∃ value, report.annotated = .ok value ∧ value.write .indented = text
  both : (∃ text json, report.text = .ok text ∧ report.json = .ok json) ↔ report.Printable

/-- A report is printed as text line by line as it is printed as JSON, and both can be had exactly if
all messages and suggestions can be made, the warnings can be looked up and no integer is too
long. -/
theorem text_lineByLine (single : ∀ s ∈ report.rendered, OneLine s) : report.Agrees where
  lines text printed := by
    obtain ⟨views, labels, viewed, told, _, rfl⟩ := text_eq_ok_iff.mp printed
    obtain ⟨value, said, agree⟩ := exists_lineByLine viewed told
    exact ⟨value, _, said, splitOn_unlines (oneLine_linesOf single viewed told), agree⟩
  json text encoded := by
    obtain ⟨value, said, _, same⟩ := json_eq_ok_iff.mp encoded
    exact ⟨value, said, same⟩
  both := by
    constructor
    · rintro ⟨text, json, printed, encoded⟩
      exact printable_of_text printed encoded
    · intro printable
      obtain ⟨text, printed⟩ := printable.exists_text
      have sayable (d : Diagnostic) (given : d ∈ report.diagnostics) : d.Sayable :=
        (printable.diagnostics d given).toSayable
      obtain ⟨json, encoded⟩ := exists_json_iff.mpr ⟨sayable, printable.short⟩
      exact ⟨text, json, printed, encoded⟩

/-- Diagnostics with and without a place, and all kinds of lines. -/
def varied : Report where
  diagnostics := [
    { ruleId := "no-unused-fields", messageId := "no-unused-fields",
      data := [("fieldName", .str "a"), ("uses", .arr [.int 2, .str "b"])],
      place := some ⟨"schema.graphql", ⟨.int 3⟩, ⟨.int 5⟩⟩,
      suggestions := [⟨"remove-field", [("fieldName", .str "a")]⟩, ⟨"", []⟩] },
    { ruleId := "unknown", messageId := "", data := [("self", .null)] }]
  failures := [{ ruleId := "selection-set-depth", target := "query A" },
    { sourcePath := "a.graphql", error := "e" }]
  warnings := ["siblings_unavailable", ""]

theorem varied_lineByLine :
    (∃ text json, varied.text = .ok text ∧ varied.json = .ok json) ∧ varied.Agrees := by
  have agrees : varied.Agrees := text_lineByLine (by decide +kernel)
  have few : 2 < 10 ^ Text.longestNumber :=
    Nat.lt_of_lt_of_le (by decide : 2 < 10 ^ 1) (Nat.pow_le_pow_right (by decide) (by decide))
  refine ⟨agrees.both.mpr ⟨?_, by decide, (Json.isShort_iff _).mp (by decide +kernel), few, few⟩,
    agrees⟩
  simp only [varied, List.forall_mem_cons]
  refine ⟨⟨⟨rfl, fun _ => rfl, fun _ => by decide⟩, by decide, by decide⟩, ⟨⟨rfl, fun _ => rfl,
    fun known => ?_⟩, by decide, by decide⟩, by simp⟩
  exact absurd rfl known

/-- A value that goes by the name of the template takes the lines away, too. -/
theorem selfNamed_not_lineByLine : (∀ s ∈ selfNamed.rendered, OneLine s) ∧
    ¬ ∃ text, selfNamed.text = .ok text := by
  refine ⟨by decide +kernel, ?_⟩
  rintro ⟨text, printed⟩
  obtain ⟨views, _, viewed, _⟩ := text_eq_ok_iff.mp printed
  obtain ⟨_, _, viewed⟩ := exists_of_mapM viewed List.mem_cons_self
  exact (Diagnostic.printable_of_view viewed).data (by decide) (by decide)

end Report

end QueryAudit
