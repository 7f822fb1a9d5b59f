import Mathlib.Algebra.Group.Int.Defs
import QueryAudit.Proofs.Json.ReadBack
import QueryAudit.Proofs.Template.Rendering
import QueryAudit.Report.Text

/-! A report printed as JSON says what the report says. Its text is read as the value of the report
with the message of each diagnostic put behind the members of that diagnostic. There is such a text
if every message can be made, and it can be read if the report has no integer that is too long. -/
namespace QueryAudit

namespace Json

/-- An object with one of its members changed. -/
def update (key : String) (change : Json → Json) : Json → Json
  | .obj members =>
    .obj (members.map fun member =>
      if member.1 = key then (member.1, change member.2) else member)
  | value => value

/-- The objects of an array, each with one more member. -/
def extend (key : String) (added : List Json) : Json → Json
  | .arr items => .arr (List.zipWith (fun item value => match item with
    | .obj members => .obj (members ++ [(key, value)])
    | item => item) items added)
  | value => value

end Json

theorem Label.lookUp_eq_ok_iff {label : Label} {table : Label → Option α} {found : Option α} :
    label.lookUp table = .ok found ↔ label.isKey = true ∧ table label = found := by
  rw [lookUp]
  cases label.isKey <;> simp

namespace RuleName

variable {rule : Option RuleName} {table : RuleName → Label → Option String} {id label : Label}
  {data : Members}

/-- Something can be said by an id: it can be looked up, and if there is a template then no value
goes by the name that it has for itself. -/
structure Describable (rule : Option RuleName) (table : RuleName → Label → Option String)
    (id : Label) (data : Members) : Prop where
  key : rule ≠ none → id.isKey = true
  data : rule.bind (table · id) ≠ none → "self" ∉ data.keys

/-- What is said is a text, or the id that stands for it. -/
theorem describe_cases (said : describe rule table id data = .ok label) :
    Describable rule table id data ∧ ((∃ text, label = .ofString text) ∨ label = id) := by
  obtain ⟨template, found, said⟩ := ok_of_bind said
  have key : rule ≠ none → id.isKey = true := by
    cases rule with
    | none => simp
    | some rule => exact fun _ => (Label.lookUp_eq_ok_iff.mp found).1
  have same : rule.bind (table · id) = template := by
    cases rule with
    | none => exact Except.ok.inj found
    | some rule => exact (Label.lookUp_eq_ok_iff.mp found).2
  cases template with
  | none =>
    cases said
    exact ⟨⟨key, fun known => absurd same known⟩, .inr rfl⟩
  | some source =>
    obtain ⟨text, filled, said⟩ := ok_of_bind said
    cases said
    exact ⟨⟨key, fun _ => Template.fresh_of_fill filled⟩, .inl ⟨text, rfl⟩⟩

theorem Describable.exists_describe (describable : Describable rule table id data)
    (plain : ∀ rule source, table rule id = some source → Template.IsPlain .standard source)
    (short : Json.Short (.obj data)) : ∃ label, describe rule table id data = .ok label := by
  cases rule with
  | none => exact ⟨id, rfl⟩
  | some rule =>
    have found := Label.lookUp_eq_ok_iff.mpr ⟨describable.key (by simp), (rfl : table rule id = _)⟩
    rw [describe, Option.elim_some, found, ok_bind]
    cases known : table rule id with
    | none => exact ⟨id, rfl⟩
    | some source =>
      have fresh := describable.data (by simp [known])
      obtain ⟨text, filled⟩ := (plain rule source known).exists_fill fresh short
      refine ⟨.ofString text, ?_⟩
      simp only [filled]
      rfl

theorem isPlain_message? {rule : RuleName} {source : String}
    (found : rule.message? id = some source) : Template.IsPlain .standard source := by
  cases rule with
  | selectionDepth =>
    obtain ⟨_, ⟨⟩⟩ := Option.ite_none_right_eq_some.mp found
    decide +kernel
  | unusedFields =>
    obtain ⟨_, ⟨⟩⟩ := Option.ite_none_right_eq_some.mp found
    decide +kernel

theorem isPlain_suggestion? {rule : RuleName} {source : String}
    (found : rule.suggestion? id = some source) : Template.IsPlain .standard source := by
  cases rule with
  | selectionDepth =>
    obtain ⟨_, ⟨⟩⟩ := Option.ite_none_right_eq_some.mp found
    decide +kernel
  | unusedFields =>
    obtain ⟨_, ⟨⟩⟩ := Option.ite_none_right_eq_some.mp found
    decide +kernel

end RuleName

namespace Diagnostic

/-- The rule that a diagnostic names. -/
def rule? (d : Diagnostic) : Option RuleName := d.ruleId.text?.bind RuleName.ofId?

def messageTemplate? (d : Diagnostic) : Option String := d.rule?.bind (·.message? d.messageId)

/-- A message can be made: its template can be looked up, and takes the data. -/
structure Sayable (d : Diagnostic) : Prop where
  rule : d.ruleId.isKey = true
  message : d.rule? ≠ none → d.messageId.isKey = true
  data : d.messageTemplate? ≠ none → "self" ∉ d.data.keys

variable {d : Diagnostic} {message : Label} {item : Json}

/-- A message is a text, or the id that stands for it. -/
theorem message_cases (said : d.message = .ok message) :
    d.Sayable ∧ ((∃ text, message = .ofString text) ∨ message = d.messageId) := by
  obtain ⟨rule, found, said⟩ := ok_of_bind said
  obtain ⟨key, rfl⟩ := Label.lookUp_eq_ok_iff.mp found
  obtain ⟨describable, known⟩ := RuleName.describe_cases said
  exact ⟨⟨key, describable.key, describable.data⟩, known⟩

theorem Sayable.exists_message (sayable : d.Sayable) (short : Json.Short (.obj d.data)) :
    ∃ message, d.message = .ok message := by
  have describable : RuleName.Describable d.rule? RuleName.message? d.messageId d.data :=
    ⟨sayable.message, sayable.data⟩
  have found : d.rule = .ok d.rule? := Label.lookUp_eq_ok_iff.mpr ⟨sayable.rule, rfl⟩
  rw [Diagnostic.message, found]
  exact describable.exists_describe (fun _ _ => RuleName.isPlain_message?) short

theorem told_eq_ok_iff : d.told = .ok item ↔
    ∃ message, d.message = .ok message ∧ .obj (d.members ++ [("message", message.value)]) = item := by
  simp only [told, bind_eq_ok_iff, pure, Except.pure, Except.ok.injEq]

theorem messageId_mem (d : Diagnostic) : ("message_id", d.messageId.value) ∈ d.members := by
  simp [members]

theorem plain_told (told : d.told = .ok item) (plain : Json.Plain (.obj d.members)) :
    item.Plain := by
  obtain ⟨message, said, rfl⟩ := told_eq_ok_iff.mp told
  rw [Json.plain_obj_iff] at plain
  rw [Json.plain_obj_iff]
  constructor
  · have fixed : Members.keys (d.members ++ [("message", message.value)]) = ["rule_id",
      "message_id", "data", "location", "suggestions", "severity", "message"] := rfl
    rw [fixed]
    decide
  · intro member listed
    rcases List.mem_append.mp listed with own | added
    · exact plain.2 member own
    · rw [List.mem_singleton.mp added]
      rcases (message_cases said).2 with ⟨text, rfl⟩ | rfl
      · exact .str text
      · exact plain.2 ("message_id", d.messageId.value) d.messageId_mem

/-- A message brings no integer that is not in the diagnostic anyway. -/
theorem short_told_iff (told : d.told = .ok item) :
    item.Short ↔ Json.Short (.obj d.members) := by
  obtain ⟨message, said, rfl⟩ := told_eq_ok_iff.mp told
  rw [Json.short_obj, Json.short_obj, List.forall_mem_append, List.forall_mem_singleton]
  refine and_iff_left_of_imp fun short => ?_
  rcases (message_cases said).2 with ⟨text, rfl⟩ | rfl
  · simp [Json.Short, Label.ofString]
  · exact short ("message_id", d.messageId.value) d.messageId_mem

end Diagnostic

namespace Report

/-- The value of a report, each of its diagnostics with its message. -/
def annotated (report : Report) : Except PrintError Json := do
  let messages ← report.diagnostics.mapM (·.message)
  return report.toJson.update "diagnostics" (Json.extend "message" (messages.map (·.value)))

variable {report : Report} {value : Json} {text : String}

/-- The diagnostics with their messages are told one by one. -/
theorem told_iff_messages {diagnostics : List Diagnostic} {items : List Json} :
    diagnostics.mapM (·.told) = .ok items ↔
      ∃ messages, diagnostics.mapM (·.message) = .ok messages ∧
        Json.extend "message" (messages.map (·.value))
          (.arr (diagnostics.map fun d => .obj d.members)) = .arr items := by
  simp only [Json.extend, Json.arr.injEq, mapM_eq_ok_iff]
  induction diagnostics generalizing items with
  | nil => simp [eq_comm]
  | cons d rest ih =>
    rw [List.forall₂_cons_left_iff]
    simp only [List.forall₂_cons_left_iff, ih]
    simp only [Diagnostic.told_eq_ok_iff]
    constructor
    · rintro ⟨item, others, ⟨message, said, rfl⟩, ⟨messages, saidToo, rfl⟩, rfl⟩
      exact ⟨_, ⟨message, messages, said, saidToo, rfl⟩, rfl⟩
    · rintro ⟨_, ⟨message, messages, said, saidToo, rfl⟩, rfl⟩
      exact ⟨_, _, ⟨message, said, rfl⟩, ⟨messages, saidToo, rfl⟩, rfl⟩

theorem annotated_eq_ok_iff : report.annotated = .ok value ↔
    ∃ items, report.diagnostics.mapM (·.told) = .ok items ∧ report.toJsonWith items = value := by
  simp only [annotated, bind_eq_ok_iff, pure, Except.pure, Except.ok.injEq, told_iff_messages]
  constructor
  · rintro ⟨messages, said, rfl⟩
    exact ⟨_, ⟨messages, said, rfl⟩, rfl⟩
  · rintro ⟨items, ⟨messages, said, extended⟩, rfl⟩
    refine ⟨messages, said, ?_⟩
    rw [toJsonWith, ← extended]
    rfl

theorem json_eq_ok_iff : report.json = .ok text ↔
    ∃ value, report.annotated = .ok value ∧ value.Short ∧ value.write .indented = text := by
  simp only [json, bind_eq_ok_iff, annotated_eq_ok_iff, ← Json.isShort_iff]
  constructor
  · rintro ⟨items, told, printed⟩
    split at printed
    next short =>
      cases printed
      exact ⟨_, ⟨items, told, rfl⟩, short, rfl⟩
    · cases printed
  · rintro ⟨_, ⟨items, told, rfl⟩, short, rfl⟩
    refine ⟨items, told, ?_⟩
    rw [if_pos short]
    rfl

theorem plain_annotated (said : report.annotated = .ok value) (plain : report.toJson.Plain) :
    value.Plain := by
  obtain ⟨items, told, rfl⟩ := annotated_eq_ok_iff.mp said
  simp only [toJson, toJsonWith, Json.plain_obj_iff, List.forall_mem_cons, Json.plain_arr_iff,
    List.forall_mem_map] at plain ⊢
  obtain ⟨distinct, diagnostics, others⟩ := plain
  refine ⟨distinct, fun item listed => ?_, others⟩
  obtain ⟨d, given, told⟩ := mem_of_mapM told listed
  exact Diagnostic.plain_told told (Json.plain_obj_iff.mpr (diagnostics d given))

theorem short_toJsonWith_iff {items : List Json} : (report.toJsonWith items).Short ↔
    (∀ item ∈ items, item.Short) ∧ (∀ f ∈ report.failures, f.toJson.Short) ∧
      ∀ w ∈ report.warnings, w.value.Short := by
  simp [toJsonWith, Json.short_obj, Json.short_arr]

theorem short_toJson_iff : report.toJson.Short ↔
    (∀ d ∈ report.diagnostics, Json.Short (.obj d.members)) ∧
      (∀ f ∈ report.failures, f.toJson.Short) ∧ ∀ w ∈ report.warnings, w.value.Short := by
  rw [toJson, short_toJsonWith_iff, List.forall_mem_map]

theorem short_annotated_iff (said : report.annotated = .ok value) :
    value.Short ↔ report.toJson.Short := by
  obtain ⟨items, told, rfl⟩ := annotated_eq_ok_iff.mp said
  rw [short_toJsonWith_iff, short_toJson_iff]
  refine and_congr_left fun _ => ⟨fun short d given => ?_, fun short item listed => ?_⟩
  · obtain ⟨item, listed, told⟩ := exists_of_mapM told given
    exact (Diagnostic.short_told_iff told).mp (short item listed)
  · obtain ⟨d, given, told⟩ := mem_of_mapM told listed
    exact (Diagnostic.short_told_iff told).mpr (short d given)

theorem sayable_of_annotated (said : report.annotated = .ok value) :
    ∀ d ∈ report.diagnostics, d.Sayable := by
  obtain ⟨messages, said, _⟩ := ok_of_bind said
  intro d given
  obtain ⟨message, _, said⟩ := exists_of_mapM said given
  exact (Diagnostic.message_cases said).1

theorem exists_annotated (sayable : ∀ d ∈ report.diagnostics, d.Sayable)
    (short : report.toJson.Short) : ∃ value, report.annotated = .ok value := by
  have messages : ∃ messages, report.diagnostics.mapM (·.message) = .ok messages := by
    refine exists_mapM_ok fun d given => (sayable d given).exists_message ?_
    exact Json.short_obj.mp ((short_toJson_iff.mp short).1 d given) ("data", .obj d.data)
      (by simp [Diagnostic.members])
  obtain ⟨messages, said⟩ := messages
  exact ⟨_, bind_eq_ok_iff.mpr ⟨messages, said, rfl⟩⟩

/-- There is a JSON text exactly if every message can be made and no integer is too long. -/
theorem exists_json_iff : (∃ text, report.json = .ok text) ↔
    (∀ d ∈ report.diagnostics, d.Sayable) ∧ report.toJson.Short := by
  constructor
  · rintro ⟨text, printed⟩
    obtain ⟨value, said, short, _⟩ := json_eq_ok_iff.mp printed
    exact ⟨sayable_of_annotated said, (short_annotated_iff said).mp short⟩
  · rintro ⟨sayable, short⟩
    obtain ⟨value, said⟩ := exists_annotated sayable short
    exact ⟨_, json_eq_ok_iff.mpr ⟨value, said, (short_annotated_iff said).mpr short, rfl⟩⟩

/-- A report printed as JSON is read as the report, each diagnostic with its message behind its
other members, exactly if every message can be made and no integer is too long. -/
theorem json_decoded (plain : report.toJson.Plain) :
    (∃ text value, report.json = .ok text ∧ report.annotated = .ok value ∧
      Json.read text = .ok value) ↔
      (∀ d ∈ report.diagnostics, d.Sayable) ∧ report.toJson.Short := by
  rw [← exists_json_iff]
  constructor
  · rintro ⟨text, value, printed, -⟩
    exact ⟨text, printed⟩
  · rintro ⟨text, printed⟩
    obtain ⟨value, said, short, rfl⟩ := json_eq_ok_iff.mp printed
    have back := (plain_annotated said plain).read_write_iff Json.Layout.blank_indented
    exact ⟨_, value, printed, said, back.mpr short⟩

/-- Every kind of value, with characters that are written as escapes. -/
def intricate : Report where
  diagnostics := [
    { ruleId := "no-unused-fields", messageId := "no-unused-fields",
      data := [("fieldName", .str "a \"b\" \\ \n é 😀"),
        ("uses", .arr [.int (-12), .null, .bool true, .arr [], .obj []]),
        ("", .obj [("deep", .obj [("count", .int (10 ^ 30))])])],
      place := some ⟨"schema.graphql", ⟨.int 3⟩, ⟨.int 0⟩⟩,
      suggestions := [⟨"remove-field", [("self", .int 1)]⟩] },
    { ruleId := "unknown", messageId := "no message", data := [("self", .null)] }]
  failures := [{ ruleId := "selection-set-depth", target := "query A", error := "\t" }]
  warnings := ["siblings_unavailable"]

theorem intricate_decoded : ∃ text value, intricate.json = .ok text ∧
    intricate.annotated = .ok value ∧ Json.read text = .ok value := by
  have plain : intricate.toJson.Plain := by
    simp [toJson, toJsonWith, intricate, Diagnostic.members, Suggestion.toJson, Failure.toJson,
      Place.toJson, Json.ofOption, Members.keys, Label.ofString]
  have sayable : ∀ d ∈ intricate.diagnostics, d.Sayable := by
    simp only [intricate, List.forall_mem_cons]
    refine ⟨⟨rfl, fun _ => rfl, fun _ => by decide⟩, ⟨rfl, fun _ => rfl, fun known => ?_⟩, by simp⟩
    exact absurd rfl known
  have short : intricate.toJson.Short := by
    intro n inside
    simp [toJson, toJsonWith, intricate, Diagnostic.members, Suggestion.toJson, Failure.toJson,
      Place.toJson, Json.ofOption, Label.ofString] at inside
    have few : n.natAbs < 10 ^ 40 := by omega
    exact Nat.lt_of_lt_of_le few (Nat.pow_le_pow_right (by decide) (by decide))
  exact (json_decoded plain).mpr ⟨sayable, short⟩

/-- A report whose only message cannot be made. -/
def selfNamed : Report where
  diagnostics := [
    { ruleId := "no-unused-fields", messageId := "no-unused-fields",
      data := [("fieldName", .str "f"), ("self", .str "x")] }]

/-- A value that goes by the name of the template takes the whole text away. -/
theorem selfNamed_not_decoded : selfNamed.toJson.Plain ∧ selfNamed.toJson.Short ∧
    ¬ ∃ text value, selfNamed.json = .ok text ∧ selfNamed.annotated = .ok value ∧
      Json.read text = .ok value := by
  refine ⟨?_, ?_, ?_⟩
  · simp [toJson, toJsonWith, selfNamed, Diagnostic.members, Json.ofOption, Members.keys,
      Label.ofString]
  · intro n inside
    simp [toJson, toJsonWith, selfNamed, Diagnostic.members, Json.ofOption, Label.ofString] at inside
  · rintro ⟨text, value, -, said, -⟩
    exact (sayable_of_annotated said _ List.mem_cons_self).data (by decide) (by decide)

end Report

end QueryAudit
