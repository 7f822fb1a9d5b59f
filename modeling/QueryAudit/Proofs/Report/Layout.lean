import QueryAudit.Proofs.Template.Rendering
import QueryAudit.Report.Text

/-! The layout of a report. It is read as a template whose tags leave no line behind, so each of its
loops leaves whole lines for each item, and the text of a report is made of the lines of its
diagnostics, its failures and its warnings with a summary at the end. -/
namespace QueryAudit

namespace Report

section Layout

open Template

/-- What the layout repeats for items that have a line each, with a heading. -/
def headedPart (heading name : String) : List Node := [
  .text heading, .output (.name name), .text "\n"]

/-- What the layout repeats for each diagnostic. -/
def problemPart : List Node := [
  .output (.orElse (.part (.name "item") "location") (.text "<unknown>")), .text "  ",
  .output (.part (.name "item") "severity"), .text "  ",
  .output (.part (.name "item") "message"), .text "  [",
  .output (.part (.name "item") "rule_id"), .text "]\n",
  .each "suggestion" (.part (.name "item") "suggestions")
    (headedPart "    suggestion: " "suggestion")]

/-- What the layout repeats for each failure. -/
def failurePart : List Node := [
  .output (.orElse (.part (.name "failure") "source_path") (.text "<unknown>")),
  .text "  failure  ", .output (.part (.name "failure") "rule_id"),
  .text " could not check ", .output (.part (.name "failure") "target"), .text ": ",
  .output (.part (.name "failure") "error"), .text "\n"]

/-- Nothing for one of the items that go by a name, and otherwise the ending of many. -/
def ending (name : String) : Expr :=
  .choose (.equal (.count (.name name)) (.number 1)) (.text "") (.text "s")

/-- The last line of the layout. -/
def summaryPart : List Node := [
  .output (.count (.name "diagnostics")), .text " problem", .output (ending "diagnostics"),
  .text ", ", .output (.count (.name "failures")), .text " failure", .output (ending "failures"),
  .text "\n"]

/-- The layout once it is read. -/
def layoutTemplate : Template :=
  .each "item" (.name "diagnostics") problemPart ::
  .each "failure" (.name "failures") failurePart ::
  .each "warning" (.name "warnings") (headedPart "warning: " "warning") :: summaryPart

/-- The pieces of the layout. No blank and no line break of a line that holds a tag alone is left. -/
def layoutPieces : List Piece := [
  .text "", .opens "item" (.name "diagnostics"),
  .text "", .output (.orElse (.part (.name "item") "location") (.text "<unknown>")),
  .text "  ", .output (.part (.name "item") "severity"),
  .text "  ", .output (.part (.name "item") "message"),
  .text "  [", .output (.part (.name "item") "rule_id"),
  .text "]\n", .opens "suggestion" (.part (.name "item") "suggestions"),
  .text "    suggestion: ", .output (.name "suggestion"), .text "\n", .closes, .text "", .closes,
  .text "", .opens "failure" (.name "failures"),
  .text "", .output (.orElse (.part (.name "failure") "source_path") (.text "<unknown>")),
  .text "  failure  ", .output (.part (.name "failure") "rule_id"),
  .text " could not check ", .output (.part (.name "failure") "target"),
  .text ": ", .output (.part (.name "failure") "error"), .text "\n", .closes,
  .text "", .opens "warning" (.name "warnings"),
  .text "warning: ", .output (.name "warning"), .text "\n", .closes,
  .text "", .output (.count (.name "diagnostics")), .text " problem", .output (ending "diagnostics"),
  .text ", ", .output (.count (.name "failures")), .text " failure", .output (ending "failures"),
  .text "\n"]

-- the characters of the layout are taken from its literal; the kernel would count their bytes
set_option maxRecDepth 20000 in
theorem pieces_layout : pieces? .standard layout.toList = some layoutPieces := by
  have cut : ∃ chars, layout.toList = chars ∧ pieces? .standard chars = some layoutPieces := by
    refine ⟨_, String.toList_ofList, ?_⟩
    decide +kernel
  obtain ⟨_, rfl, cut⟩ := cut
  exact cut

theorem read_layout : read? .standard layout = some layoutTemplate := by
  rw [read?, pieces_layout]
  rfl

end Layout

end Report

section Lines

/-- A number of things. -/
def counted (n : Nat) (noun : String) : String :=
  toString n ++ " " ++ noun ++ if n = 1 then "" else "s"

/-- The lines of a diagnostic as the layout sees it. -/
def Diagnostic.View.lines (view : View) : List String :=
  ((if view.location.isEmpty then "<unknown>" else view.location) ++ "  " ++ view.severity ++ "  " ++
    view.message.shown ++ "  [" ++ view.ruleId.shown ++ "]") ::
  view.suggestions.map fun s => "    suggestion: " ++ s.shown

/-- What is written of a diagnostic has no integer that is too long. -/
structure Diagnostic.View.Short (view : View) : Prop where
  message : view.message.value.Short
  ruleId : view.ruleId.value.Short
  suggestions : ∀ s ∈ view.suggestions, s.value.Short

def Failure.line (f : Failure) : String :=
  (if f.sourcePath.isBlank then "<unknown>" else f.sourcePath.shown) ++ "  failure  " ++
    f.ruleId.shown ++ " could not check " ++ f.target.shown ++ ": " ++ f.error.shown

end Lines

namespace Report

section Rendering

open Template

variable {scope : Members}

theorem gives_headed {heading name : String} (label : Label) :
    Gives (renderAll ((name, label.value) :: scope) (headedPart heading name)) label.value.Short
      (unlines [heading ++ label.shown]) := by
  have found : (Expr.name name).eval ((name, label.value) :: scope) = .ok (some label.value) := by
    simp [Expr.eval]
  refine ((gives_text _).cons ((gives_output found).cons ((gives_text _).cons gives_nil))).congr
    ?_ ?_
  · simp
  · rw [unlines_cons, String.append_assoc, String.append_assoc]
    rfl

theorem gives_problem (view : Diagnostic.View) :
    Gives (renderAll (("item", view.toJson) :: scope) problemPart) view.Short
      (unlines view.lines) := by
  have location : (Expr.part (.name "item") "location").eval (("item", view.toJson) :: scope) =
      .ok (some (.str view.location)) := rfl
  have severity : (Expr.part (.name "item") "severity").eval (("item", view.toJson) :: scope) =
      .ok (some (.str view.severity)) := rfl
  have message : (Expr.part (.name "item") "message").eval (("item", view.toJson) :: scope) =
      .ok (some view.message.value) := rfl
  have rule : (Expr.part (.name "item") "rule_id").eval (("item", view.toJson) :: scope) =
      .ok (some view.ruleId.value) := rfl
  have suggestions : (Expr.part (.name "item") "suggestions").eval
      (("item", view.toJson) :: scope) =
      .ok (some (.arr (view.suggestions.map (·.value)))) := rfl
  refine ((gives_orElse location _).cons ((gives_text _).cons ((gives_output severity).cons
    ((gives_text _).cons ((gives_output message).cons ((gives_text _).cons ((gives_output rule).cons
      ((gives_text _).cons ((gives_each suggestions fun s => gives_headed s).cons
        gives_nil))))))))).congr ?_ ?_
  · simp only [Json.short_str, true_and, and_true]
    exact ⟨fun ⟨message, rule, suggestions⟩ => ⟨message, rule, suggestions⟩,
      fun short => ⟨short.message, short.ruleId, short.suggestions⟩⟩
  · have ending : "]\n" = "]" ++ "\n" := rfl
    rw [Diagnostic.View.lines, unlines_cons, List.map_eq_flatMap, ending]
    simp only [String.append_assoc, String.append_empty]
    rfl

theorem gives_failure (f : Failure) :
    Gives (renderAll (("failure", f.toJson) :: scope) failurePart) f.toJson.Short
      (unlines [f.line]) := by
  have path : (Expr.part (.name "failure") "source_path").eval (("failure", f.toJson) :: scope) =
      .ok (some f.sourcePath.value) := rfl
  have rule : (Expr.part (.name "failure") "rule_id").eval (("failure", f.toJson) :: scope) =
      .ok (some f.ruleId.value) := rfl
  have target : (Expr.part (.name "failure") "target").eval (("failure", f.toJson) :: scope) =
      .ok (some f.target.value) := rfl
  have error : (Expr.part (.name "failure") "error").eval (("failure", f.toJson) :: scope) =
      .ok (some f.error.value) := rfl
  refine ((gives_orElse path _).cons ((gives_text _).cons ((gives_output rule).cons
    ((gives_text _).cons ((gives_output target).cons ((gives_text _).cons ((gives_output error).cons
      ((gives_text _).cons gives_nil)))))))).congr ?_ ?_
  · simp only [Failure.toJson, Json.short_obj, List.forall_mem_cons]
    constructor
    · rintro ⟨path, _, rule, _, target, _, error, _⟩
      exact ⟨rule, target, path, error, List.forall_mem_nil _⟩
    · rintro ⟨rule, target, path, error, _⟩
      exact ⟨path, trivial, rule, trivial, target, trivial, error, trivial, trivial⟩
  · rw [Failure.line, unlines_cons]
    simp only [String.append_assoc]
    rfl

section Summary

variable {name : String} {values : List Json} (found : Members.get? name scope = some (.arr values))

include found

theorem eval_count :
    (Expr.count (.name name)).eval scope = .ok (some (.ofNat values.length)) := by
  rw [Expr.eval, Expr.eval, ok_bind, found]
  rfl

theorem eval_ending :
    (ending name).eval scope = .ok (some (.str (if values.length = 1 then "" else "s"))) := by
  have single : some (Json.ofNat values.length) = some (.ofNat 1) ↔ values.length = 1 := by
    simp only [Json.ofNat, Option.some.injEq, Json.int.injEq]
    omega
  have condition : (Expr.equal (.count (.name name)) (.number 1)).eval scope =
      .ok (some (.bool (values.length = 1))) := by
    rw [Expr.eval, eval_count found, Expr.eval, ok_bind, ok_bind]
    simp only [single]
    rfl
  rw [ending, Expr.eval, condition, ok_bind]
  by_cases one : values.length = 1
  · rw [if_pos one]
    simp [one, isFalsy, Json.isFalsy, Expr.eval]
  · rw [if_neg one]
    simp [one, isFalsy, Json.isFalsy, Expr.eval]

end Summary

theorem short_ofNat {n : Nat} : (Json.ofNat n).Short ↔ n < 10 ^ Text.longestNumber :=
  Json.short_int

theorem gives_summary {problems failed : List Json}
    (diagnostics : Members.get? "diagnostics" scope = some (.arr problems))
    (failures : Members.get? "failures" scope = some (.arr failed)) :
    Gives (renderAll scope summaryPart)
      (problems.length < 10 ^ Text.longestNumber ∧ failed.length < 10 ^ Text.longestNumber)
      (unlines [counted problems.length "problem" ++ ", " ++ counted failed.length "failure"]) := by
  refine ((gives_output (eval_count diagnostics)).cons ((gives_text _).cons ((gives_output
    (eval_ending diagnostics)).cons ((gives_text _).cons ((gives_output (eval_count failures)).cons
      ((gives_text _).cons ((gives_output (eval_ending failures)).cons ((gives_text _).cons
        gives_nil)))))))).congr ?_ ?_
  · simp [short_ofNat, Json.short_str]
  · have problem : " problem" = " " ++ "problem" := rfl
    have failure : " failure" = " " ++ "failure" := rfl
    rw [unlines_cons, counted, counted, problem, failure]
    simp only [String.append_assoc]
    rfl

end Rendering

/-- The lines of a report by what the layout sees of it. -/
def linesOf (views : List Diagnostic.View) (failures : List Failure) (warnings : List Label) :
    List String :=
  views.flatMap (·.lines) ++ failures.map (·.line) ++
    warnings.map (fun w => "warning: " ++ w.shown) ++
    [counted views.length "problem" ++ ", " ++ counted failures.length "failure"]

/-- Nothing that the layout writes has an integer that is too long. -/
structure Writable (views : List Diagnostic.View) (failed : List Failure) (told : List Label) :
    Prop where
  diagnostics : ∀ view ∈ views, view.Short
  failures : ∀ f ∈ failed, f.toJson.Short
  warnings : ∀ w ∈ told, w.value.Short
  problemCount : views.length < 10 ^ Text.longestNumber
  failureCount : failed.length < 10 ^ Text.longestNumber

open Template in
/-- The layout leaves the lines of a report and nothing between them, whatever lists are empty. -/
theorem gives_layout (views : List Diagnostic.View) (failures : List Failure)
    (warnings : List Label) :
    Gives (fill .standard layout [("diagnostics", .arr (views.map (·.toJson))),
        ("failures", .arr (failures.map (·.toJson))), ("warnings", .arr (warnings.map (·.value)))])
      (Writable views failures warnings) (unlines (linesOf views failures warnings)) := by
  have fresh : "self" ∉ Members.keys [("diagnostics", .arr (views.map (·.toJson))),
      ("failures", .arr (failures.map (·.toJson))), ("warnings", .arr (warnings.map (·.value)))] := by
    simp [Members.keys]
  rw [fill, read_layout]
  simp only [render_eq_of_fresh fresh, layoutTemplate]
  refine ((gives_each rfl gives_problem).cons ((gives_each rfl gives_failure).cons
    ((gives_each rfl gives_headed).cons (gives_summary rfl rfl)))).congr ?_ ?_
  · rw [List.length_map, List.length_map]
    constructor
    · rintro ⟨diagnostics, failures, warnings, problems, failed⟩
      exact ⟨diagnostics, failures, warnings, problems, failed⟩
    · rintro ⟨diagnostics, failures, warnings, problems, failed⟩
      exact ⟨diagnostics, failures, warnings, problems, failed⟩
  · rw [List.length_map, List.length_map]
    simp only [linesOf, unlines_append, List.map_eq_flatMap, String.append_assoc]

/-- The text of a report is made of lines, and there is one if there is something to write of each
diagnostic and each warning, with no integer that is too long. -/
theorem text_eq_ok_iff {report : Report} {text : String} : report.text = .ok text ↔
    ∃ views warnings, report.diagnostics.mapM (·.view) = .ok views ∧
      report.warnings.mapM warningText = .ok warnings ∧
      Writable views report.failures warnings ∧
      unlines (linesOf views report.failures warnings) = text := by
  simp only [Report.text, bind_eq_ok_iff, gives_layout _ _ _ _]
  constructor
  · rintro ⟨views, viewed, warnings, told, writable, same⟩
    exact ⟨views, warnings, viewed, told, writable, same⟩
  · rintro ⟨views, warnings, viewed, told, writable, same⟩
    exact ⟨views, viewed, warnings, told, writable, same⟩

end Report

end QueryAudit
