import BuildLauncher.Proofs.Launch.ErrorTable
import BuildLauncher.Proofs.Report.Emission

/-!
# Where warnings go

In JSON the warnings of a report stand in its payload, whether it succeeded or failed. For people the
warnings of a success stand on lines of their own, and those of a failure nowhere (`emit_warnings`).
-/
namespace BuildLauncher.Report

open Text

/-- The entry for warnings in a payload. -/
def warningsEntry (warnings : List String) : String :=
  "\n  \"warnings\": " ++ Json.bracketed "[" "]" 1 (warnings.map Json.compact.string)

section Payload

theorem indentedItems_text (level : Nat) (texts : List String) :
    Json.indentedItems level (texts.map .text) = texts.map Json.compact.string := by
  induction texts with
  | nil => rfl
  | cons text rest ih => exact congrArg _ ih

theorem intercalate_around {front back : List String} (separator part : String) (hfront : front ≠ [])
    (hback : back ≠ []) : separator.intercalate (front ++ part :: back) =
      separator.intercalate front ++ separator ++ part ++ separator ++
        separator.intercalate back := by
  rw [String.intercalate_append_of_ne_nil hfront (by simp), String.intercalate_cons_of_ne_nil hback]
  simp only [String.append_assoc]

/-- What stands before and after the warnings does not depend on them. -/
theorem indented_eq_around (r : Report) : ∃ before after, ∀ warnings,
    { r with warnings }.indented = before ++ warningsEntry warnings ++ after := by
  let comma := "," ++ Json.indentation 1
  let front := Json.indentedFields 1 [("ok", .bool r.ok), ("op", .text r.op), ("data", .object r.data)]
  let back := Json.indentedFields 1 [("error", (r.error.map ReportError.toValue).getD .null),
    ("meta", (r.info.map Value.object).getD .null)]
  refine ⟨"\x7b" ++ Json.indentation 1 ++ comma.intercalate front ++ ",",
    comma ++ comma.intercalate back ++ Json.indentation 0 ++ "\x7d", fun warnings => ?_⟩
  let entry := Json.compact.string "warnings" ++ ": " ++
    Json.indentedAt 1 (.list (warnings.map .text))
  have hobject : { r with warnings }.indented = "\x7b" ++ Json.indentation 1 ++
      comma.intercalate (front ++ entry :: back) ++ Json.indentation 0 ++ "\x7d" := rfl
  have hlist : Json.indentedAt 1 (.list (warnings.map .text)) =
      Json.bracketed "[" "]" 1 (warnings.map Json.compact.string) := by
    rw [Json.indentedAt, indentedItems_text]
  have hname : Json.indentation 1 ++ (Json.compact.string "warnings" ++ ": ") =
      "\n  \"warnings\": " := by
    decide +kernel
  have hentry : Json.indentation 1 ++ entry = warningsEntry warnings := calc
    Json.indentation 1 ++ entry
      = Json.indentation 1 ++ (Json.compact.string "warnings" ++ ": ") ++
          Json.indentedAt 1 (.list (warnings.map .text)) := (String.append_assoc ..).symm
    _ = "\n  \"warnings\": " ++ Json.bracketed "[" "]" 1 (warnings.map Json.compact.string) := by
      rw [hname, hlist]
  have hfront : front ≠ [] := List.cons_ne_nil _ _
  have hback : back ≠ [] := List.cons_ne_nil _ _
  rw [hobject, intercalate_around comma entry hfront hback, ← hentry]
  simp only [comma, String.append_assoc]

/-- A warning in the payload is read back as it is. -/
theorem read?_string (s : String) : Json.read? (Json.compact.string s) = some (.text s) := by
  have hstring : (Json.compact.string s).toList = '"' :: (s.toList.flatMap Json.escapeChar ++ ['"']) :=
    String.toList_ofList
  have hskip : Json.skipBlanks (Json.compact.string s).toList = (Json.compact.string s).toList := by
    rw [hstring, Json.skipBlanks, List.dropWhile_cons_of_neg (by decide)]
  simp only [Json.read?, Json.readWithin, hskip]
  rw [hstring, Json.readValue, Json.readString_escape]
  simp [Json.skipBlanks]

end Payload

theorem line_warning (w : String) : line ("WARNING: " ++ w) = "WARNING: " ++ plain w ++ "\n" :=
  line_append (by decide) w

/-- The format of a failure does not depend on its warnings. -/
theorem format_failure {r : Report} (hbad : r.ok = false) (warnings : List String) {mode : OutputMode}
    (hmode : mode.json = false) : { r with warnings }.format mode = r.format mode := by
  have hrender : { r with warnings }.render mode.verbose = r.render mode.verbose := by
    simp only [render, hbad, Bool.not_false, if_true]
    rfl
  have hquiet : { r with warnings }.renderQuiet = r.renderQuiet := by
    simp only [renderQuiet, hbad, Bool.false_eq_true, if_false]
    rfl
  simp only [format, hmode, Bool.false_eq_true, if_false, hrender, hquiet]

/-- In JSON all warnings stand in the payload, each as a string that is read back as it is. For
people the warnings of a success are lines after it, and those of a failure make no difference. Only
a text for people may fail to be written. -/
theorem emit_warnings (r : Report) (mode : OutputMode) :
    (mode.json = true → ∃ before after, ∀ warnings, ∃ output,
      { r with warnings }.emit mode = .ok output ∧
        output.stdout ++ output.stderr = before ++ warningsEntry warnings ++ after) ∧
    (∀ w, Json.read? (Json.compact.string w) = some (.text w)) ∧
    (mode.json = false → r.ok = true → ∀ output, r.emit mode = .ok output →
      output.stderr = String.join (r.warnings.map fun w => "WARNING: " ++ plain w ++ "\n")) ∧
    (mode.json = false → r.ok = false → ∀ warnings, { r with warnings }.emit mode = r.emit mode) ∧
    (∀ f, r.emit mode = .error f →
      mode.json = false ∧ mode.quiet = false ∧ r.render mode.verbose = .error f) := by
  refine ⟨fun hjson => ?_, read?_string, fun hjson hgood output houtput => ?_,
    fun hjson hbad warnings => ?_, fun f hf => format_eq_error.mp (emit_eq_error.mp hf)⟩
  · obtain ⟨before, after, haround⟩ := r.indented_eq_around
    refine ⟨before, after ++ "\n", fun warnings => ⟨_, emit_of_format (format_json hjson), ?_⟩⟩
    have hline : line { r with warnings }.indented =
        before ++ warningsEntry warnings ++ (after ++ "\n") := by
      rw [line_indented, haround, String.append_assoc]
    simp only [written, warningLines, hjson, if_true, hline]
    cases r.ok <;> simp
  · obtain ⟨text, -, rfl⟩ := emit_eq_ok.mp houtput
    simp only [written, hgood, if_true, warningLines, hjson, Bool.false_eq_true, if_false,
      line_warning]
  · have hformat := format_failure hbad warnings hjson
    cases hr : r.format mode with
    | error f => rw [emit_eq_error.mpr hr, emit_eq_error.mpr (hformat.trans hr)]
    | ok text =>
      rw [emit_of_format hr, emit_of_format (hformat.trans hr)]
      simp only [written, hbad, Bool.false_eq_true, if_false, exitCode]

/-- A failed launch with a warning. -/
def warnedReport : Report :=
  ⟨false, "launch", [], ["Read-only dependency not found: /alloy"], some ⟨"RUNNER_FAILED", "in-docker", []⟩,
    none⟩

theorem emit_warnings_json : ∃ before after output, warnedReport.emit ⟨true, false, false⟩ = .ok output ∧
    output.stdout ++ output.stderr = before ++ warningsEntry warnedReport.warnings ++ after := by
  obtain ⟨before, after, h⟩ := (emit_warnings warnedReport ⟨true, false, false⟩).1 rfl
  exact ⟨before, after, h warnedReport.warnings⟩

/-- A host on which the runner fails, and a checkout to read is not there. -/
def failingHost : Host where
  view := ⟨⟨[(["reth"], .directory), (["bin"], .directory),
    (["bin", "in-docker"], .program ⟨"/bin/in-docker", .runs (.exits 3) false⟩)]⟩, some []⟩
  environment := [("PATH", "/bin")]
  clock := ⟨.whole 0, []⟩
  executions := []
  records := []

open Launcher Launching in
/-- The warning of a launch that fails in the end is not shown. -/
theorem emit_failure_silent : ∃ r, (on (rootLauncher.launch true []) failingHost).1 = .ok r ∧
    r.warnings = ["Read-only dependency not found: /alloy"] ∧
    r.emit ⟨false, true, false⟩ =
      .ok ⟨"", "ERROR: launch — in-docker exited with status 3\n", 3⟩ := by
  have hreport : (on (rootLauncher.launch true []) failingHost).1.toOption.map
      (fun r => (r.warnings, (r.emit ⟨false, true, false⟩).toOption.map id)) =
      some (["Read-only dependency not found: /alloy"],
        some ⟨"", "ERROR: launch — in-docker exited with status 3\n", 3⟩) := by
    decide +kernel
  obtain ⟨r, hr, hshape⟩ := toOption_map_eq_some hreport
  obtain ⟨hwarnings, hemit⟩ := Prod.ext_iff.mp hshape
  obtain ⟨output, houtput, rfl⟩ := toOption_map_eq_some hemit
  exact ⟨r, hr, hwarnings, houtput⟩

end BuildLauncher.Report
