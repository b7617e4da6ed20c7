import BuildLauncher.Proofs.Steps
import BuildLauncher.Proofs.Value.JsonText
import BuildLauncher.Report.Format

/-!
# Writing a report

A report that can be formatted is written: its text goes to standard output or to standard error, and
its status is its own.
-/
namespace BuildLauncher.Report

open Text

section Plain

/-- A text without escapes. -/
def Unescaped (s : List Char) : Prop := ∀ c ∈ s, isEscape c = false

instance (s : List Char) : Decidable (Unescaped s) := List.decidableBAll ..

theorem plain_of_body {s : String} (h : Json.Body s) : plain s = s := by
  have hescape : Unescaped s.toList := by
    intro c hc
    obtain rfl | hshown := h c hc
    · rfl
    · have hlarge : 0x20 ≤ c.toNat := hshown
      simp only [isEscape, decide_eq_false_iff_not]
      omega
  rw [plain, plainFrom_of_no_escape hescape, String.ofList_toList]

/-- A text before which nothing is left out keeps what it starts with. -/
theorem plainFrom_append {s : List Char} (h : Unescaped s) (t : List Char) :
    plainFrom 0 (s ++ t) = s ++ plainFrom 0 t := by
  induction s with
  | nil => rfl
  | cons c rest ih =>
    obtain ⟨hc, hrest⟩ := List.forall_mem_cons.mp h
    simp [plainFrom, hc, ih hrest]

/-- Text before which nothing is left out is written as it is. -/
theorem line_append {s : String} (h : Unescaped s.toList) (t : String) :
    line (s ++ t) = s ++ plain t ++ "\n" := by
  rw [line, plain, plain, String.toList_append, plainFrom_append h, String.ofList_append,
    String.ofList_toList]

end Plain

variable {r : Report} {mode : OutputMode} {text : String} {f : Failure}

/-- A payload is written as it is. -/
theorem line_indented (r : Report) : line r.indented = r.indented ++ "\n" := by
  have hbody : Json.Body r.indented := Json.body_indented r.toValue
  rw [line, plain_of_body hbody]

/-- What is written of a text, for the success or the failure of the report. -/
def written (r : Report) (mode : OutputMode) (text : String) : Output :=
  if r.ok then ⟨line text, warningLines r mode, 0⟩ else ⟨"", line text, r.exitCode⟩

theorem emit_of_format (h : r.format mode = .ok text) : r.emit mode = .ok (r.written mode text) := by
  simp only [emit, h, ok_bind, written]
  cases r.ok <;> rfl

theorem emit_eq_ok {output : Output} :
    r.emit mode = .ok output ↔ ∃ text, r.format mode = .ok text ∧ r.written mode text = output := by
  cases h : r.format mode with
  | error f => simp only [emit, h, error_bind, reduceCtorEq, false_and, exists_false]
  | ok text => simp [emit_of_format h]

/-- A report is not written if and only if it cannot be formatted. -/
theorem emit_eq_error : r.emit mode = .error f ↔ r.format mode = .error f := by
  cases h : r.format mode with
  | error g => simp only [emit, h, error_bind, Except.error.injEq]
  | ok text => simp [emit_of_format h]

/-- Only a text for people can fail to be formatted. -/
theorem format_eq_error : r.format mode = .error f ↔
    mode.json = false ∧ mode.quiet = false ∧ r.render mode.verbose = .error f := by
  unfold format
  cases mode.json <;> cases mode.quiet <;> simp

theorem format_json (h : mode.json = true) : r.format mode = .ok r.indented := if_pos h

/-- A payload goes to one side as a whole, and nothing to the other. -/
theorem emit_json (h : mode.json = true) : r.emit mode = .ok
    (if r.ok then ⟨r.indented ++ "\n", "", 0⟩ else ⟨"", r.indented ++ "\n", r.exitCode⟩) := by
  rw [emit_of_format (format_json h), written, line_indented, warningLines, if_pos h]

end BuildLauncher.Report
