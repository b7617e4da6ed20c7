import BuildLauncher.Proofs.Checking.Validity
import BuildLauncher.Proofs.Report.Emission
import BuildLauncher.Proofs.Value.JsonLayouts

/-!
# Reading reports back

A payload is read back as the report that it was written for, from one line or from many, so that no
two reports have the same payload (`format_reads_back`).
-/
namespace BuildLauncher

open Checking

section Checks

variable {α : Type} {check : Value → Checked α} {default a : α} {fields : Fields} {name : String} {v : Value}

theorem required_of_get? (hget : fields.get? name = some v) (hv : check v = .valid a) :
    required fields name check = .valid a := by
  unfold required
  rw [hget]
  exact under_eq_valid.mpr hv

theorem field_of_get? (hget : fields.get? name = some v) (hv : check v = .valid a) :
    field fields name default check = .valid a := by
  rw [field_eq_valid, hget]
  exact hv

theorem items_texts (index : Nat) (texts : List String) :
    Checked.items asText index (texts.map .text) = .valid texts := by
  induction texts generalizing index with
  | nil => rfl
  | cons text rest ih =>
    have hrest := ih (index + 1)
    simp only [List.map_cons, Checked.items, hrest]
    rfl

/-- A part that may be missing is read back from nothing or from what stands for it. -/
theorem asOptional_toValue {toValue : α → Value} (part : Option α)
    (hnull : ∀ a, toValue a ≠ .null) (h : ∀ a, check (toValue a) = .valid a) :
    asOptional check ((part.map toValue).getD .null) = .valid part := by
  cases part with
  | none => rfl
  | some a =>
    have hne := hnull a
    change asOptional check (toValue a) = .valid (some a)
    unfold asOptional
    split
    · exact absurd ‹_› hne
    · rw [h a]
      rfl

end Checks

namespace ReportError

theorem ofValue_toValue (e : ReportError) : ofValue e.toValue = .valid e := by
  let fields : Fields := [("code", .text e.code), ("message", .text e.message),
    ("detail", .object e.detail)]
  have hcode : required fields "code" asText = .valid e.code := required_of_get? rfl rfl
  have hmessage : required fields "message" asText = .valid e.message := required_of_get? rfl rfl
  have hdetail : field fields "detail" [] asObject = .valid e.detail := field_of_get? rfl rfl
  refine andThen_eq_valid.mpr ⟨fields, rfl, ?_⟩
  simp only [ofFields, seq_eq_valid, map_eq_valid]
  exact ⟨_, ⟨_, ⟨_, hcode, rfl⟩, _, hmessage, rfl⟩, _, hdetail, rfl⟩

end ReportError

namespace Report

/-- The fields of a payload. -/
def fields (r : Report) : Fields := [
  ("ok", .bool r.ok), ("op", .text r.op), ("data", .object r.data),
  ("warnings", .list (r.warnings.map .text)),
  ("error", (r.error.map ReportError.toValue).getD .null),
  ("meta", (r.info.map Value.object).getD .null)]

theorem toValue_eq (r : Report) : r.toValue = .object r.fields := rfl

/-- The fields of a report are read as the report. -/
theorem ofFields_fields (r : Report) : ofFields r.fields = .valid r := by
  have hok : required r.fields "ok" asBool = .valid r.ok := required_of_get? rfl rfl
  have hop : required r.fields "op" asText = .valid r.op := required_of_get? rfl rfl
  have hdata : field r.fields "data" [] asObject = .valid r.data := field_of_get? rfl rfl
  have hwarnings : field r.fields "warnings" [] asTexts = .valid r.warnings :=
    field_of_get? rfl (items_texts 0 r.warnings)
  have herror : field r.fields "error" none (asOptional ReportError.ofValue) = .valid r.error :=
    field_of_get? rfl (asOptional_toValue r.error nofun ReportError.ofValue_toValue)
  have hinfo : field r.fields "meta" none (asOptional asObject) = .valid r.info :=
    field_of_get? rfl (asOptional_toValue r.info nofun fun _ => rfl)
  simp only [ofFields, seq_eq_valid, map_eq_valid]
  exact ⟨_, ⟨_, ⟨_, ⟨_, ⟨_, ⟨_, hok, rfl⟩, _, hop, rfl⟩, _, hdata, rfl⟩, _, hwarnings, rfl⟩, _,
    herror, rfl⟩, _, hinfo, rfl⟩

/-- A report whose parts JSON writes as they are. -/
structure IsJson (r : Report) (limit : Option Nat) : Prop where
  data : (Value.object r.data).isJson limit = true
  detail : ∀ e ∈ r.error, (Value.object e.detail).isJson limit = true
  info : ∀ info ∈ r.info, (Value.object info).isJson limit = true

variable {r : Report} {limit : Option Nat} {mode : OutputMode}

theorem itemsJson_texts (texts : List String) : itemsJson limit (texts.map .text) = true := by
  induction texts with
  | nil => rfl
  | cons text rest ih => simpa [itemsJson, Value.isJson] using ih

theorem IsJson.toValue (h : r.IsJson limit) : r.toValue.isJson limit = true := by
  have hnames : (r.fields.map Prod.fst).Nodup := by
    simp [fields]
  have herror : ((r.error.map ReportError.toValue).getD .null).isJson limit = true := by
    cases herror : r.error with
    | none => rfl
    | some e =>
      have hdetail := h.detail e herror
      simpa [ReportError.toValue, Value.isJson, fieldsJson] using hdetail
  have hinfo : ((r.info.map Value.object).getD .null).isJson limit = true := by
    cases hinfo : r.info with
    | none => rfl
    | some info => exact h.info info hinfo
  have hok : (Value.bool r.ok).isJson limit = true := rfl
  have hop : (Value.text r.op).isJson limit = true := rfl
  have hwarnings : (Value.list (r.warnings.map .text)).isJson limit = true :=
    itemsJson_texts r.warnings
  rw [toValue_eq, Value.isJson, decide_eq_true hnames]
  simp only [fields, fieldsJson, hok, hop, h.data, hwarnings, herror, hinfo, Bool.and_self]

/-- In JSON every report has a text. Both that and the report on one line are read as the same object,
with the same names in the same order, which is the report again: what it does not have is null there.
So no other report has the same text. A reader may have a limit for the digits of integers. -/
theorem format_reads_back (h : r.IsJson limit) (hmode : mode.json = true) :
    ∃ (text : String) (fields : Fields), r.format mode = .ok text ∧
      Json.readWithin limit text = some (.object fields) ∧
      Json.readWithin limit r.compact = some (.object fields) ∧
      fields.map Prod.fst = ["ok", "op", "data", "warnings", "error", "meta"] ∧
      (fields.get? "error" = some .null ↔ r.error = none) ∧
      (fields.get? "meta" = some .null ↔ r.info = none) ∧
      ofFields fields = .valid r ∧
      ∀ other : Report, other.IsJson limit →
        other.format mode = .ok text ∨ other.compact = r.compact → other = r := by
  have hlines (r : Report) (h : r.IsJson limit) :
      Json.readWithin limit r.indented = some (.object r.fields) :=
    Json.readWithin_indented h.toValue
  have hline (r : Report) (h : r.IsJson limit) :
      Json.readWithin limit r.compact = some (.object r.fields) :=
    Json.readWithin_line h.toValue
  have herror : r.fields.get? "error" = some ((r.error.map ReportError.toValue).getD .null) := rfl
  have hinfo : r.fields.get? "meta" = some ((r.info.map Value.object).getD .null) := rfl
  refine ⟨r.indented, r.fields, format_json hmode, hlines r h, hline r h, rfl, ?_, ?_,
    r.ofFields_fields, ?_⟩
  · rw [herror]
    cases r.error <;> simp [ReportError.toValue]
  · rw [hinfo]
    cases r.info <;> simp
  · intro other hother hsame
    have hfields : other.fields = r.fields := by
      obtain htext | htext := hsame
      · rw [format_json hmode, Except.ok.injEq] at htext
        have hread := hlines other hother
        rw [htext, hlines r h] at hread
        simpa using hread.symm
      · have hread := hline other hother
        rw [htext, hline r h] at hread
        simpa using hread.symm
    have hvalid := other.ofFields_fields
    rw [hfields, r.ofFields_fields] at hvalid
    simpa using hvalid.symm

/-- A failure with a control, letters beyond ASCII, a long integer and a tenth among its data. -/
def mixedReport : Report where
  ok := false
  op := "plan"
  data := [("empty", .list []), ("text", .text "\"\u0001\u00e9\n"),
    ("long", .int (-1180591620717411303424)),
    ("tenth", .float (.finite ⟨false, 7205759403792794, 1018, by decide, by decide, by decide⟩))]
  warnings := ["Read-only dependency not found: /alloy"]
  error := some ⟨"RUNNER_FAILED", "in-docker", [("exit_code", .int 3), ("nested", .object [])]⟩
  info := none

theorem format_reads_back_mixed : ∃ (text : String) (fields : Fields),
    mixedReport.format ⟨true, false, false⟩ = .ok text ∧
      Json.readWithin (some digitLimit) text = some (.object fields) ∧
      ofFields fields = .valid mixedReport := by
  have hjson : mixedReport.IsJson (some digitLimit) := by
    refine ⟨by decide +kernel, ?_, nofun⟩
    rintro e ⟨⟩
    decide +kernel
  have hmode : (⟨true, false, false⟩ : OutputMode).json = true := rfl
  obtain ⟨text, fields, hformat, hread, -, -, -, -, hvalid, -⟩ := format_reads_back hjson hmode
  exact ⟨text, fields, hformat, hread, hvalid⟩

end Report

end BuildLauncher
