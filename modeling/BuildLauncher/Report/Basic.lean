import BuildLauncher.Checking.Readers
import BuildLauncher.Value.Json

/-!
# Reports

Every operation of the launcher answers with a report. A failed one has an error, and the exit
status of the program comes from it.
-/
namespace BuildLauncher

open Checking

structure ReportError where
  code : String
  message : String
  detail : Fields

structure Report where
  ok : Bool
  op : String
  data : Fields
  warnings : List String
  error : Option ReportError
  info : Option Fields

namespace ReportError

/-- The status for the shell: at least one, and 128 more than the signal for a killed program. -/
def exitCode (e : ReportError) : Int :=
  let status (n : Int) : Int := if n = 0 then 1 else if n < 0 then 128 - n else n
  match e.detail.get? "exit_code" with
  | some (.int n) => status n
  | some (.bool b) => status (if b then 1 else 0)
  | _ => 1

def toValue (e : ReportError) : Value := .object [
  ("code", .text e.code), ("message", .text e.message), ("detail", .object e.detail)]

def ofFields (fields : Fields) : Checked ReportError :=
  ReportError.mk <$> required fields "code" asText <*> required fields "message" asText
    <*> field fields "detail" [] asObject

def ofValue (v : Value) : Checked ReportError := (asModel "ServiceError" v).andThen ofFields

theorem exitCode_ne_zero (e : ReportError) : e.exitCode ≠ 0 := by
  simp only [exitCode]
  repeat' split
  all_goals omega

end ReportError

namespace Report

def toValue (r : Report) : Value := .object [
  ("ok", .bool r.ok), ("op", .text r.op), ("data", .object r.data),
  ("warnings", .list (r.warnings.map .text)),
  ("error", (r.error.map ReportError.toValue).getD .null),
  ("meta", (r.info.map Value.object).getD .null)]

def ofFields (fields : Fields) : Checked Report :=
  Report.mk <$> required fields "ok" asBool <*> required fields "op" asText
    <*> field fields "data" [] asObject
    <*> field fields "warnings" [] asTexts
    <*> field fields "error" none (asOptional ReportError.ofValue)
    <*> field fields "meta" none (asOptional asObject)

/-- The report as one line of JSON. -/
def compact (r : Report) : String := Json.compact.line r.toValue

/-- The report as JSON with one entry a line. -/
def indented (r : Report) : String := Json.indented r.toValue

/-- The exit status: zero for success, that of the error otherwise. -/
def exitCode (r : Report) : Int :=
  if r.ok then 0 else (r.error.map ReportError.exitCode).getD 1

end Report
end BuildLauncher
