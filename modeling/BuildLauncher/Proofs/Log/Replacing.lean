import BuildLauncher.Proofs.Log.Lines

/-!
# Logging set up anew

Every call that sets up logging takes the place of the calls of its kind before it, in whatever order
they come (`run_eq_last`). So what is written depends on the last configuration and the last launch
only: each event that is grave enough for its logger is written, in the order of the events
(`write_run`).
-/
namespace BuildLauncher.Log

/-- A call that sets up logging. -/
inductive Call
  | configure (config : Config)
  | bindLaunch (image baseDir : String)

namespace Call

def config? : Call → Option Config
  | .configure config => some config
  | .bindLaunch _ _ => none

def launch? : Call → Option (String × String)
  | .configure _ => none
  | .bindLaunch image baseDir => some (image, baseDir)

end Call

def lastConfig (calls : List Call) : Option Config := (calls.filterMap Call.config?).getLast?

def lastLaunch (calls : List Call) : Option (String × String) :=
  (calls.filterMap Call.launch?).getLast?

/-- The last call of each kind. -/
def lastCalls (calls : List Call) : List Call :=
  (lastConfig calls).toList.map .configure ++
    (lastLaunch calls).toList.map fun launch => .bindLaunch launch.1 launch.2

namespace Logging

def after (l : Logging) : Call → Logging
  | .configure config => l.configure config
  | .bindLaunch image baseDir => l.bindLaunch image baseDir

/-- The logging that calls one after the other set up. -/
def run (l : Logging) (calls : List Call) : Logging := calls.foldl after l

section Steps

variable (l : Logging)

theorem configure_configure (old new : Config) :
    (l.configure old).configure new = l.configure new := rfl

theorem bindLaunch_bindLaunch (oldImage oldBaseDir image baseDir : String) :
    (l.bindLaunch oldImage oldBaseDir).bindLaunch image baseDir = l.bindLaunch image baseDir := rfl

theorem bindLaunch_configure (image baseDir : String) (config : Config) :
    (l.bindLaunch image baseDir).configure config = (l.configure config).bindLaunch image baseDir :=
  rfl

theorem run_concat (calls : List Call) (c : Call) : l.run (calls ++ [c]) = (l.run calls).after c :=
  List.foldl_concat ..

end Steps

theorem lastConfig_concat (calls : List Call) (c : Call) :
    lastConfig (calls ++ [c]) = c.config?.or (lastConfig calls) := by
  cases c <;> simp [lastConfig, Call.config?]

theorem lastLaunch_concat (calls : List Call) (c : Call) :
    lastLaunch (calls ++ [c]) = c.launch?.or (lastLaunch calls) := by
  cases c <;> simp [lastLaunch, Call.launch?]

/-- Only the last call of each kind counts. -/
theorem run_eq_last (l : Logging) (calls : List Call) : l.run calls = l.run (lastCalls calls) := by
  -- Each new call takes the place of the call of its kind that was the last before it.
  induction calls using List.reverseRecOn with
  | nil => rfl
  | append_singleton calls c ih =>
    rw [run_concat, ih, lastCalls, lastCalls, lastConfig_concat, lastLaunch_concat]
    cases c with
    | configure config =>
      cases lastConfig calls <;> cases lastLaunch calls <;>
        simp [run, after, Call.config?, Call.launch?, configure_configure, bindLaunch_configure]
    | bindLaunch image baseDir =>
      cases lastConfig calls <;> cases lastLaunch calls <;>
        simp [run, after, Call.config?, Call.launch?, bindLaunch_bindLaunch]

end Logging

/-- What every line carries for a launch. -/
def launchFields (launch : String × String) : Fields :=
  [("image", .text launch.1), ("base_dir", .text launch.2)]

/-- The logger of the program, or one below it. -/
def IsApp (logger : String) : Prop :=
  logger = appLogger ∨ ∃ below, logger = appLogger ++ "." ++ below

theorem isOwn_iff {logger : String} : isOwn logger = true ↔ IsApp logger := by
  have hprefix : (appLogger ++ ".").toList.isPrefixOf logger.toList = true ↔
      ∃ below, logger = appLogger ++ "." ++ below := by
    rw [List.isPrefixOf_iff_prefix]
    constructor
    · rintro ⟨below, hbelow⟩
      exact ⟨String.ofList below, String.toList_inj.mp (by rw [← hbelow]; simp)⟩
    · rintro ⟨below, rfl⟩
      exact ⟨below.toList, String.toList_append.symm⟩
  simp only [isOwn, Bool.or_eq_true, decide_eq_true_eq, hprefix, IsApp]

section Runs

variable {l : Logging} {calls : List Call} {config : Config}

/-- What is left of all calls: one handler, two levels, and the values of the last launch. -/
theorem run_eq_of_lastConfig (l : Logging) (hlast : lastConfig calls = some config) :
    l.run calls =
      ⟨[.lines config.json], .warning, if config.verbose then .debug else .warning,
        ((lastLaunch calls).map launchFields).getD l.context⟩ := by
  rw [Logging.run_eq_last, lastCalls, hlast]
  cases lastLaunch calls with
  | none => rfl
  | some launch => rfl

/-- How grave an event has to be, with detail and without. -/
theorem isWritten_iff (hlast : lastConfig calls = some config) (r : Record) :
    (config.verbose = true ∧ IsApp r.logger →
      ((l.run calls).isWritten r = true ↔ Level.debug.rank ≤ r.level.rank)) ∧
    (¬(config.verbose = true ∧ IsApp r.logger) →
      ((l.run calls).isWritten r = true ↔ Level.warning.rank ≤ r.level.rank)) := by
  rw [run_eq_of_lastConfig l hlast, ← isOwn_iff]
  simp only [Logging.isWritten, Logging.threshold, decide_eq_true_eq]
  cases config.verbose <;> cases isOwn r.logger <;> simp

/-- One line that holds a JSON object with the text, the level and the logger of an event, and with the
launch that it is about where the event has no values of its own by these names. -/
structure TellsOf (launch : Option (String × String)) (r : Record) (line : String) : Prop where
  single : '\n' ∉ line.toList
  object : ∃ object : Fields, Json.read? line = some (.object object) ∧
    (Value.object object).isJson (some digitLimit) = true ∧
    object.get? "event" = some (.text r.event) ∧
    object.get? "level" = some (.text r.level.name) ∧
    object.get? "logger" = some (.text (loggerName r.logger)) ∧
    ∀ image baseDir, launch = some (image, baseDir) →
      object.get? "image" = some (((r.fields.get? "image").map told).getD (.text image)) ∧
      object.get? "base_dir" = some (((r.fields.get? "base_dir").map told).getD (.text baseDir))

/-- JSON can tell the values. It has no numbers that are not finite, and dates are told as texts. -/
def HasJson (fields : Fields) : Prop := (told (.object fields)).isJson (some digitLimit) = true

theorem tellsOf_jsonLine {launch : Option (String × String)} {r : Record}
    (hlaunch : ∀ p, launch = some p → l.context = launchFields p) (hcontext : HasJson l.context)
    (hfields : HasJson r.fields) (timestamp : String) :
    TellsOf launch r (jsonLine l timestamp r) := by
  obtain ⟨hdistinct, -⟩ := isJson_told_object.mp hfields
  refine ⟨newline_not_mem_jsonLine l timestamp r, lineObject l timestamp r,
    readWithin_jsonLine hcontext hfields timestamp, isJson_line hcontext hfields timestamp,
    ?_, ?_, ?_, fun image baseDir hsome => ?_⟩
  · rw [get?_lineObject hdistinct]
    rfl
  · rw [get?_lineObject hdistinct]
    rfl
  · rw [get?_lineObject hdistinct]
    rfl
  · have hcarried := hlaunch _ hsome
    have hboth : l.context.get? "image" = some (.text image) ∧
        l.context.get? "base_dir" = some (.text baseDir) := by
      rw [hcarried]
      exact ⟨rfl, rfl⟩
    exact ⟨get?_lineObject_carried hdistinct timestamp (by decide) hboth.1,
      get?_lineObject_carried hdistinct timestamp (by decide) hboth.2⟩

theorem hasJson_launchFields (launch : String × String) : HasJson (launchFields launch) := by
  have hnames : ["image", "base_dir"].Nodup := by decide
  exact isJson_told_object.mpr ⟨hnames, by simp [launchFields, told, Value.isJson]⟩

/-- With one handler each event that is written leaves one line. -/
theorem write_eq {json : Bool} (hhandlers : l.handlers = [.lines json]) (timestamp : String)
    (records : List Record) : l.write timestamp records =
      String.join ((records.filter l.isWritten).map fun r =>
        (if json then jsonLine l timestamp r else consoleLine l timestamp r) ++ "\n") := by
  rw [Logging.write, hhandlers, List.map_eq_flatMap]
  rfl

/-- What is written after calls that set up logging is what is written after the last of each kind. An
event is written if it is grave enough for its logger, whose level the last configuration decides. What
is written for an event whose values can be written starts for people with the time, the level, the
event and its logger. In JSON it is a line of its own, if JSON can tell its values. -/
theorem write_run (l : Logging) (hlast : lastConfig calls = some config) (timestamp : String)
    (records : List Record) :
    (l.run calls).write timestamp records = (l.run (lastCalls calls)).write timestamp records ∧
    (∀ r : Record,
      (config.verbose = true ∧ IsApp r.logger →
        ((l.run calls).isWritten r = true ↔ Level.debug.rank ≤ r.level.rank)) ∧
      (¬(config.verbose = true ∧ IsApp r.logger) →
        ((l.run calls).isWritten r = true ↔ Level.warning.rank ≤ r.level.rank))) ∧
    ∃ line : Record → String,
      (l.run calls).write timestamp records =
        String.join ((records.filter (l.run calls).isWritten).map fun r => line r ++ "\n") ∧
      ((Value.object l.context).isWritable = true →
        ∀ r : Record, (Value.object r.fields).isWritable = true →
          (config.json = false → ∃ rest, line r = opening timestamp r ++ rest) ∧
          (config.json = true → HasJson l.context → HasJson r.fields →
            TellsOf (lastLaunch calls) r (line r))) := by
  have hrun := run_eq_of_lastConfig l hlast
  have hhandlers : (l.run calls).handlers = [.lines config.json] := by rw [hrun]
  refine ⟨by rw [Logging.run_eq_last], fun r => isWritten_iff hlast r, _,
    write_eq hhandlers timestamp records, fun _ r _ => ⟨fun hpeople => ?_, ?_⟩⟩
  · rw [if_neg (by simp [hpeople])]
    exact exists_consoleLine (l.run calls) timestamp r
  · intro hjson hold hfields
    have hlaunch (p : String × String) (hp : lastLaunch calls = some p) :
        (l.run calls).context = launchFields p := by
      rw [hrun, hp]
      rfl
    have hcontext : HasJson (l.run calls).context := by
      rw [hrun]
      cases lastLaunch calls with
      | none => exact hold
      | some launch => exact hasJson_launchFields launch
    rw [if_pos hjson]
    exact tellsOf_jsonLine hlaunch hcontext hfields timestamp

/-- Logging that is set up twice, for another launch and with another level and form each time. -/
def setUpTwice (json : Bool) : List Call := [
  .configure ⟨true, !json⟩, .bindLaunch "old" "/old/.dev",
  .configure ⟨false, json⟩, .bindLaunch "new" "/new/.dev"]

/-- An error that happened on a day. -/
def datedRecord : Record :=
  ⟨appLogger, .error, "build failed", [("day", .moment (.date ⟨2024, 1, 2⟩))]⟩

theorem write_run_twice :
    (∃ line, (Logging.initial.run (setUpTwice true)).write "now" [datedRecord] = line ++ "\n" ∧
      TellsOf (some ("new", "/new/.dev")) datedRecord line) ∧
    ∃ rest, (Logging.initial.run (setUpTwice false)).write "now" [datedRecord] =
      opening "now" datedRecord ++ rest ++ "\n" := by
  have hlast (json : Bool) : lastConfig (setUpTwice json) = some ⟨false, json⟩ := rfl
  obtain ⟨-, -, line, hwrite, htells⟩ := write_run .initial (hlast true) "now" [datedRecord]
  obtain ⟨-, -, line', hwrite', htells'⟩ := write_run .initial (hlast false) "now" [datedRecord]
  obtain ⟨rest, hrest⟩ := (htells' (by decide) datedRecord (by decide)).1 rfl
  have htold := (htells (by decide) datedRecord (by decide)).2 rfl rfl rfl
  refine ⟨⟨line datedRecord, hwrite.trans String.empty_append, htold⟩, rest, ?_⟩
  rw [← hrest]
  exact hwrite'.trans String.empty_append

/-- An error with a number that is above all others. -/
def boundlessRecord : Record :=
  ⟨appLogger, .error, "build failed", [("size", .float (.infinite false))]⟩

/-- The line of that error. A word stands in place of the number. -/
def boundlessLine : String :=
  "\x7b\"event\": \"build failed\", \"level\": \"error\", \"logger\": \"rethbuild\", " ++
    "\"size\": Infinity, \"timestamp\": \"now\"\x7d"

/-- JSON has no number that is not finite, so the line of an event with one holds no JSON object. -/
theorem write_boundless :
    (Logging.initial.run [.configure ⟨false, true⟩]).write "now" [boundlessRecord] =
      boundlessLine ++ "\n" ∧ ¬TellsOf none boundlessRecord boundlessLine := by
  have hread : (Json.read? boundlessLine).any (·.isJson (some digitLimit)) = false := by
    decide +kernel
  refine ⟨by decide +kernel, fun htells => ?_⟩
  obtain ⟨object, hobject, hjson, -⟩ := htells.object
  rw [hobject, Option.any_some, hjson] at hread
  contradiction

end Runs

end BuildLauncher.Log
