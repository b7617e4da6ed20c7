import BuildLauncher.Proofs.Launch.Courses

/-!
# The table of errors

Of all that can be in the way of a launch the first row of a table that applies decides the error
and the status that the program ends with. The rows are about the files and the environment at the
start of the launch; only the runner is looked for after the caches have been made.
-/
namespace BuildLauncher

open Files

/-- The status that a shell tells of a process: that of its exit, 128 more than the signal that
killed it, or that of an interruption whatever the end. -/
def Process.shellStatus (p : Process) : Int :=
  if p.interrupted then 130
  else
    match p.ending with
    | .exits status => (status % 256 : Nat)
    | .killed signal _ => 128 + signal

/-- An obstacle, the code of its error and the status of the program. -/
structure Row where
  applies : Bool
  code : String
  status : Int

/-- The code and the status of the first row that applies. -/
def verdict (rows : List Row) : Option (String × Int) :=
  (rows.find? (·.applies)).map fun row => (row.code, row.status)

@[simp] theorem verdict_nil : verdict [] = none := rfl

theorem verdict_cons (row : Row) (rest : List Row) :
    verdict (row :: rest) =
      if row.applies then some (row.code, row.status) else verdict rest := by
  cases h : row.applies <;> simp [verdict, h]

theorem verdict_append (first rest : List Row) :
    verdict (first ++ rest) = (verdict first).or (verdict rest) := by
  simp [verdict, List.find?_append, Option.map_or]

theorem exitCode_exitDetail (code message : String) (n : Int) :
    (⟨code, message, Launcher.exitDetail n⟩ : ReportError).exitCode =
      if n = 0 then 1 else if n < 0 then 128 - n else n := by
  simp [ReportError.exitCode, Launcher.exitDetail, Fields.get?_cons]

namespace Process

theorem shellStatus_eq_zero_iff (p : Process) : p.shellStatus = 0 ↔ p.returncode = 0 := by
  unfold shellStatus returncode
  cases p.interrupted with
  | true => simp [interruptedStatus]
  | false =>
    cases p.ending with
    | exits status => simp [Files.Ending.returncode]
    | killed signal positive => simp [Files.Ending.returncode]; omega

/-- The status survives the detail of an error, where signals are negative. -/
theorem exitCode_returncode (p : Process) (code message : String) (bad : p.returncode ≠ 0) :
    (⟨code, message, Launcher.exitDetail p.returncode⟩ : ReportError).exitCode = p.shellStatus := by
  rw [exitCode_exitDetail, if_neg bad]
  unfold returncode shellStatus at *
  cases p.interrupted with
  | true => rfl
  | false =>
    cases p.ending with
    | exits status => simp [Files.Ending.returncode]; omega
    | killed signal positive => simp [Files.Ending.returncode]; omega

end Process

namespace Launcher

open Launching

/-- What can be in the way of a build. -/
def buildRows (l : Launcher) (v : View) (env : Environment) : List Row :=
  let engine := l.engine? v env
  [⟨v.isFile l.layout.dockerfile ≠ .ok true, "DOCKERFILE_MISSING", 1⟩,
    ⟨engine.isNone, "ENGINE_NOT_FOUND", 127⟩,
    ⟨engine.any (·.shellStatus ≠ 0), "BUILD_FAILED", (engine.map Process.shellStatus).getD 0⟩]

/-- What can be in the way after the build. -/
def targetRows (l : Launcher) (v : View) (env : Environment) (extra : List String) : List Row :=
  let attempt := v.ensureDirectories l.caches
  let runner := l.runner? attempt.2 env extra
  [⟨v.isDirectory l.layout.targetDir ≠ .ok true, "TARGET_MISSING", 1⟩,
    ⟨attempt.1 ≠ .ok (), "CACHE_DIR_FAILED", 1⟩,
    ⟨runner.isNone, "RUNNER_NOT_FOUND", 127⟩,
    ⟨runner.any (·.shellStatus ≠ 0), "RUNNER_FAILED", (runner.map Process.shellStatus).getD 0⟩]

/-- What can be in the way of a launch. -/
def launchRows (l : Launcher) (v : View) (env : Environment) (skip : Bool) (extra : List String) :
    List Row :=
  (if skip then [] else l.buildRows v env) ++ l.targetRows v env extra

/-- A report that answers for an operation as the rows decide. -/
structure Answers (op : String) (rows : List Row) (r : Report) : Prop where
  op_eq : r.op = op
  error_iff : r.error.isSome ↔ r.ok = false
  decided : r.error.map (fun e => (e.code, e.exitCode)) = verdict rows
  exitCode_ne_zero : ∀ e, r.error = some e → e.exitCode ≠ 0

variable {l : Launcher} {v w : View} {env : Environment} {extra : List String} {data : Fields}
  {skip : Bool} {r b : Report} {calls : List Execution} {rows : List Row}

theorem answers_failed {op code message : String} {warnings : List String} {detail : Fields}
    (hv : verdict rows = some (code, (⟨code, message, detail⟩ : ReportError).exitCode)) :
    Answers op rows (failedReport op code message warnings data detail) where
  op_eq := rfl
  error_iff := by simp [failedReport]
  decided := by simp [failedReport, hv]
  exitCode_ne_zero e _ := e.exitCode_ne_zero

theorem answers_ok {op : String} {warnings : List String} {info : Option Fields}
    (hv : verdict rows = none) : Answers op rows ⟨true, op, data, warnings, none, info⟩ where
  op_eq := rfl
  error_iff := by simp
  decided := by simp [hv]
  exitCode_ne_zero e _ := e.exitCode_ne_zero

theorem BuildCourse.answers (h : l.BuildCourse v env (.ok b) calls)
    (wet : l.settings.dryRun = false) : Answers "build_image" (l.buildRows v env) b := by
  cases h with
  | noDockerfile file =>
    exact answers_failed (by simp [buildRows, verdict_cons, file, exitCode_exitDetail])
  | dry _ dry => simp [wet] at dry
  | noEngine file _ engine =>
    exact answers_failed (by
      simp [buildRows, verdict_cons, file, engine, exitCode_exitDetail, notFoundStatus])
  | @failed p _ file _ engine bad =>
    have hbad : p.shellStatus ≠ 0 := mt p.shellStatus_eq_zero_iff.mp bad
    exact answers_failed (by
      simp [buildRows, verdict_cons, file, engine, hbad, p.exitCode_returncode _ _ bad])
  | @built p _ file _ engine good =>
    have hgood : p.shellStatus = 0 := p.shellStatus_eq_zero_iff.mpr good
    exact answers_ok (by simp [buildRows, verdict_cons, file, engine, hgood])

theorem TargetCourse.answers (h : l.TargetCourse v env data extra (.ok r) w calls)
    (wet : l.settings.dryRun = false) : Answers "launch" (l.targetRows v env extra) r := by
  cases h with
  | noTarget target =>
    exact answers_failed (by simp [targetRows, verdict_cons, target, exitCode_exitDetail])
  | dry _ _ dry => simp [wet] at dry
  | noCaches target _ _ caches =>
    exact answers_failed (by simp [targetRows, verdict_cons, target, caches, exitCode_exitDetail])
  | prepared target _ _ caches runner =>
    cases runner with
    | noRunner runner =>
      exact answers_failed (by
        simp [targetRows, verdict_cons, target, caches, runner, exitCode_exitDetail,
          notFoundStatus])
    | @failed p _ runner bad =>
      have hbad : p.shellStatus ≠ 0 := mt p.shellStatus_eq_zero_iff.mp bad
      exact answers_failed (by
        simp [targetRows, verdict_cons, target, caches, runner, hbad,
          p.exitCode_returncode _ _ bad])
    | @finished p _ runner good =>
      have hgood : p.shellStatus = 0 := p.shellStatus_eq_zero_iff.mpr good
      exact answers_ok (by simp [targetRows, verdict_cons, target, caches, runner, hgood])

theorem LaunchCourse.answers (h : l.LaunchCourse v env extra skip (.ok r) w calls)
    (wet : l.settings.dryRun = false) : Answers "launch" (l.launchRows v env skip extra) r := by
  cases h with
  | skipped target => simpa [launchRows] using target.answers wet
  | @buildFailed b e _ build bad error =>
    have hb := (build.answers wet).decided
    rw [error] at hb
    exact answers_failed (by simp [launchRows, verdict_append, ← hb])
  | @built b _ _ _ _ build good target =>
    have hb := (build.answers wet).decided
    have ht := target.answers wet
    have hnone : verdict (l.buildRows v env) = none := by
      rw [← hb, Option.map_eq_none_iff]
      simpa [good] using build.ok_eq.symm
    refine ⟨ht.op_eq, ht.error_iff, ?_, ht.exitCode_ne_zero⟩
    simp [launchRows, verdict_append, hnone, ht.decided]

/-- A launch, and a build, answer as the first row decides that applies. -/
theorem answers_by_table (l : Launcher) (wet : l.settings.dryRun = false) (h : Host) :
    (∀ skip extra r, (on (l.launch skip extra) h).1 = .ok r →
      Answers "launch" (l.launchRows h.view h.environment skip extra) r) ∧
    ∀ r, (on l.buildImage h).1 = .ok r →
      Answers "build_image" (l.buildRows h.view h.environment) r := by
  constructor
  · intro skip extra r hr
    obtain ⟨w, calls, -, hcourse⟩ := on_launch l skip extra h
    exact (hr ▸ hcourse).answers wet
  · intro r hr
    obtain ⟨calls, -, hcourse⟩ := on_buildImage l h
    exact (hr ▸ hcourse).answers wet

/-- A launcher in the root directory. -/
def rootLauncher : Launcher where
  settings := {
    baseDir := .root, configPath := none, image := "image", volume := "volume", docker := "/engine"
    jsonOutput := false, quiet := false, verbose := false, logJson := false, dryRun := false
    layout := .default, runner := .default }
  directory := .root

/-- A host whose engine is interrupted before it exits with zero. There is no target either. -/
def interruptedHost : Host where
  view := ⟨⟨[(["Dockerfile"], .file []),
    (["engine"], .program ⟨"/engine", .runs (.exits 0) true⟩)]⟩, some []⟩
  environment := []
  clock := ⟨.whole 0, []⟩
  executions := []
  records := []

theorem answers_interrupted : rootLauncher.settings.dryRun = false ∧
    ∃ r, (on (rootLauncher.launch false []) interruptedHost).1 = .ok r ∧
      Answers "launch" (rootLauncher.launchRows interruptedHost.view [] false []) r ∧
      verdict (rootLauncher.launchRows interruptedHost.view [] false []) =
        some ("BUILD_FAILED", 130) := by
  have hsome : (on (rootLauncher.launch false []) interruptedHost).1.toOption.isSome = true := by
    decide +kernel
  refine ⟨rfl, ?_⟩
  cases hr : (on (rootLauncher.launch false []) interruptedHost).1 with
  | error f => simp [hr, Except.toOption] at hsome
  | ok r =>
    exact ⟨r, rfl, (answers_by_table rootLauncher rfl interruptedHost).1 false [] r hr,
      by decide +kernel⟩

end Launcher
end BuildLauncher
