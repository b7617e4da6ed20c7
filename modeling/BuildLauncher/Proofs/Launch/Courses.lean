import BuildLauncher.Launch.Service
import BuildLauncher.Proofs.Files.Directories
import BuildLauncher.Proofs.Launch.Processes

/-!
# The courses of a launch

Each way in which a build or a launch can go is one case of a relation between the files and the
environment at its start and the result, the files and the executed programs at its end.
`on_buildImage` and `on_launch` say that there are no other ways.
-/
namespace BuildLauncher

open Files

namespace Launcher

/-- The report of an operation that failed. -/
def failedReport (op code message : String) (warnings : List String) (data detail : Fields) :
    Report :=
  ⟨false, op, data, warnings, some ⟨code, message, detail⟩, none⟩

/-- The engine as it would be started. -/
def engine? (l : Launcher) (v : View) (env : Environment) : Option Process :=
  process? v env l.buildArgv none

/-- The runner as it would be started. -/
def runner? (l : Launcher) (v : View) (env : Environment) (extra : List String) : Option Process :=
  process? v env (l.runArgv extra) (some l.layout.targetDir)

/-- What is not reported of the engine. -/
def engineFault? (l : Launcher) (v : View) (env : Environment) : Option Error :=
  commandFault? v env l.buildArgv none

/-- What is not reported of the runner. -/
def runnerFault? (l : Launcher) (v : View) (env : Environment) (extra : List String) :
    Option Error :=
  commandFault? v env (l.runArgv extra) (some l.layout.targetDir)

/-- The engine has been executed, and it ended undisturbed with status zero. -/
def EngineSucceeded (l : Launcher) (v : View) (env : Environment) (calls : List Execution) : Prop :=
  ∃ p status, l.engine? v env = some p ∧ p.execution ∈ calls ∧ p.interrupted = false ∧
    p.ending = .exits status ∧ status % 256 = 0

/-- The ways in which a build can go. -/
inductive BuildCourse (l : Launcher) (v : View) (env : Environment) :
    Except Failure Report → List Execution → Prop
  | unreadable {e : Error} (file : v.isFile l.layout.dockerfile = .error e) :
      BuildCourse l v env (.error (.files e)) []
  | noDockerfile (file : v.isFile l.layout.dockerfile = .ok false) :
      BuildCourse l v env (.ok (failedReport "build_image" "DOCKERFILE_MISSING" l.noDockerfile []
        l.buildData (exitDetail 1))) []
  | dry (file : v.isFile l.layout.dockerfile = .ok true) (dry : l.settings.dryRun = true) :
      BuildCourse l v env (.ok ⟨true, "build_image", l.buildData, [], none, dryRunInfo⟩) []
  | broken {e : Error} (file : v.isFile l.layout.dockerfile = .ok true)
      (wet : l.settings.dryRun = false) (engine : l.engine? v env = none)
      (fault : l.engineFault? v env = some e) :
      BuildCourse l v env (.error (.files e)) []
  | noEngine {message : String} (file : v.isFile l.layout.dockerfile = .ok true)
      (wet : l.settings.dryRun = false) (engine : l.engine? v env = none)
      (fault : l.engineFault? v env = none) :
      BuildCourse l v env (.ok (failedReport "build_image" "ENGINE_NOT_FOUND" message []
        l.buildData (exitDetail notFoundStatus))) []
  | failed {p : Process} {message : String} (file : v.isFile l.layout.dockerfile = .ok true)
      (wet : l.settings.dryRun = false) (engine : l.engine? v env = some p)
      (bad : p.returncode ≠ 0) :
      BuildCourse l v env (.ok (failedReport "build_image" "BUILD_FAILED" message []
        l.buildData (exitDetail p.returncode))) [p.execution]
  | built {p : Process} {info : Fields} (file : v.isFile l.layout.dockerfile = .ok true)
      (wet : l.settings.dryRun = false) (engine : l.engine? v env = some p)
      (good : p.returncode = 0) :
      BuildCourse l v env (.ok ⟨true, "build_image",
        l.buildData ++ [("returncode", .int 0)], [], none, some info⟩) [p.execution]

/-- The ways in which the runner can go once all is prepared for it. -/
inductive RunnerCourse (l : Launcher) (v : View) (env : Environment) (data : Fields)
    (warnings extra : List String) : Except Failure Report → List Execution → Prop
  | broken {e : Error} (runner : l.runner? v env extra = none)
      (fault : l.runnerFault? v env extra = some e) :
      RunnerCourse l v env data warnings extra (.error (.files e)) []
  | noRunner {message : String} (runner : l.runner? v env extra = none)
      (fault : l.runnerFault? v env extra = none) :
      RunnerCourse l v env data warnings extra (.ok (failedReport "launch" "RUNNER_NOT_FOUND"
        message warnings data (exitDetail notFoundStatus))) []
  | failed {p : Process} {message : String} (runner : l.runner? v env extra = some p)
      (bad : p.returncode ≠ 0) :
      RunnerCourse l v env data warnings extra (.ok (failedReport "launch" "RUNNER_FAILED"
        message warnings data (exitDetail p.returncode))) [p.execution]
  | finished {p : Process} {info : Fields} (runner : l.runner? v env extra = some p)
      (good : p.returncode = 0) :
      RunnerCourse l v env data warnings extra (.ok ⟨true, "launch",
        data ++ [("returncode", .int 0)], warnings, none, some info⟩) [p.execution]

/-- The ways in which a launch can go after the build, with the files at its end. -/
inductive TargetCourse (l : Launcher) (v : View) (env : Environment) (data : Fields)
    (extra : List String) : Except Failure Report → View → List Execution → Prop
  | unreadable {e : Error} (target : v.isDirectory l.layout.targetDir = .error e) :
      TargetCourse l v env data extra (.error (.files e)) v []
  | noTarget (target : v.isDirectory l.layout.targetDir = .ok false) :
      TargetCourse l v env data extra (.ok (failedReport "launch" "TARGET_MISSING" l.noTarget []
        data (exitDetail 1))) v []
  | readonlyUnreadable {e : Error} (target : v.isDirectory l.layout.targetDir = .ok true)
      (readonly : l.readonlyWarnings v = .error e) :
      TargetCourse l v env data extra (.error (.files e)) v []
  | dry {warnings : List String} (target : v.isDirectory l.layout.targetDir = .ok true)
      (readonly : l.readonlyWarnings v = .ok warnings) (dry : l.settings.dryRun = true) :
      TargetCourse l v env data extra (.ok ⟨true, "launch", data, warnings, none, dryRunInfo⟩) v []
  | cachesBroken {warnings : List String} {w : View}
      (target : v.isDirectory l.layout.targetDir = .ok true)
      (readonly : l.readonlyWarnings v = .ok warnings) (wet : l.settings.dryRun = false)
      (caches : v.ensureDirectories l.caches = (.error .nulCharacter, w)) :
      TargetCourse l v env data extra (.error (.files .nulCharacter)) w []
  | noCaches {warnings : List String} {message : String} {e : Error} {w : View}
      (target : v.isDirectory l.layout.targetDir = .ok true)
      (readonly : l.readonlyWarnings v = .ok warnings) (wet : l.settings.dryRun = false)
      (caches : v.ensureDirectories l.caches = (.error e, w)) (possible : e ≠ .nulCharacter) :
      TargetCourse l v env data extra (.ok (failedReport "launch" "CACHE_DIR_FAILED" message
        warnings data (exitDetail 1))) w []
  | prepared {warnings : List String} {w : View} {r : Except Failure Report}
      {calls : List Execution} (target : v.isDirectory l.layout.targetDir = .ok true)
      (readonly : l.readonlyWarnings v = .ok warnings) (wet : l.settings.dryRun = false)
      (caches : v.ensureDirectories l.caches = (.ok (), w))
      (runner : l.RunnerCourse w env data warnings extra r calls) :
      TargetCourse l v env data extra r w calls

/-- The ways in which a launch can go. -/
inductive LaunchCourse (l : Launcher) (v : View) (env : Environment) (extra : List String) :
    Bool → Except Failure Report → View → List Execution → Prop
  | skipped {r : Except Failure Report} {w : View} {calls : List Execution}
      (target : l.TargetCourse v env (l.launchData .null extra) extra r w calls) :
      LaunchCourse l v env extra true r w calls
  | buildBroken {f : Failure} {calls : List Execution}
      (build : l.BuildCourse v env (.error f) calls) :
      LaunchCourse l v env extra false (.error f) v calls
  | buildFailed {b : Report} {e : ReportError} {calls : List Execution}
      (build : l.BuildCourse v env (.ok b) calls) (bad : b.ok = false) (error : b.error = some e) :
      LaunchCourse l v env extra false (.ok (failedReport "launch" e.code e.message []
        (l.launchData (.text (Text.shellJoin l.buildArgv)) extra) e.detail)) v calls
  | built {b : Report} {r : Except Failure Report} {w : View} {calls more : List Execution}
      (build : l.BuildCourse v env (.ok b) calls) (good : b.ok = true)
      (target : l.TargetCourse v env (l.launchData (.text (Text.shellJoin l.buildArgv)) extra)
        extra r w more) :
      LaunchCourse l v env extra false r w (calls ++ more)

open Launching

theorem left_fail (op code message : String) (warnings : List String) (data detail : Fields)
    (h : Host) : h.Left h.view [] (on (fail op code message warnings data detail) h).2 :=
  ⟨rfl, rfl, by simp [fail]⟩

theorem on_buildImage (l : Launcher) (h : Host) :
    ∃ calls, h.Left h.view calls (on l.buildImage h).2 ∧
      l.BuildCourse h.view h.environment (on l.buildImage h).1 calls := by
  simp only [buildImage, buildImageBy, on_bind, on_ofFiles]
  cases hf : h.view.isFile l.layout.dockerfile with
  | error e => exact ⟨[], .refl h, .unreadable hf⟩
  | ok file =>
    cases file with
    | false => exact ⟨[], left_fail .., .noDockerfile hf⟩
    | true =>
      cases hd : l.settings.dryRun with
      | true => exact ⟨[], .refl h, .dry hf hd⟩
      | false =>
        obtain ⟨start, k, hk, hleft⟩ := on_tick h
        have hrun := on_orNotFound_runCommand l.settings.docker
          (engineArguments l.settings.image l.layout.launcherDir) none k
        rw [hleft.view, hleft.environment] at hrun
        simp only [Bool.not_true, Bool.false_eq_true, if_false, on_bind, hk,
          buildBy, engineCommand]
        rcases hrun with ⟨p, m, hp, hm, hon⟩ | ⟨reason, m, hp, hfault, hm, hon⟩ |
          ⟨e, m, hp, hfault, hm, hon⟩
        · have hran : h.Left h.view [p.execution] m := hleft.trans hm
          simp only [hon, CommandOutcome.ok]
          by_cases hgood : p.returncode = 0
          · obtain ⟨stop, n, hn, hstop⟩ := on_tick
              { m with records := m.records ++
                [⟨serviceLogger, .info, "built image " ++ l.settings.image, []⟩] }
            simp only [hgood, decide_true, Bool.not_true, Bool.false_eq_true, if_false, on_bind,
              on_log, hn, on_pure]
            exact ⟨_, hran.quiet ⟨hstop.view, hstop.environment, hstop.executions⟩,
              .built hf hd hp hgood⟩
          · simp only [hgood, decide_false, Bool.not_false, if_true]
            exact ⟨_, hran.quiet (left_fail ..), .failed hf hd hp hgood⟩
        · simp only [hon]
          exact ⟨[], (hleft.trans hm).quiet (left_fail ..), .noEngine hf hd hp hfault⟩
        · rw [hon]
          exact ⟨[], hleft.trans hm, .broken hf hd hp hfault⟩

theorem on_startRunner (l : Launcher) (start : Tick) (data : Fields) (warnings extra : List String)
    (h : Host) :
    ∃ calls, h.Left h.view calls (on (l.startRunnerBy runCommand start data warnings extra) h).2 ∧
      l.RunnerCourse h.view h.environment data warnings extra
        (on (l.startRunnerBy runCommand start data warnings extra) h).1 calls := by
  have hrun := on_orNotFound_runCommand l.settings.runner.command
    (runnerArguments l.settings.runner.name l.settings.image l.mounts extra)
    (some l.layout.targetDir) h
  simp only [startRunnerBy, on_bind, runBy, runnerCommand]
  rcases hrun with ⟨p, k, hp, hleft, hon⟩ | ⟨reason, k, hp, hfault, hleft, hon⟩ |
    ⟨e, k, hp, hfault, hleft, hon⟩
  · simp only [hon, CommandOutcome.ok]
    by_cases hgood : p.returncode = 0
    · obtain ⟨stop, m, hm, hstop⟩ := on_tick k
      simp only [hgood, decide_true, Bool.not_true, Bool.false_eq_true, if_false, on_bind, hm,
        on_pure]
      exact ⟨_, hleft.quiet hstop, .finished hp hgood⟩
    · simp only [hgood, decide_false, Bool.not_false, if_true]
      exact ⟨_, hleft.quiet (left_fail ..), .failed hp hgood⟩
  · simp only [hon]
    exact ⟨[], hleft.quiet (left_fail ..), .noRunner hp hfault⟩
  · rw [hon]
    exact ⟨[], hleft, .broken hp hfault⟩

/-- Preparing caches is making their directories, and each fault but one comes with a reason. -/
theorem on_prepareCaches (paths : List Path) (h : Host) :
    ∃ w, (h.view.ensureDirectories paths = (.ok (), w) ∧
        on (prepareCaches paths) h = (.ok none, { h with view := w })) ∨
      (h.view.ensureDirectories paths = (.error .nulCharacter, w) ∧
        on (prepareCaches paths) h = (.error (.files .nulCharacter), { h with view := w })) ∨
      ∃ e reason, e ≠ .nulCharacter ∧ h.view.ensureDirectories paths = (.error e, w) ∧
        on (prepareCaches paths) h = (.ok (some reason), { h with view := w }) := by
  induction paths generalizing h with
  | nil => exact ⟨h.view, .inl ⟨rfl, rfl⟩⟩
  | cons path rest ih =>
    simp only [prepareCaches, on_bind, on_change, View.ensureDirectories]
    rcases h.view.ensureDirectory path with ⟨e | ⟨⟩, w⟩
    · refine ⟨w, .inr ?_⟩
      cases e
      case nulCharacter => exact .inl ⟨rfl, rfl⟩
      all_goals exact .inr ⟨_, _, Error.noConfusion, rfl, rfl⟩
    · exact ih { h with view := w }

theorem on_runTarget (l : Launcher) (start : Tick) (data : Fields) (extra : List String)
    (h : Host) :
    ∃ w calls, h.Left w calls (on (l.runTargetBy runCommand start data extra) h).2 ∧
      l.TargetCourse h.view h.environment data extra
        (on (l.runTargetBy runCommand start data extra) h).1 w calls := by
  simp only [runTargetBy, on_bind, on_ofFiles]
  cases ht : h.view.isDirectory l.layout.targetDir with
  | error e => exact ⟨_, [], .refl h, .unreadable ht⟩
  | ok target =>
    cases target with
    | false => exact ⟨_, [], left_fail .., .noTarget ht⟩
    | true =>
      simp only [Bool.not_true, Bool.false_eq_true, if_false, on_bind, on_ofFiles]
      cases hr : l.readonlyWarnings h.view with
      | error e => exact ⟨_, [], .refl h, .readonlyUnreadable ht hr⟩
      | ok warnings =>
        cases hd : l.settings.dryRun with
        | true => exact ⟨_, [], .refl h, .dry ht hr hd⟩
        | false =>
          simp only [Bool.false_eq_true, if_false, on_bind]
          obtain ⟨w, ⟨hc, hon⟩ | ⟨hc, hon⟩ | ⟨e, reason, hpossible, hc, hon⟩⟩ :=
            on_prepareCaches l.caches h
          · obtain ⟨calls, hleft, hrunner⟩ :=
              on_startRunner l start data warnings extra { h with view := w }
            rw [hon]
            exact ⟨w, calls, ⟨hleft.view, hleft.environment, hleft.executions⟩,
              .prepared ht hr hd hc hrunner⟩
          · rw [hon]
            exact ⟨w, [], ⟨rfl, rfl, by simp⟩, .cachesBroken ht hr hd hc⟩
          · rw [hon]
            exact ⟨w, [], ⟨rfl, rfl, by simp [fail]⟩, .noCaches ht hr hd hc hpossible⟩

section
variable {l : Launcher} {v w : View} {env : Environment} {extra : List String} {data : Fields}
  {skip : Bool} {r : Except Failure Report} {b : Report} {calls : List Execution}

theorem BuildCourse.command (h : l.BuildCourse v env (.ok b) calls) :
    b.data.get? "command" = some (.text (Text.shellJoin l.buildArgv)) := by
  cases h <;> simp [failedReport, buildData, Fields.get?_cons]

/-- A report of a build has an error if and only if it failed. -/
theorem BuildCourse.ok_eq (h : l.BuildCourse v env (.ok b) calls) : b.ok = b.error.isNone := by
  cases h <;> rfl

/-- A build executes the engine or nothing. -/
theorem BuildCourse.calls_eq (h : l.BuildCourse v env r calls) :
    calls = [] ∨ l.settings.dryRun = false ∧ ∃ p, l.engine? v env = some p ∧
      calls = [p.execution] := by
  cases h with
  | failed _ wet engine _ => exact .inr ⟨wet, _, engine, rfl⟩
  | built _ wet engine _ => exact .inr ⟨wet, _, engine, rfl⟩
  | _ => exact .inl rfl

/-- A build that was carried out and succeeded has executed the engine to its good end. -/
theorem BuildCourse.succeeded (h : l.BuildCourse v env (.ok b) calls)
    (wet : l.settings.dryRun = false) (good : b.ok = true) :
    v.isFile l.layout.dockerfile = .ok true ∧ ∃ p, l.engine? v env = some p ∧
      calls = [p.execution] ∧ p.returncode = 0 := by
  cases h with
  | built file _ engine status => exact ⟨file, _, engine, rfl, status⟩
  | dry _ dry => simp [wet] at dry
  | _ => simp [failedReport] at good

/-- After the build the runner is executed or nothing, and the runner only where all is ready. -/
theorem TargetCourse.calls_eq (h : l.TargetCourse v env data extra r w calls) :
    calls = [] ∨ l.settings.dryRun = false ∧ v.isDirectory l.layout.targetDir = .ok true ∧
      v.ensureDirectories l.caches = (.ok (), w) ∧ ∃ p, l.runner? w env extra = some p ∧
      calls = [p.execution] := by
  cases h with
  | prepared target _ wet caches runner =>
    cases runner with
    | failed runner _ => exact .inr ⟨wet, target, caches, _, runner, rfl⟩
    | finished runner _ => exact .inr ⟨wet, target, caches, _, runner, rfl⟩
    | _ => exact .inl rfl
  | _ => exact .inl rfl

theorem TargetCourse.view_cases (h : l.TargetCourse v env data extra r w calls) :
    w = v ∨ l.settings.dryRun = false ∧ v.isDirectory l.layout.targetDir = .ok true ∧
      w = (v.ensureDirectories l.caches).2 := by
  cases h with
  | cachesBroken target _ wet caches => exact .inr ⟨wet, target, by rw [caches]⟩
  | noCaches target _ wet caches => exact .inr ⟨wet, target, by rw [caches]⟩
  | prepared target _ wet caches _ => exact .inr ⟨wet, target, by rw [caches]⟩
  | _ => exact .inl rfl

theorem engineSucceeded_of {q : Process} (hq : l.engine? v env = some q) (hzero : q.returncode = 0)
    (hmem : q.execution ∈ calls) : l.EngineSucceeded v env calls := by
  obtain ⟨hundisturbed, status, hends, hstatus⟩ := q.returncode_eq_zero_iff.mp hzero
  exact ⟨q, status, hq, hmem, hundisturbed, hends, hstatus⟩

/-- A launch executes nothing, the engine, the runner or both, the runner last. -/
theorem LaunchCourse.calls_cases (h : l.LaunchCourse v env extra skip r w calls) :
    calls = [] ∨
    (l.settings.dryRun = false ∧ skip = false ∧ ∃ q, l.engine? v env = some q ∧
      calls = [q.execution]) ∨
    (l.settings.dryRun = false ∧ v.isDirectory l.layout.targetDir = .ok true ∧
      v.ensureDirectories l.caches = (.ok (), w) ∧ ∃ p, l.runner? w env extra = some p ∧
      ((skip = true ∧ calls = [p.execution]) ∨
        (skip = false ∧ v.isFile l.layout.dockerfile = .ok true ∧ ∃ q,
          l.engine? v env = some q ∧ q.returncode = 0 ∧
          calls = [q.execution, p.execution]))) := by
  cases h with
  | skipped target =>
    obtain rfl | ⟨wet, ht, hc, p, hp, rfl⟩ := target.calls_eq
    · exact .inl rfl
    · exact .inr (.inr ⟨wet, ht, hc, p, hp, .inl ⟨rfl, rfl⟩⟩)
  | buildBroken build =>
    obtain rfl | ⟨wet, q, hq, rfl⟩ := build.calls_eq
    · exact .inl rfl
    · exact .inr (.inl ⟨wet, rfl, q, hq, rfl⟩)
  | buildFailed build =>
    obtain rfl | ⟨wet, q, hq, rfl⟩ := build.calls_eq
    · exact .inl rfl
    · exact .inr (.inl ⟨wet, rfl, q, hq, rfl⟩)
  | built build good target =>
    obtain rfl | ⟨wet, ht, hc, p, hp, rfl⟩ := target.calls_eq
    · obtain rfl | ⟨wet, q, hq, rfl⟩ := build.calls_eq
      · exact .inl rfl
      · exact .inr (.inl ⟨wet, rfl, q, hq, rfl⟩)
    · obtain ⟨file, q, hq, rfl, hzero⟩ := build.succeeded wet good
      exact .inr (.inr ⟨wet, ht, hc, p, hp, .inr ⟨rfl, file, q, hq, hzero, rfl⟩⟩)

/-- A launch leaves the files alone, or it attempts the caches after all before has been settled. -/
theorem LaunchCourse.view_cases (h : l.LaunchCourse v env extra skip r w calls) :
    w = v ∨ l.settings.dryRun = false ∧ v.isDirectory l.layout.targetDir = .ok true ∧
      (skip = true ∨ l.EngineSucceeded v env calls) ∧ w = (v.ensureDirectories l.caches).2 := by
  cases h with
  | buildBroken | buildFailed => exact .inl rfl
  | skipped target =>
    obtain rfl | ⟨wet, ht, rfl⟩ := target.view_cases
    · exact .inl rfl
    · exact .inr ⟨wet, ht, .inl rfl, rfl⟩
  | built build good target =>
    obtain rfl | ⟨wet, ht, rfl⟩ := target.view_cases
    · exact .inl rfl
    · obtain ⟨-, q, hq, rfl, hzero⟩ := build.succeeded wet good
      exact .inr ⟨wet, ht, .inr (engineSucceeded_of hq hzero (by simp)), rfl⟩

end

theorem on_launch (l : Launcher) (skip : Bool) (extra : List String) (h : Host) :
    ∃ w calls, h.Left w calls (on (l.launch skip extra) h).2 ∧
      l.LaunchCourse h.view h.environment extra skip (on (l.launch skip extra) h).1 w calls := by
  obtain ⟨start, k, hk, hstart⟩ := on_tick h
  simp only [launch, launchBy, on_bind, hk]
  cases skip with
  | true =>
    obtain ⟨w, calls, hleft, hcourse⟩ := on_runTarget l start (l.launchData .null extra) extra k
    rw [hstart.view, hstart.environment] at hcourse
    exact ⟨w, calls, hstart.trans hleft, .skipped hcourse⟩
  | false =>
    simp only [Bool.false_eq_true, if_false, on_bind]
    obtain ⟨calls, hleft, hcourse⟩ := on_buildImage l k
    rw [hstart.view] at hleft hcourse
    rw [hstart.environment] at hcourse
    replace hleft := hstart.trans hleft
    simp only [buildImage] at hleft hcourse
    generalize on (buildImageBy runCommand l) k = run at hleft hcourse ⊢
    obtain ⟨f | b, m⟩ := run
    · exact ⟨_, _, hleft, .buildBroken hcourse⟩
    · simp only [hcourse.command, Option.getD_some]
      have hok := hcourse.ok_eq
      cases he : b.error with
      | some e =>
        have hbad : b.ok = false := by rw [hok, he]; rfl
        rw [hbad]
        exact ⟨_, _, hleft.quiet (left_fail ..), .buildFailed hcourse hbad he⟩
      | none =>
        have hgood : b.ok = true := by rw [hok, he]; rfl
        rw [hgood]
        obtain ⟨w, more, hmore, htarget⟩ :=
          on_runTarget l start (l.launchData (.text (Text.shellJoin l.buildArgv)) extra) extra m
        rw [hleft.view, hleft.environment] at htarget
        exact ⟨w, _, hleft.trans hmore, .built hcourse hgood htarget⟩

end Launcher
end BuildLauncher
