import BuildLauncher.Proofs.Launch.ErrorTable
import BuildLauncher.Proofs.Text.ShellWords

/-!
# Plan, rehearsal and launch agree

A plan tells the command lines and the mounts that a launch tells, rehearsed or in earnest and
whatever comes of it. Read as shell words its command lines are the commands that a launch runs. A
rehearsal that fails foretells a launch that fails and does not come to the runner.
-/
namespace BuildLauncher

open Files

namespace Launcher

open Launching

/-- The same launcher, told to rehearse or not to. -/
def rehearsing (l : Launcher) (dry : Bool) : Launcher :=
  { l with settings := { l.settings with dryRun := dry } }

/-- What a report tells of commands and mounts, with the command lines as they are to be. -/
structure Tells (data : Fields) (build : Value) (run : String) (mounts : List String) : Prop where
  build : data.get? "build_command" = some build
  run : data.get? "run_command" = some (.text run)
  mounts : data.get? "mounts" = some (.list (mounts.map .text))

/-- A launch runs no commands but one through its engine and one through its runner: it is the same
launch with any two ways of running commands that run these as they are run. -/
def RunsOnly (l : Launcher) (extra engineWords runnerWords : List String) : Prop :=
  ∀ (skip : Bool) (engine runner : Executor),
    engine engineWords none = runCommand engineWords none →
    runner runnerWords (some l.layout.targetDir) =
      runCommand runnerWords (some l.layout.targetDir) →
    l.launchBy engine runner skip extra = l.launch skip extra

variable {l : Launcher} {v w : View} {env : Environment} {extra : List String} {data : Fields}
  {skip : Bool} {r d : Report} {calls : List Execution}

theorem runsOnly (l : Launcher) (extra : List String) :
    l.RunsOnly extra l.buildArgv (l.runArgv extra) := by
  intro skip engine runner he hr
  have hbuild : buildBy engine l.settings.docker l.settings.image l.layout.launcherDir =
      buildBy runCommand l.settings.docker l.settings.image l.layout.launcherDir := he
  have hrun : runBy runner l.settings.runner l.settings.image l.mounts l.layout.targetDir extra =
      runBy runCommand l.settings.runner l.settings.image l.mounts l.layout.targetDir extra := hr
  simp only [launch, launchBy, buildImageBy, runTargetBy, startRunnerBy, hbuild, hrun]

theorem TargetCourse.data_eq (h : l.TargetCourse v env data extra (.ok r) w calls) :
    ∃ more, r.data = data ++ more := by
  cases h with
  | prepared _ _ _ _ runner =>
    cases runner with
    | finished => exact ⟨_, rfl⟩
    | _ => exact ⟨[], (List.append_nil _).symm⟩
  | _ => exact ⟨[], (List.append_nil _).symm⟩

theorem LaunchCourse.data_eq (h : l.LaunchCourse v env extra skip (.ok r) w calls) :
    ∃ more, r.data =
      l.launchData (if skip then .null else .text (Text.shellJoin l.buildArgv)) extra ++ more := by
  cases h with
  | skipped target => exact target.data_eq
  | buildFailed => exact ⟨[], (List.append_nil _).symm⟩
  | built _ _ target => exact target.data_eq

theorem tells_launchData (l : Launcher) (build : Value) (extra : List String) (more : Fields) :
    Tells (l.launchData build extra ++ more) build (Text.shellJoin (l.runArgv extra))
      (l.mounts.map Mount.spec) := by
  constructor <;>
    simp [launchData, Fields.get?_cons, mountSpecs, Function.comp_def]

theorem tells_planData (l : Launcher) (extra : List String) :
    Tells (l.planData extra) (.text (Text.shellJoin l.buildArgv))
      (Text.shellJoin (l.runArgv extra)) (l.mounts.map Mount.spec) := by
  constructor <;> simp [planData, Fields.get?_cons, mountSpecs, Function.comp_def]

theorem plan_eq_ok {h : Host} (hp : (on (l.plan extra) h).1 = .ok r) :
    ∃ warnings, r = ⟨true, "plan", l.planData extra, warnings, none, none⟩ := by
  simp only [plan, on_ofFiles] at hp
  cases hplan : l.planIn h.view extra with
  | error e => simp [hplan] at hp
  | ok p =>
    obtain rfl : p = r := by simpa [hplan] using hp
    obtain ⟨hasDockerfile, -, hrest⟩ := bind_eq_ok hplan
    obtain ⟨hasTarget, -, hrest⟩ := bind_eq_ok hrest
    obtain ⟨readonly, -, hreport⟩ := bind_eq_ok hrest
    exact ⟨_, (Except.ok.inj hreport).symm⟩

theorem plan_data {h : Host} (hp : (on (l.plan extra) h).1 = .ok r) : r.data = l.planData extra := by
  obtain ⟨warnings, rfl⟩ := plan_eq_ok hp
  rfl

theorem BuildCourse.rehearsed {b : Report} (h : l.BuildCourse v env (.ok b) calls)
    (dry : l.settings.dryRun = true) :
    (b.ok = true ∧ v.isFile l.layout.dockerfile = .ok true) ∨
    (∃ e, b.error = some e ∧ e.code = "DOCKERFILE_MISSING" ∧
      v.isFile l.layout.dockerfile = .ok false) := by
  cases h with
  | noDockerfile file => exact .inr ⟨_, rfl, rfl, file⟩
  | dry file => exact .inl ⟨rfl, file⟩
  | noEngine _ wet | failed _ wet | built _ wet => simp [dry] at wet

theorem TargetCourse.rehearsed {e : ReportError}
    (h : l.TargetCourse v env data extra (.ok d) w calls) (dry : l.settings.dryRun = true)
    (he : d.error = some e) :
    e.code = "TARGET_MISSING" ∧ v.isDirectory l.layout.targetDir = .ok false := by
  cases h with
  | noTarget target =>
    obtain rfl := Option.some.inj he
    exact ⟨rfl, target⟩
  | dry => simp at he
  | noCaches _ _ wet | prepared _ _ wet => simp [dry] at wet

/-- A rehearsal fails for want of the Dockerfile or of the target, and of nothing else. -/
theorem LaunchCourse.rehearsed {e : ReportError}
    (h : l.LaunchCourse v env extra skip (.ok d) w calls) (dry : l.settings.dryRun = true)
    (he : d.error = some e) :
    (e.code = "DOCKERFILE_MISSING" ∧ skip = false ∧ v.isFile l.layout.dockerfile = .ok false) ∨
    (e.code = "TARGET_MISSING" ∧ v.isDirectory l.layout.targetDir = .ok false ∧
      (skip = true ∨ v.isFile l.layout.dockerfile = .ok true)) := by
  cases h with
  | skipped target =>
    obtain ⟨hcode, ht⟩ := target.rehearsed dry he
    exact .inr ⟨hcode, ht, .inl rfl⟩
  | buildFailed build bad error =>
    obtain rfl := Option.some.inj he
    obtain ⟨good, -⟩ | ⟨e', he', hcode, file⟩ := build.rehearsed dry
    · simp [bad] at good
    · obtain rfl := Option.some.inj (error.symm.trans he')
      exact .inl ⟨hcode, rfl, file⟩
  | built build good target =>
    obtain ⟨hcode, ht⟩ := target.rehearsed dry he
    obtain ⟨-, file⟩ | ⟨e', he', -⟩ := build.rehearsed dry
    · exact .inr ⟨hcode, ht, .inr file⟩
    · simp [build.ok_eq, he'] at good

theorem verdict_noDockerfile (hf : v.isFile l.layout.dockerfile = .ok false) :
    verdict (l.launchRows v env false extra) = some ("DOCKERFILE_MISSING", 1) := by
  simp [launchRows, buildRows, verdict_cons, hf]

theorem verdict_noTarget (env : Environment) (extra : List String)
    (ht : v.isDirectory l.layout.targetDir = .ok false)
    (hf : skip = true ∨ v.isFile l.layout.dockerfile = .ok true) :
    ∃ code status, verdict (l.launchRows v env skip extra) = some (code, status) ∧
      (code = "TARGET_MISSING" ∨ code = "ENGINE_NOT_FOUND" ∨ code = "BUILD_FAILED") := by
  cases skip with
  | true =>
    exact ⟨"TARGET_MISSING", 1, by simp [launchRows, targetRows, verdict_cons, ht], .inl rfl⟩
  | false =>
    have file : v.isFile l.layout.dockerfile = .ok true := by simpa using hf
    cases he : l.engine? v env with
    | none =>
      exact ⟨"ENGINE_NOT_FOUND", 127, by simp [launchRows, buildRows, verdict_cons, file, he],
        .inr (.inl rfl)⟩
    | some p =>
      by_cases hs : p.shellStatus = 0
      · refine ⟨"TARGET_MISSING", 1, ?_, .inl rfl⟩
        simp [launchRows, buildRows, targetRows, verdict_cons, file, he, hs, ht]
      · refine ⟨"BUILD_FAILED", p.shellStatus, ?_, .inr (.inr rfl)⟩
        simp [launchRows, buildRows, verdict_cons, file, he, hs]

/-- The error of a report that answers by rows is the one that they decide. -/
theorem Answers.error_of_verdict {op code : String} {status : Int} {rows : List Row}
    (h : Answers op rows r) (hv : verdict rows = some (code, status)) :
    r.ok = false ∧ ∃ e, r.error = some e ∧ e.code = code := by
  have hdecided := h.decided
  rw [hv, Option.map_eq_some_iff] at hdecided
  obtain ⟨e, he, hcode⟩ := hdecided
  exact ⟨h.error_iff.mp (by simp [he]), e, he, congrArg Prod.fst hcode⟩

/-- What is in the way of a rehearsal is in the way of the launch, unless the engine is before. -/
theorem LaunchCourse.fails_as_rehearsed {e : ReportError} {w' : View} {calls' : List Execution}
    (hd : (l.rehearsing true).LaunchCourse v env extra skip (.ok d) w calls) (he : d.error = some e)
    (hr : (l.rehearsing false).LaunchCourse v env extra skip (.ok r) w' calls') :
    r.ok = false ∧ ∃ e', r.error = some e' ∧
      (e'.code = e.code ∨ e'.code = "ENGINE_NOT_FOUND" ∨ e'.code = "BUILD_FAILED") := by
  have hanswers := hr.answers rfl
  obtain ⟨hcode, rfl, file⟩ | ⟨hcode, target, file⟩ := hd.rehearsed rfl he
  · obtain ⟨bad, e', he', hcode'⟩ := hanswers.error_of_verdict (verdict_noDockerfile file)
    exact ⟨bad, e', he', .inl (hcode'.trans hcode.symm)⟩
  · obtain ⟨code, status, hv, hcodes⟩ :=
      verdict_noTarget (l := l.rehearsing false) env extra target file
    obtain ⟨bad, e', he', rfl⟩ := hanswers.error_of_verdict hv
    exact ⟨bad, e', he', hcode ▸ hcodes⟩

/-- A launch whose rehearsal fails does not come to the runner. -/
theorem LaunchCourse.no_runner {e : ReportError} {r : Except Failure Report} {w' : View}
    {calls' : List Execution}
    (hd : (l.rehearsing true).LaunchCourse v env extra skip (.ok d) w calls) (he : d.error = some e)
    (hr : (l.rehearsing false).LaunchCourse v env extra skip r w' calls') :
    calls' = [] ∨ skip = false ∧ ∃ p, l.engine? v env = some p ∧ calls' = [p.execution] := by
  obtain hc | ⟨-, hskip, hc⟩ | ⟨-, target, -, p, -, hc⟩ := hr.calls_cases
  · exact .inl hc
  · exact .inr ⟨hskip, hc⟩
  · obtain ⟨-, hskip, file⟩ | ⟨-, missing, -⟩ := hd.rehearsed rfl he
    · obtain ⟨hskip', -⟩ | ⟨-, file', -⟩ := hc
      · simp [hskip] at hskip'
      · exact absurd (file.symm.trans file') (by simp)
    · exact absurd (missing.symm.trans target) (by simp)

/-- The operations of a launcher on one host keep to a plan: its command lines, as texts and as the
words that a shell reads from them, its mounts, and what a failed rehearsal foretells. -/
structure KeepsTo (l : Launcher) (extra : List String) (h : Host) (build run : String)
    (mounts : List String) : Prop where
  image : ∀ dry r, (on (l.rehearsing dry).buildImage h).1 = .ok r →
    r.data.get? "command" = some (.text build)
  launch : ∀ dry skip r, (on ((l.rehearsing dry).launch skip extra) h).1 = .ok r →
    Tells r.data (if skip then .null else .text build) run mounts
  words : ∃ engineWords runnerWords, Text.shellSplit build = some engineWords ∧
    Text.shellSplit run = some runnerWords ∧
    (l.rehearsing false).RunsOnly extra engineWords runnerWords
  failure : ∀ skip d e, (on ((l.rehearsing true).launch skip extra) h).1 = .ok d →
    d.error = some e → ∀ r, (on ((l.rehearsing false).launch skip extra) h).1 = .ok r →
      r.ok = false ∧ ∃ e', r.error = some e' ∧
        (e'.code = e.code ∨ e'.code = "ENGINE_NOT_FOUND" ∨ e'.code = "BUILD_FAILED")
  no_runner : ∀ skip d e, (on ((l.rehearsing true).launch skip extra) h).1 = .ok d →
    d.error = some e →
      ∃ calls, (on ((l.rehearsing false).launch skip extra) h).2.executions =
          h.executions ++ calls ∧
        (calls = [] ∨ skip = false ∧ ∃ p, l.engine? h.view h.environment = some p ∧
          calls = [p.execution])

/-- Planning, building and launching, rehearsed and in earnest, agree on every host. -/
theorem operations_agree (l : Launcher) (extra : List String) (h : Host) (plan : Report)
    (hplan : (on (l.plan extra) h).1 = .ok plan) :
    ∃ build run mounts, Tells plan.data (.text build) run mounts ∧
      l.KeepsTo extra h build run mounts := by
  refine ⟨Text.shellJoin l.buildArgv, Text.shellJoin (l.runArgv extra), l.mounts.map Mount.spec,
    plan_data hplan ▸ l.tells_planData extra, ?_, ?_, ?_, ?_, ?_⟩
  · intro dry r hr
    obtain ⟨calls, -, hcourse⟩ := on_buildImage (l.rehearsing dry) h
    exact (hr ▸ hcourse).command
  · intro dry skip r hr
    obtain ⟨w, calls, -, hcourse⟩ := on_launch (l.rehearsing dry) skip extra h
    obtain ⟨more, hdata⟩ := (hr ▸ hcourse).data_eq
    rw [hdata]
    exact (l.rehearsing dry).tells_launchData _ extra more
  · exact ⟨l.buildArgv, l.runArgv extra, Text.shellSplit_shellJoin _, Text.shellSplit_shellJoin _,
      (l.rehearsing false).runsOnly extra⟩
  · intro skip d e hd he r hr
    obtain ⟨w, calls, -, hdry⟩ := on_launch (l.rehearsing true) skip extra h
    obtain ⟨w', calls', -, hwet⟩ := on_launch (l.rehearsing false) skip extra h
    exact (hd ▸ hdry).fails_as_rehearsed he (hr ▸ hwet)
  · intro skip d e hd he
    obtain ⟨w, calls, -, hdry⟩ := on_launch (l.rehearsing true) skip extra h
    obtain ⟨w', calls', hleft, hwet⟩ := on_launch (l.rehearsing false) skip extra h
    exact ⟨calls', hleft.executions, (hd ▸ hdry).no_runner he hwet⟩

/-- A launcher whose words need quotes. -/
def quotedLauncher : Launcher where
  settings := {
    baseDir := .root, configPath := none, image := "it's", volume := "", docker := "my docker"
    jsonOutput := false, quiet := false, verbose := false, logJson := false, dryRun := false
    layout := .default, runner := ⟨"in-docker", "é"⟩ }
  directory := .root

/-- A host without files. -/
def bareHost : Host := ⟨⟨.empty, some []⟩, [], ⟨.whole 0, []⟩, [], []⟩

theorem operations_agree_quoted :
    ∃ plan, (on (quotedLauncher.plan ["", "a b", "--"]) bareHost).1 = .ok plan ∧
      ∃ build run mounts, Tells plan.data (.text build) run mounts ∧
        quotedLauncher.KeepsTo ["", "a b", "--"] bareHost build run mounts := by
  have hsome : (on (quotedLauncher.plan ["", "a b", "--"]) bareHost).1.toOption.isSome = true := by
    decide +kernel
  cases hplan : (on (quotedLauncher.plan ["", "a b", "--"]) bareHost).1 with
  | error f => simp [hplan, Except.toOption] at hsome
  | ok plan => exact ⟨plan, rfl, operations_agree _ _ _ plan hplan⟩

end Launcher
end BuildLauncher
