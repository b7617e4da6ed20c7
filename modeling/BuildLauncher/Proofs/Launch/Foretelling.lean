import BuildLauncher.Proofs.Launch.Agreement

/-!
# What a plan foretells

A plan looks at the same files as a build and a launch, though all at once and in an order of its own.
Its warnings are the messages of the failures to come and, after these, the warnings of a launch that
comes to its caches (`plan_foretells`).
-/
namespace BuildLauncher

open Files

/-- The directories that are not there are the paths that are none, in their order. -/
theorem ProjectLayout.missing_eq_filter {v : View} {paths absent : List Path}
    (h : missing v paths = .ok absent) :
    absent = paths.filter fun path => v.isDirectory path ≠ .ok true := by
  induction paths generalizing absent with
  | nil => exact (Except.ok.inj h).symm
  | cons path rest ih =>
    obtain ⟨present, hpresent, hrest⟩ := bind_eq_ok h
    obtain ⟨more, hmore, hresult⟩ := bind_eq_ok hrest
    have habsent : (if present then more else path :: more) = absent := Except.ok.inj hresult
    rw [← habsent, ih hmore, List.filter_cons, hpresent]
    cases present <;> simp

namespace Launcher

open Launching

/-- The message of a failure, if it is the one with this code. -/
def messageOf (code : String) (r : Report) : List String :=
  (r.error.toList.filter (·.code = code)).map ReportError.message

/-- A launch that has found its target: it succeeded, or it failed at the caches or the runner. -/
def FoundTarget (r : Report) : Prop :=
  ∀ e, r.error = some e → e.code ∈ ["CACHE_DIR_FAILED", "RUNNER_NOT_FOUND", "RUNNER_FAILED"]

/-- What is told of the Dockerfile. -/
def dockerfileNotice (l : Launcher) (present : Bool) : List String :=
  if present then [] else [l.noDockerfile]

/-- What is told of the target. -/
def targetNotice (l : Launcher) (present : Bool) : List String :=
  if present then [] else [l.noTarget]

/-- What there is to find out about the files of a launcher. -/
structure Inspected (l : Launcher) (v : View) (dockerfile target : Bool) (readonly : List String) :
    Prop where
  dockerfile : v.isFile l.layout.dockerfile = .ok dockerfile
  target : v.isDirectory l.layout.targetDir = .ok target
  readonly : l.readonlyWarnings v = .ok readonly

section

variable {l : Launcher} {v w : View} {env : Environment} {extra readonly : List String}
  {data : Fields} {skip dockerfile target : Bool} {r b : Report} {calls : List Execution}

/-- To rehearse or not makes no difference to what is found. -/
theorem Inspected.rehearsing (h : l.Inspected v dockerfile target readonly) (dry : Bool) :
    (l.rehearsing dry).Inspected v dockerfile target readonly :=
  ⟨h.dockerfile, h.target, h.readonly⟩

theorem readonlyWarnings_eq_filter (h : l.readonlyWarnings v = .ok readonly) :
    readonly = (l.layout.readonlyDirs.filter fun path => v.isDirectory path ≠ .ok true).map
      fun path => "Read-only dependency not found: " ++ path.text := by
  obtain ⟨absent, habsent, rfl⟩ := map_eq_ok h
  rw [ProjectLayout.missing_eq_filter habsent]

/-- A plan warns of all that it finds. -/
theorem inspected_of_plan {h : Host} {plan : Report} (hplan : (on (l.plan extra) h).1 = .ok plan) :
    ∃ dockerfile target readonly, l.Inspected h.view dockerfile target readonly ∧
      plan.warnings = l.dockerfileNotice dockerfile ++ l.targetNotice target ++ readonly := by
  rw [Launcher.plan, on_ofFiles] at hplan
  cases hin : l.planIn h.view extra with
  | error e => simp [hin] at hplan
  | ok p =>
    obtain rfl : p = plan := by simpa [hin] using hplan
    obtain ⟨dockerfile, hdockerfile, hrest⟩ := bind_eq_ok hin
    obtain ⟨target, htarget, hrest⟩ := bind_eq_ok hrest
    obtain ⟨readonly, hreadonly, hreport⟩ := bind_eq_ok hrest
    obtain rfl := Except.ok.inj hreport
    exact ⟨dockerfile, target, readonly, ⟨hdockerfile, htarget, hreadonly⟩, rfl⟩

/-- A build fails for want of its Dockerfile exactly if a plan warns of that, in the same words. -/
theorem BuildCourse.messageOf_eq (h : l.BuildCourse v env (.ok b) calls)
    (found : v.isFile l.layout.dockerfile = .ok dockerfile) :
    messageOf "DOCKERFILE_MISSING" b = l.dockerfileNotice dockerfile := by
  cases h with
  | noDockerfile file =>
    obtain rfl : false = dockerfile := Except.ok.inj (file.symm.trans found)
    rfl
  | dry file | noEngine file | failed file | built file =>
    obtain rfl : true = dockerfile := Except.ok.inj (file.symm.trans found)
    rfl

/-- So does what follows the build for want of its target. -/
theorem TargetCourse.messageOf_eq (h : l.TargetCourse v env data extra (.ok r) w calls)
    (found : v.isDirectory l.layout.targetDir = .ok target) :
    messageOf "TARGET_MISSING" r = l.targetNotice target := by
  cases h with
  | noTarget absent =>
    obtain rfl : false = target := Except.ok.inj (absent.symm.trans found)
    rfl
  | dry present | noCaches present =>
    obtain rfl : true = target := Except.ok.inj (present.symm.trans found)
    rfl
  | prepared present _ _ _ runner =>
    obtain rfl : true = target := Except.ok.inj (present.symm.trans found)
    cases runner <;> rfl

/-- Whatever comes after the target has been found carries the warnings of a plan. -/
theorem TargetCourse.warnings_eq (h : l.TargetCourse v env data extra (.ok r) w calls)
    (found : l.readonlyWarnings v = .ok readonly) (htarget : FoundTarget r) :
    r.warnings = readonly := by
  cases h with
  | noTarget => simpa using htarget _ rfl
  | dry _ carried | noCaches _ carried => exact Except.ok.inj (carried.symm.trans found)
  | prepared _ carried _ _ runner =>
    cases runner <;> exact Except.ok.inj (carried.symm.trans found)

/-- A build that failed has failed before the target is looked for. -/
theorem BuildCourse.not_foundTarget {e : ReportError} (h : l.BuildCourse v env (.ok b) calls)
    (he : b.error = some e) :
    e.code ∉ ["CACHE_DIR_FAILED", "RUNNER_NOT_FOUND", "RUNNER_FAILED"] := by
  cases h with
  | noDockerfile | noEngine | failed =>
    obtain rfl := Option.some.inj he
    simp
  | dry | built => contradiction

theorem LaunchCourse.warnings_eq (h : l.LaunchCourse v env extra skip (.ok r) w calls)
    (found : l.readonlyWarnings v = .ok readonly) (htarget : FoundTarget r) :
    r.warnings = readonly := by
  cases h with
  | skipped target => exact target.warnings_eq found htarget
  | buildFailed build _ error => exact absurd (htarget _ rfl) (build.not_foundTarget error)
  | built _ _ target => exact target.warnings_eq found htarget

/-- A rehearsal after the build succeeds exactly if the target is there. -/
theorem TargetCourse.rehearsal {result : Except Failure Report}
    (h : l.TargetCourse v env data extra result w calls) (dry : l.settings.dryRun = true)
    (found : l.Inspected v dockerfile target readonly) :
    ∃ d, result = .ok d ∧ d.ok = target ∧ (target = true → d.warnings = readonly) := by
  cases h with
  | unreadable absent => exact nomatch absent.symm.trans found.target
  | noTarget absent =>
    obtain rfl : false = target := Except.ok.inj (absent.symm.trans found.target)
    exact ⟨_, rfl, rfl, nofun⟩
  | readonlyUnreadable _ carried => exact nomatch carried.symm.trans found.readonly
  | dry present carried =>
    obtain rfl : true = target := Except.ok.inj (present.symm.trans found.target)
    exact ⟨_, rfl, rfl, fun _ => Except.ok.inj (carried.symm.trans found.readonly)⟩
  | cachesBroken _ _ wet | noCaches _ _ wet | prepared _ _ wet => simp [dry] at wet

/-- A rehearsal of a build succeeds exactly if the Dockerfile is there. -/
theorem BuildCourse.rehearsal {result : Except Failure Report}
    (h : l.BuildCourse v env result calls) (dry : l.settings.dryRun = true)
    (found : v.isFile l.layout.dockerfile = .ok dockerfile) :
    ∃ b, result = .ok b ∧ b.ok = dockerfile := by
  cases h with
  | unreadable file => exact nomatch file.symm.trans found
  | noDockerfile file | dry file => exact ⟨_, rfl, Except.ok.inj (file.symm.trans found)⟩
  | broken _ wet | noEngine _ wet | failed _ wet | built _ wet => simp [dry] at wet

/-- A rehearsal comes to a report where all can be inspected, and it succeeds without a warning exactly
if there is nothing to warn of. -/
theorem LaunchCourse.rehearsal {result : Except Failure Report}
    (h : l.LaunchCourse v env extra false result w calls) (dry : l.settings.dryRun = true)
    (found : l.Inspected v dockerfile target readonly) :
    ∃ d, result = .ok d ∧ (d.ok = true ∧ d.warnings = [] ↔
      dockerfile = true ∧ target = true ∧ readonly = []) := by
  cases h with
  | buildBroken build =>
    obtain ⟨b, hb, -⟩ := build.rehearsal dry found.dockerfile
    exact nomatch hb
  | buildFailed build bad =>
    obtain ⟨b, hb, hok⟩ := build.rehearsal dry found.dockerfile
    obtain rfl := Except.ok.inj hb
    exact ⟨_, rfl, by simp [failedReport, ← hok, bad]⟩
  | built build good after =>
    obtain ⟨b, hb, hok⟩ := build.rehearsal dry found.dockerfile
    obtain rfl := Except.ok.inj hb
    obtain ⟨d, hd, htarget, hwarnings⟩ := after.rehearsal dry found
    refine ⟨d, hd, ?_⟩
    rw [htarget, ← hok, good]
    cases target with
    | false => simp
    | true => simp [hwarnings]

end

/-- The warnings that a plan gives of the Dockerfile, of the target and of the checkouts to read, and
what builds and launches on the same host, rehearsed and in earnest, make of them. -/
structure Foretold (l : Launcher) (extra : List String) (h : Host)
    (dockerfile target readonly : List String) : Prop where
  dockerfile_eq : dockerfile =
    if h.view.isFile l.layout.dockerfile = .ok true then [] else [l.noDockerfile]
  target_eq : target =
    if h.view.isDirectory l.layout.targetDir = .ok true then [] else [l.noTarget]
  readonly_eq : readonly =
    (l.layout.readonlyDirs.filter fun path => h.view.isDirectory path ≠ .ok true).map
      fun path => "Read-only dependency not found: " ++ path.text
  image : ∀ dry b, (on (l.rehearsing dry).buildImage h).1 = .ok b →
    messageOf "DOCKERFILE_MISSING" b = dockerfile
  launch : ∀ dry r, (on ((l.rehearsing dry).launch true extra) h).1 = .ok r →
    messageOf "TARGET_MISSING" r = target
  carried : ∀ dry skip r, (on ((l.rehearsing dry).launch skip extra) h).1 = .ok r →
    FoundTarget r → r.warnings = readonly
  rehearsal : ∃ d, (on ((l.rehearsing true).launch false extra) h).1 = .ok d ∧
    (d.ok = true ∧ d.warnings = [] ↔ dockerfile ++ target ++ readonly = [])

/-- The warnings of a plan are the messages of the failures to come for want of the Dockerfile and of
the target, and then the warnings of a launch that finds its target. -/
theorem plan_foretells (l : Launcher) (extra : List String) (h : Host) (plan : Report)
    (hplan : (on (l.plan extra) h).1 = .ok plan) :
    ∃ dockerfile target readonly, plan.warnings = dockerfile ++ target ++ readonly ∧
      l.Foretold extra h dockerfile target readonly := by
  obtain ⟨dockerfile, target, readonly, found, hwarnings⟩ := inspected_of_plan hplan
  refine ⟨_, _, _, hwarnings, ?_, ?_, readonlyWarnings_eq_filter found.readonly, ?_, ?_, ?_, ?_⟩
  · rw [found.dockerfile]
    cases dockerfile <;> simp [dockerfileNotice]
  · rw [found.target]
    cases target <;> simp [targetNotice]
  · intro dry b hb
    obtain ⟨calls, -, course⟩ := on_buildImage (l.rehearsing dry) h
    exact (hb ▸ course).messageOf_eq (found.rehearsing dry).dockerfile
  · intro dry r hr
    obtain ⟨w, calls, -, course⟩ := on_launch (l.rehearsing dry) true extra h
    rw [hr] at course
    cases course with
    | skipped after => exact after.messageOf_eq (found.rehearsing dry).target
  · intro dry skip r hr
    obtain ⟨w, calls, -, course⟩ := on_launch (l.rehearsing dry) skip extra h
    exact (hr ▸ course).warnings_eq (found.rehearsing dry).readonly
  · obtain ⟨w, calls, -, course⟩ := on_launch (l.rehearsing true) false extra h
    obtain ⟨d, hd, hgood⟩ := course.rehearsal rfl (found.rehearsing true)
    refine ⟨d, hd, hgood.trans ?_⟩
    cases dockerfile <;> cases target <;> simp [dockerfileNotice, targetNotice]

/-- Without a target and without the checkout to read, a plan warns of both. -/
theorem plan_foretells_absent : ∃ plan dockerfile target readonly,
    (on (rootLauncher.plan ["--"]) interruptedHost).1 = .ok plan ∧
      plan.warnings = ["Target directory not found: /reth", "Read-only dependency not found: /alloy"] ∧
      plan.warnings = dockerfile ++ target ++ readonly ∧
      rootLauncher.Foretold ["--"] interruptedHost dockerfile target readonly := by
  obtain ⟨plan, hplan, hwarnings⟩ := toOption_map_eq_some (by decide +kernel :
    (on (rootLauncher.plan ["--"]) interruptedHost).1.toOption.map Report.warnings =
      some ["Target directory not found: /reth", "Read-only dependency not found: /alloy"])
  obtain ⟨dockerfile, target, readonly, hparts, foretold⟩ := plan_foretells _ _ _ plan hplan
  exact ⟨plan, dockerfile, target, readonly, hplan, hwarnings, hparts, foretold⟩

end Launcher
end BuildLauncher
