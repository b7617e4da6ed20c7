import BuildLauncher.Proofs.Files.Names
import BuildLauncher.Proofs.Launch.Courses
import BuildLauncher.Settings.Assembly

/-!
# Failures without a report

An operation reports what it finds wrong, but for names that are too long, words that no command can
have, and a working directory that is gone. `operations_escape` says when each of these ends a plan,
a build or a launch.
-/
namespace BuildLauncher

open Files

namespace ProjectLayout

/-- Looking for directories fails at the first path with a name that is too long. -/
theorem missing_eq_error {v : View} {paths : List Path} {e : Error} :
    missing v paths = .error e ↔ ∃ path, paths.find? v.tooLong = some path ∧ longName path = e := by
  induction paths with
  | nil => simp [missing]
  | cons path rest ih =>
    rw [missing, List.find?_cons]
    cases hlong : v.tooLong path with
    | true => simp [View.isDirectory_eq_error.mpr ⟨hlong, rfl⟩]
    | false =>
      cases hpresent : v.isDirectory path with
      | error e => simp [(View.isDirectory_eq_error.mp hpresent).1] at hlong
      | ok present => simp [bind_eq_error, ih, pure, Except.pure]

end ProjectLayout

namespace Launcher

variable {l : Launcher} {v w : View} {env : Environment} {extra : List String} {data : Fields}
  {skip : Bool} {r : Except Failure Report} {b : Report} {calls : List Execution} {f : Failure}
  {e : Error}

theorem readonlyWarnings_eq_error :
    l.readonlyWarnings v = .error e ↔
      ∃ path, l.layout.readonlyDirs.find? v.tooLong = some path ∧ longName path = e := by
  rw [readonlyWarnings, map_eq_error, ProjectLayout.missingReadonly, ProjectLayout.missing_eq_error]

theorem find?_of_readonlyWarnings {warnings : List String}
    (h : l.readonlyWarnings v = .ok warnings) :
    l.layout.readonlyDirs.find? v.tooLong = none := by
  cases hfind : l.layout.readonlyDirs.find? v.tooLong with
  | none => rfl
  | some path =>
    rw [readonlyWarnings_eq_error.mpr ⟨path, hfind, rfl⟩] at h
    nomatch h

/-- What ends a build without a report. -/
inductive BuildEscape (l : Launcher) (v : View) (env : Environment) : Error → Prop
  | dockerfile (long : v.tooLong l.layout.dockerfile = true) :
      BuildEscape l v env (longName l.layout.dockerfile)
  | engine {e : Error} (file : v.isFile l.layout.dockerfile = .ok true)
      (wet : l.settings.dryRun = false) (fault : l.engineFault? v env = some e) :
      BuildEscape l v env e

/-- The build is only rehearsed, or the engine ends with status zero. -/
def BuildPasses (l : Launcher) (v : View) (env : Environment) : Prop :=
  v.isFile l.layout.dockerfile = .ok true ∧
    (l.settings.dryRun = true ∨ ∃ p, l.engine? v env = some p ∧ p.returncode = 0)

/-- What ends a launch without a report after the build. -/
inductive TargetEscape (l : Launcher) (v : View) (env : Environment) (extra : List String) :
    Error → Prop
  | target (long : v.tooLong l.layout.targetDir = true) :
      TargetEscape l v env extra (longName l.layout.targetDir)
  | readonly {path : Path} (target : v.isDirectory l.layout.targetDir = .ok true)
      (long : l.layout.readonlyDirs.find? v.tooLong = some path) :
      TargetEscape l v env extra (longName path)
  | caches {w : View} (target : v.isDirectory l.layout.targetDir = .ok true)
      (readonly : l.layout.readonlyDirs.find? v.tooLong = none) (wet : l.settings.dryRun = false)
      (caches : v.ensureDirectories l.caches = (.error .nulCharacter, w)) :
      TargetEscape l v env extra .nulCharacter
  | runner {w : View} {e : Error} (target : v.isDirectory l.layout.targetDir = .ok true)
      (readonly : l.layout.readonlyDirs.find? v.tooLong = none) (wet : l.settings.dryRun = false)
      (caches : v.ensureDirectories l.caches = (.ok (), w))
      (fault : l.runnerFault? w env extra = some e) :
      TargetEscape l v env extra e

/-- What ends a launch without a report. -/
inductive LaunchEscape (l : Launcher) (v : View) (env : Environment) (extra : List String) :
    Bool → Error → Prop
  | skipped {e : Error} (target : l.TargetEscape v env extra e) : LaunchEscape l v env extra true e
  | build {e : Error} (build : l.BuildEscape v env e) : LaunchEscape l v env extra false e
  | built {e : Error} (build : l.BuildPasses v env) (target : l.TargetEscape v env extra e) :
      LaunchEscape l v env extra false e

section Build

theorem engineFault?_of_engine? {p : Process} (h : l.engine? v env = some p) :
    l.engineFault? v env = none :=
  commandFault?_of_process? h

theorem runnerFault?_of_runner? {p : Process} (h : l.runner? v env extra = some p) :
    l.runnerFault? v env extra = none :=
  commandFault?_of_process? h

theorem BuildCourse.eq_error_iff (h : l.BuildCourse v env r calls) :
    r = .error f ↔ ∃ e, l.BuildEscape v env e ∧ .files e = f := by
  constructor
  · rintro rfl
    cases h with
    | unreadable file =>
      obtain ⟨long, rfl⟩ := View.isFile_eq_error.mp file
      exact ⟨_, .dockerfile long, rfl⟩
    | broken file wet _ fault => exact ⟨_, .engine file wet fault, rfl⟩
  · rintro ⟨e, escape, rfl⟩
    cases escape with
    | dockerfile long =>
      have unread := View.isFile_eq_error.mpr ⟨long, rfl⟩
      cases h with
      | unreadable file => rw [Except.error.inj (file.symm.trans unread)]
      | noDockerfile file | dry file _ | broken file _ _ _ | noEngine file _ _ _
      | failed file _ _ _ | built file _ _ _ =>
        rw [file] at unread
        nomatch unread
    | engine file wet fault =>
      cases h with
      | unreadable unread | noDockerfile unread =>
        rw [file] at unread
        nomatch unread
      | dry _ dry => simp [wet] at dry
      | broken _ _ _ cause => rw [Option.some.inj (cause.symm.trans fault)]
      | noEngine _ _ _ none =>
        rw [fault] at none
        nomatch none
      | failed _ _ engine _ | built _ _ engine _ =>
        rw [engineFault?_of_engine? engine] at fault
        nomatch fault

theorem BuildCourse.ok_iff (h : l.BuildCourse v env (.ok b) calls) :
    b.ok = true ↔ l.BuildPasses v env := by
  cases h with
  | noDockerfile file => exact iff_of_false nofun fun passes => absurd (file.symm.trans passes.1) nofun
  | dry file dry => exact iff_of_true rfl ⟨file, .inl dry⟩
  | noEngine file wet engine _ =>
    refine iff_of_false nofun ?_
    rintro ⟨-, dry | ⟨p, hp, -⟩⟩
    · simp [wet] at dry
    · simp [engine] at hp
  | failed file wet engine bad =>
    refine iff_of_false nofun ?_
    rintro ⟨-, dry | ⟨p, hp, good⟩⟩
    · simp [wet] at dry
    · exact bad (Option.some.inj (engine.symm.trans hp) ▸ good)
  | built file _ engine good => exact iff_of_true rfl ⟨file, .inr ⟨_, engine, good⟩⟩

theorem BuildPasses.not_escape (h : l.BuildPasses v env) : ¬l.BuildEscape v env e := by
  obtain ⟨file, hpasses⟩ := h
  intro escape
  cases escape with
  | dockerfile long =>
    rw [View.isFile_eq_error.mpr ⟨long, rfl⟩] at file
    nomatch file
  | engine _ wet fault =>
    obtain dry | ⟨p, hp, -⟩ := hpasses
    · simp [wet] at dry
    · rw [engineFault?_of_engine? hp] at fault
      nomatch fault

end Build

section Launch

theorem RunnerCourse.eq_error_iff {warnings : List String}
    (h : l.RunnerCourse v env data warnings extra r calls) :
    r = .error f ↔ ∃ e, l.runnerFault? v env extra = some e ∧ .files e = f := by
  cases h with
  | broken _ fault => simp [fault]
  | noRunner _ fault => simp [fault]
  | failed runner _ | finished runner _ => simp [runnerFault?_of_runner? runner]

/-- With the target and the checkouts looked at, the caches are made, and then the runner is started.
-/
theorem TargetCourse.of_ready (h : l.TargetCourse v env data extra r w calls)
    (target : v.isDirectory l.layout.targetDir = .ok true)
    (readonly : l.layout.readonlyDirs.find? v.tooLong = none) (wet : l.settings.dryRun = false) :
    (v.ensureDirectories l.caches = (.error .nulCharacter, w) ∧
      r = .error (.files .nulCharacter)) ∨
    (∃ e b, e ≠ .nulCharacter ∧ v.ensureDirectories l.caches = (.error e, w) ∧ r = .ok b) ∨
    (v.ensureDirectories l.caches = (.ok (), w) ∧
      ∃ warnings, l.RunnerCourse w env data warnings extra r calls) := by
  cases h with
  | unreadable other | noTarget other =>
    rw [target] at other
    nomatch other
  | readonlyUnreadable _ unread =>
    obtain ⟨path, long, -⟩ := readonlyWarnings_eq_error.mp unread
    rw [readonly] at long
    nomatch long
  | dry _ _ dry => simp [wet] at dry
  | cachesBroken _ _ _ caches => exact .inl ⟨caches, rfl⟩
  | noCaches _ _ _ caches possible => exact .inr (.inl ⟨_, _, possible, caches, rfl⟩)
  | prepared _ _ _ caches runner => exact .inr (.inr ⟨caches, _, runner⟩)

theorem TargetCourse.eq_error_iff (h : l.TargetCourse v env data extra r w calls) :
    r = .error f ↔ ∃ e, l.TargetEscape v env extra e ∧ .files e = f := by
  constructor
  · rintro rfl
    cases h with
    | unreadable target =>
      obtain ⟨long, rfl⟩ := View.isDirectory_eq_error.mp target
      exact ⟨_, .target long, rfl⟩
    | readonlyUnreadable target readonly =>
      obtain ⟨path, long, rfl⟩ := readonlyWarnings_eq_error.mp readonly
      exact ⟨_, .readonly target long, rfl⟩
    | cachesBroken target readonly wet caches =>
      exact ⟨_, .caches target (find?_of_readonlyWarnings readonly) wet caches, rfl⟩
    | prepared target readonly wet caches runner =>
      obtain ⟨e, fault, rfl⟩ := runner.eq_error_iff.mp rfl
      exact ⟨e, .runner target (find?_of_readonlyWarnings readonly) wet caches fault, rfl⟩
  · rintro ⟨e, escape, rfl⟩
    cases escape with
    | target long =>
      have unread := View.isDirectory_eq_error.mpr ⟨long, rfl⟩
      cases h with
      | unreadable target => rw [Except.error.inj (target.symm.trans unread)]
      | noTarget target | readonlyUnreadable target _ | dry target _ _ | cachesBroken target _ _ _
      | noCaches target _ _ _ _ | prepared target _ _ _ _ =>
        rw [target] at unread
        nomatch unread
    | readonly target long =>
      have unread := readonlyWarnings_eq_error.mpr ⟨_, long, rfl⟩
      cases h with
      | unreadable other | noTarget other =>
        rw [target] at other
        nomatch other
      | readonlyUnreadable _ readonly => rw [Except.error.inj (readonly.symm.trans unread)]
      | dry _ readonly _ | cachesBroken _ readonly _ _ | noCaches _ readonly _ _ _
      | prepared _ readonly _ _ _ =>
        rw [readonly] at unread
        nomatch unread
    | caches target readonly wet caches =>
      obtain ⟨-, rfl⟩ | ⟨e, b, possible, others, -⟩ | ⟨others, -⟩ :=
        h.of_ready target readonly wet
      · rfl
      · exact absurd (Except.error.inj (Prod.mk.inj (others.symm.trans caches)).1) possible
      · simp [caches] at others
    | runner target readonly wet caches fault =>
      obtain ⟨others, -⟩ | ⟨e, b, -, others, -⟩ | ⟨same, warnings, course⟩ :=
        h.of_ready target readonly wet
      · simp [caches] at others
      · simp [caches] at others
      · obtain rfl := (Prod.mk.inj (same.symm.trans caches)).2
        exact course.eq_error_iff.mpr ⟨_, fault, rfl⟩

/-- A launch goes wrong without a report exactly in the ways of `LaunchEscape`. -/
theorem LaunchCourse.eq_error_iff (h : l.LaunchCourse v env extra skip r w calls) :
    r = .error f ↔ ∃ e, l.LaunchEscape v env extra skip e ∧ .files e = f := by
  cases h with
  | skipped target =>
    rw [target.eq_error_iff]
    constructor
    · rintro ⟨e, escape, rfl⟩
      exact ⟨e, .skipped escape, rfl⟩
    · rintro ⟨e, ⟨escape⟩, rfl⟩
      exact ⟨e, escape, rfl⟩
  | buildBroken build =>
    rw [build.eq_error_iff]
    constructor
    · rintro ⟨e, escape, rfl⟩
      exact ⟨e, .build escape, rfl⟩
    · rintro ⟨e, escape | escape | ⟨passes, -⟩, rfl⟩
      · exact ⟨e, escape, rfl⟩
      · obtain ⟨_, escape, -⟩ := build.eq_error_iff.mp rfl
        exact absurd escape passes.not_escape
  | buildFailed build bad =>
    refine iff_of_false nofun ?_
    rintro ⟨e, escape | escape | ⟨passes, -⟩, rfl⟩
    · exact absurd (build.eq_error_iff.mpr ⟨e, escape, rfl⟩) nofun
    · simp [build.ok_iff.mpr passes] at bad
  | built build good target =>
    rw [target.eq_error_iff]
    constructor
    · rintro ⟨e, escape, rfl⟩
      exact ⟨e, .built (build.ok_iff.mp good) escape, rfl⟩
    · rintro ⟨e, escape | escape | ⟨-, escape⟩, rfl⟩
      · exact absurd (build.eq_error_iff.mpr ⟨e, escape, rfl⟩) nofun
      · exact ⟨e, escape, rfl⟩

end Launch

open Launching

/-- A plan fails at the first path that it looks at with a name that is too long. -/
theorem planIn_eq_error :
    l.planIn v extra = .error e ↔ ∃ path,
      (l.layout.dockerfile :: l.layout.targetDir :: l.layout.readonlyDirs).find? v.tooLong =
        some path ∧ longName path = e := by
  rw [planIn, List.find?_cons]
  cases hdockerfile : v.tooLong l.layout.dockerfile with
  | true => simp [View.isFile_eq_error.mpr ⟨hdockerfile, rfl⟩]
  | false =>
    cases hfile : v.isFile l.layout.dockerfile with
    | error e => simp [(View.isFile_eq_error.mp hfile).1] at hdockerfile
    | ok file =>
      rw [ok_bind, List.find?_cons]
      cases htarget : v.tooLong l.layout.targetDir with
      | true => simp [View.isDirectory_eq_error.mpr ⟨htarget, rfl⟩]
      | false =>
        cases hdirectory : v.isDirectory l.layout.targetDir with
        | error e => simp [(View.isDirectory_eq_error.mp hdirectory).1] at htarget
        | ok target => simp [bind_eq_error, readonlyWarnings_eq_error, pure, Except.pure]

theorem on_plan_eq_error {h : Host} :
    (on (l.plan extra) h).1 = .error f ↔ ∃ path,
      (l.layout.dockerfile :: l.layout.targetDir :: l.layout.readonlyDirs).find? h.view.tooLong =
        some path ∧ .files (longName path) = f := by
  rw [plan, on_ofFiles]
  cases hplan : l.planIn h.view extra with
  | error e =>
    obtain ⟨path, hpath, rfl⟩ := planIn_eq_error.mp hplan
    simp [hpath]
  | ok report =>
    refine iff_of_false nofun ?_
    rintro ⟨path, hpath, -⟩
    rw [planIn_eq_error.mpr ⟨path, hpath, rfl⟩] at hplan
    nomatch hplan

/-- A plan, a build or a launch ends with a report but for names that are too long, words that no
command can have, and a working directory that is gone. -/
theorem operations_escape (l : Launcher) (skip : Bool) (extra : List String) (h : Host)
    (f : Failure) :
    ((on (l.plan extra) h).1 = .error f ↔ ∃ path,
      (l.layout.dockerfile :: l.layout.targetDir :: l.layout.readonlyDirs).find? h.view.tooLong =
        some path ∧ .files (longName path) = f) ∧
    ((on l.buildImage h).1 = .error f ↔
      ∃ e, l.BuildEscape h.view h.environment e ∧ .files e = f) ∧
    ((on (l.launch skip extra) h).1 = .error f ↔
      ∃ e, l.LaunchEscape h.view h.environment extra skip e ∧ .files e = f) := by
  obtain ⟨_, -, build⟩ := on_buildImage l h
  obtain ⟨_, _, -, launch⟩ := on_launch l skip extra h
  exact ⟨on_plan_eq_error, build.eq_error_iff, launch.eq_error_iff⟩

/-- A host with a Dockerfile and an engine. -/
def engineHost : Host where
  view := ⟨⟨[(["Dockerfile"], .file []),
    (["engine"], .program ⟨"/engine", .runs (.exits 0) false⟩)]⟩, some []⟩
  environment := []
  clock := ⟨.whole 0, []⟩
  executions := []
  records := []

/-- Settings can name an image that no command can have as a word. Building it is not reported. -/
theorem buildImage_escapes :
    ((Settings.assemble engineHost.view engineHost.environment
      ⟨none, none, [("docker", .text "/engine"), ("image", .text "a\x00b")]⟩).toOption.bind fun s =>
        (ofSettings engineHost.view engineHost.environment s).toOption.map fun l =>
          match (on l.buildImage engineHost).1 with
          | .ok report => report.op
          | .error f => f.message) = some "embedded null byte" := by
  decide +kernel

end Launcher
end BuildLauncher
