import BuildLauncher.Proofs.Launch.TwoRuns
import BuildLauncher.Proofs.Settings.Directory

/-!
# What operations read of their surroundings

Settings hold paths from the root only, so that nothing of the environment or of the working
directory is read again once they are assembled. A plan is the same in all surroundings; a build and
a launch differ only as far as the engine or the runner is looked up or started in another way
(`operate_amid`).
-/
namespace BuildLauncher

open Files

/-- Carries out an operation with the launcher for some settings. -/
def Launcher.operate (s : Settings) (op : Launcher → Launching Report) : Launching Report := do
  let env := (← get).environment
  let launcher ← Launching.ofFiles fun v => Launcher.ofSettings v env s
  op launcher

namespace Launcher

open Launching

variable {l : Launcher} {v : View} {d : Option Location} {env other : Environment}
  {a b : Surroundings} {t : Tree} {s : Settings} {skip : Bool} {extra : List String}

section Layout

variable (h : l.directory.isAbsolute = true)
include h

theorem isAbsolute_dockerfile : l.layout.dockerfile.isAbsolute = true := Path.isAbsolute_join h

theorem isAbsolute_targetDir : l.layout.targetDir.isAbsolute = true := Path.isAbsolute_join h

theorem isAbsolute_readonly : ∀ path ∈ l.layout.readonlyDirs, path.isAbsolute = true := by
  intro path hpath
  obtain ⟨name, -, rfl⟩ := List.mem_map.mp hpath
  exact Path.isAbsolute_join h

theorem isAbsolute_caches : ∀ path ∈ l.caches, path.isAbsolute = true := by
  simp only [caches, List.forall_mem_cons]
  exact ⟨Path.isAbsolute_join h, Path.isAbsolute_join h, List.forall_mem_nil _⟩

theorem readonlyWarnings_seenFrom :
    l.readonlyWarnings (v.seenFrom d) = l.readonlyWarnings v := by
  have hmissing (paths : List Path) (hpaths : ∀ path ∈ paths, path.isAbsolute = true) :
      ProjectLayout.missing (v.seenFrom d) paths = ProjectLayout.missing v paths := by
    induction paths with
    | nil => rfl
    | cons path rest ih =>
      obtain ⟨hpath, hrest⟩ := List.forall_mem_cons.mp hpaths
      simp only [ProjectLayout.missing, View.isDirectory_seenFrom hpath, ih hrest]
  simp only [readonlyWarnings, ProjectLayout.missingReadonly, hmissing _ (isAbsolute_readonly h)]

theorem planIn_seenFrom : l.planIn (v.seenFrom d) extra = l.planIn v extra := by
  simp only [planIn, View.isFile_seenFrom (isAbsolute_dockerfile h),
    View.isDirectory_seenFrom (isAbsolute_targetDir h), readonlyWarnings_seenFrom h]

end Layout

theorem agrees_fail {op code message : String} {warnings : List String} {data detail : Fields} :
    Agrees a b t (fail op code message warnings data detail) fun _ u => u = t :=
  (agrees_log _ _ _).before fun _ => agrees_pure rfl

/-- The engine is found and started alike. Before it is started the log names the directory of the
launcher, which has to be there in both surroundings or in neither. -/
structure EngineAlike (a b : Surroundings) (t : Tree) (s : Settings) : Prop where
  engine : Meets a b t s.docker none
  place : (lookUp ⟨t, a.workingDir⟩ a.environment s.docker).isSome →
    a.workingDir.isSome = b.workingDir.isSome

theorem view_runCommand (command : String) (arguments : List String) (cwd : Option Path)
    (h : Host) : (on (runCommand (command :: arguments) cwd) h).2.view = h.view := by
  obtain ⟨_, hleft, -⟩ := on_runCommand command arguments cwd h
  exact hleft.view

theorem agrees_buildImage (h : l.directory.isAbsolute = true)
    (hengine : EngineAlike a b t l.settings) :
    Agrees a b t l.buildImage fun _ u => u = t := by
  have hrun : Agrees a b t (orNotFound (buildBy runCommand l.settings.docker l.settings.image
      l.layout.launcherDir)) fun _ u => u = t :=
    agrees_orNotFound (agrees_runCommand (by simp) (fun _ => hengine.place) hengine.engine)
      (view_runCommand _ _ _)
  have hfile : Agrees a b t (ofFiles (·.isFile l.layout.dockerfile)) fun _ u => u = t :=
    agrees_ofFiles fun _ => View.isFile_seenFrom (v := ⟨t, none⟩) (isAbsolute_dockerfile h)
  unfold buildImage buildImageBy
  refine hfile.before fun file => ?_
  split
  · exact agrees_fail
  · split
    · exact agrees_pure rfl
    · refine agrees_tick.before fun start => hrun.before fun outcome => ?_
      split
      · exact agrees_fail
      · split
        · exact agrees_fail
        · exact (agrees_log _ _ _).before fun _ => agrees_tick.before fun stop => agrees_pure rfl

/-- The runner is found and started alike, once the caches are there. -/
def RunnerAlike (a b : Surroundings) (t : Tree) (l : Launcher) : Prop :=
  Meets a b (View.ensureDirectories ⟨t, none⟩ l.caches).2.tree l.settings.runner.command
    (some l.layout.targetDir)

/-- Where the caches are made, the files are left as they are then. -/
theorem agrees_prepareCaches {paths : List Path} (h : ∀ path ∈ paths, path.isAbsolute = true) :
    Agrees a b t (prepareCaches paths) fun obstacle u => obstacle = none →
      u = (View.ensureDirectories ⟨t, none⟩ paths).2.tree := by
  induction paths generalizing t with
  | nil => exact agrees_pure fun _ => rfl
  | cons path rest ih =>
    obtain ⟨hpath, hrest⟩ := List.forall_mem_cons.mp h
    have hchange : Agrees a b t (change (·.ensureDirectory path)) _ := agrees_change fun d =>
      View.ensureDirectory_seenFrom (v := ⟨t, none⟩) (d := d) hpath
    refine hchange.bind ?_
    rintro r u ⟨hr, hu⟩
    have hgrown := (View.ensureDirectory_attempted ⟨t, none⟩ path).grown.workingDir
    simp only [View.ensureDirectories]
    rcases hmade : View.ensureDirectory ⟨t, none⟩ path with ⟨e | ⟨⟩, files, place⟩
    · simp only [hmade] at hr
      subst hr
      cases e
      case nulCharacter => exact agrees_throw _
      all_goals exact agrees_pure fun hnone => absurd hnone (Option.some_ne_none _)
    · simp only [hmade] at hr hu hgrown
      subst hr hu hgrown
      exact ih hrest

theorem agrees_startRunner (h : l.directory.isAbsolute = true)
    (hrunner : Meets a b t l.settings.runner.command (some l.layout.targetDir)) (start : Tick)
    (data : Fields) (warnings : List String) :
    Agrees a b t (l.startRunnerBy runCommand start data warnings extra) fun _ u => u = t := by
  have hrun : Agrees a b t (orNotFound (runBy runCommand l.settings.runner l.settings.image l.mounts
      l.layout.targetDir extra)) fun _ u => u = t :=
    agrees_orNotFound (agrees_runCommand (by simpa using isAbsolute_targetDir h)
      (fun hnone => absurd hnone (Option.some_ne_none _)) hrunner) (view_runCommand _ _ _)
  unfold startRunnerBy
  refine hrun.before fun outcome => ?_
  split
  · exact agrees_fail
  · split
    · exact agrees_fail
    · exact agrees_tick.before fun stop => agrees_pure rfl

theorem agrees_runTarget (h : l.directory.isAbsolute = true) (hrunner : RunnerAlike a b t l)
    (start : Tick) (data : Fields) :
    Agrees a b t (l.runTargetBy runCommand start data extra) fun _ _ => True := by
  have htarget : Agrees a b t (ofFiles (·.isDirectory l.layout.targetDir)) fun _ u => u = t :=
    agrees_ofFiles fun _ => View.isDirectory_seenFrom (v := ⟨t, none⟩) (isAbsolute_targetDir h)
  have hreadonly : Agrees a b t (ofFiles l.readonlyWarnings) fun _ u => u = t :=
    agrees_ofFiles fun _ => readonlyWarnings_seenFrom (v := ⟨t, none⟩) h
  unfold runTargetBy
  refine htarget.before fun target => ?_
  split
  · exact agrees_fail.weaken
  · refine hreadonly.before fun warnings => ?_
    split
    · exact agrees_pure trivial
    · refine (agrees_prepareCaches (isAbsolute_caches h)).bind fun obstacle u hu => ?_
      split
      · exact agrees_fail.weaken
      · obtain rfl := hu rfl
        exact (agrees_startRunner h hrunner start data warnings).weaken

theorem agrees_launch (h : l.directory.isAbsolute = true)
    (hengine : skip = false → EngineAlike a b t l.settings) (hrunner : RunnerAlike a b t l) :
    Agrees a b t (l.launch skip extra) fun _ _ => True := by
  unfold launch launchBy
  refine agrees_tick.before fun start => ?_
  cases skip with
  | true => exact agrees_runTarget h hrunner start _
  | false =>
    refine (agrees_buildImage h (hengine rfl)).before fun built => ?_
    dsimp only
    split
    · exact agrees_fail.weaken
    · exact agrees_runTarget h hrunner start _

theorem agrees_plan (h : l.directory.isAbsolute = true) :
    Agrees a b t (l.plan extra) fun _ u => u = t :=
  agrees_ofFiles fun d => planIn_seenFrom (v := ⟨t, none⟩) (d := d) h

section Operating

/-- Settings whose directory is a path from the root make the same launcher everywhere. -/
theorem ofSettings_seenFrom (hbase : s.baseDir.isAbsolute = true) :
    ofSettings (v.seenFrom d) env s = ofSettings v other s := by
  rw [ofSettings, launcherDir_seenFrom hbase env other, ofSettings]

theorem ofSettings_eq_ok (h : ofSettings v env s = .ok l) :
    l.settings = s ∧ l.directory.isAbsolute = true := by
  obtain ⟨directory, hdirectory, rfl⟩ := map_eq_ok h
  exact ⟨rfl, isAbsolute_launcherDir hdirectory⟩

theorem agrees_operate {op : Launcher → Launching Report} (hbase : s.baseDir.isAbsolute = true)
    (hop : ∀ l, ofSettings ⟨t, none⟩ [] s = .ok l → Agrees a b t (op l) fun _ _ => True) :
    Agrees a b t (operate s op) fun _ _ => True := by
  intro h k hb
  have hsame (c : Surroundings) :
      ofSettings ⟨t, c.workingDir⟩ c.environment s = ofSettings ⟨t, none⟩ [] s :=
    ofSettings_seenFrom (v := ⟨t, none⟩) (d := c.workingDir) hbase
  simp only [operate, on_bind, on_get, on_ofFiles, hb.left.1, hb.left.2, hb.right.1, hb.right.2,
    hsame]
  cases hl : ofSettings ⟨t, none⟩ [] s with
  | error e => exact agrees_of_failure hb rfl rfl
  | ok l => exact hop l hl h k hb

/-- An operation that is seen alike from two surroundings: it comes to the same result and leaves
the same files, and it has executed the same programs. -/
def SeenAlike (a b : Surroundings) (op : Launching Report) (h : Host) : Prop :=
  (on op (h.amid a)).1 = (on op (h.amid b)).1 ∧
    (on op (h.amid a)).2.view.tree = (on op (h.amid b)).2.view.tree ∧
    List.Forall₂ (Execution.Beside a b) (on op (h.amid a)).2.executions
      (on op (h.amid b)).2.executions

theorem seenAlike_of_agrees {op : Launching Report} {h : Host} {good : Report → Tree → Prop}
    (hop : Agrees a b h.view.tree op good) : SeenAlike a b op h := by
  obtain ⟨hresult, u, hafter, -⟩ := hop _ _ (h.beside_amid a b)
  exact ⟨hresult, by rw [hafter.left.1, hafter.right.1], hafter.executions⟩

/-- In surroundings with the same directory nothing is different. -/
theorem SeenAlike.executions_eq {op : Launching Report} {h : Host} (halike : SeenAlike a b op h)
    (hplace : a.workingDir = b.workingDir) :
    (on op (h.amid a)).2.executions = (on op (h.amid b)).2.executions := by
  have hsame := halike.2.2.imp fun _ _ hbeside => hbeside.eq hplace
  rwa [List.forall₂_eq_eq_eq] at hsame

/-- Once settings are assembled, a plan is the same in all surroundings. Of the environment a build
and a launch read the list of directories with programs, and of the directory they start in what
the engine and the runner are found as and what starting them comes to. -/
theorem operate_amid {request : SettingsRequest} (made : Settings.assemble v env request = .ok s)
    (h : Host) (a b : Surroundings) (skip : Bool) (extra : List String) :
    SeenAlike a b (operate s (·.plan extra)) h ∧
    (a.workingDir = b.workingDir → a.environment.get? "PATH" = b.environment.get? "PATH" →
      ∀ op, op = operate s buildImage ∨ op = operate s (·.launch skip extra) →
        (on op (h.amid a)).1 = (on op (h.amid b)).1 ∧
        (on op (h.amid a)).2.executions = (on op (h.amid b)).2.executions ∧
        (on op (h.amid a)).2.view.tree = (on op (h.amid b)).2.view.tree) ∧
    (EngineAlike a b h.view.tree s → SeenAlike a b (operate s buildImage) h) ∧
    ((skip = false → EngineAlike a b h.view.tree s) →
      (∀ l, ofSettings h.view h.environment s = .ok l → RunnerAlike a b h.view.tree l) →
      SeenAlike a b (operate s (·.launch skip extra)) h) := by
  have hbase := Settings.isAbsolute_baseDir made
  have hsame : ofSettings h.view h.environment s = ofSettings ⟨h.view.tree, none⟩ [] s :=
    ofSettings_seenFrom (v := ⟨h.view.tree, none⟩) (d := h.view.workingDir) hbase
  have build (hengine : EngineAlike a b h.view.tree s) :
      SeenAlike a b (operate s buildImage) h := by
    refine seenAlike_of_agrees (agrees_operate hbase fun l hl => ?_)
    obtain ⟨rfl, hdirectory⟩ := ofSettings_eq_ok hl
    exact (agrees_buildImage hdirectory hengine).weaken
  have launch (hengine : skip = false → EngineAlike a b h.view.tree s)
      (hrunner : ∀ l, ofSettings h.view h.environment s = .ok l → RunnerAlike a b h.view.tree l) :
      SeenAlike a b (operate s (·.launch skip extra)) h := by
    refine seenAlike_of_agrees (agrees_operate hbase fun l hl => ?_)
    have halike := hrunner l (hsame.trans hl)
    obtain ⟨rfl, hdirectory⟩ := ofSettings_eq_ok hl
    exact agrees_launch hdirectory hengine halike
  refine ⟨seenAlike_of_agrees (agrees_operate hbase fun l hl =>
    (agrees_plan (ofSettings_eq_ok hl).2).weaken), fun hplace hpath op hop => ?_, build, launch⟩
  have hengine : EngineAlike a b h.view.tree s :=
    ⟨meets_of_path hplace hpath, fun _ => congrArg Option.isSome hplace⟩
  have halike : SeenAlike a b op h := by
    rcases hop with rfl | rfl
    · exact build hengine
    · exact launch (fun _ => hengine) fun l _ => meets_of_path hplace hpath
  exact ⟨halike.1, halike.executions_eq hplace, halike.2.1⟩

/-- A checkout with an engine and a runner at the root. -/
def checkoutHost : Host where
  view := ⟨⟨[(["p"], .directory), (["p", "q"], .directory), (["p", "q", ".dev"], .directory),
    (["p", "q", ".dev", "Dockerfile"], .file []), (["p", "reth"], .directory),
    (["engine"], .program ⟨"/engine", .runs (.exits 0) false⟩),
    (["runner"], .program ⟨"/runner", .runs (.exits 3) false⟩)]⟩, some ["p"]⟩
  environment := [("DOCKER", "/engine"), ("RETH_BUILD_RUNNER__COMMAND", "/runner")]
  clock := ⟨.whole 0, []⟩
  executions := []
  records := []

def atTarget : Surroundings := ⟨[("PATH", "bin"), ("BUILDER_IMAGE", "other")], some ["p", "reth"]⟩

def atRoot : Surroundings := ⟨[("HOME", "/p")], some []⟩

/-- From the root, a launch executes what it executes from the target. -/
theorem operate_amid_root : ∃ s,
    Settings.assemble checkoutHost.view checkoutHost.environment ⟨none, some "q/.dev", []⟩ = .ok s ∧
      SeenAlike atTarget atRoot (operate s (·.plan ["--", "x"])) checkoutHost ∧
      SeenAlike atTarget atRoot (operate s (·.launch false ["x"])) checkoutHost ∧
      (on (operate s (·.launch false ["x"])) (checkoutHost.amid atRoot)).2.executions.map
        (fun e => (e.program, e.directory)) = [("/engine", []), ("/runner", ["p", "reth"])] := by
  obtain ⟨s, hs, hshape⟩ : ∃ s,
      Settings.assemble checkoutHost.view checkoutHost.environment ⟨none, some "q/.dev", []⟩ = .ok s ∧
      (s.docker, s.runner.command,
        (on (operate s (·.launch false ["x"])) (checkoutHost.amid atRoot)).2.executions.map
          fun e => (e.program, e.directory)) =
      ("/engine", "/runner", [("/engine", []), ("/runner", ["p", "reth"])]) :=
    toOption_map_eq_some (by decide +kernel)
  simp only [Prod.mk.injEq] at hshape
  obtain ⟨hdocker, hrunner, hran⟩ := hshape
  have hengine : EngineAlike atTarget atRoot checkoutHost.view.tree s :=
    ⟨meets_of_isRooted (by rw [hdocker]; decide) (by simp), fun _ => rfl⟩
  have hmeets (l : Launcher)
      (hl : ofSettings checkoutHost.view checkoutHost.environment s = .ok l) :
      RunnerAlike atTarget atRoot checkoutHost.view.tree l := by
    obtain ⟨rfl, hdirectory⟩ := ofSettings_eq_ok hl
    exact meets_of_isRooted (by rw [hrunner]; decide) (by simpa using isAbsolute_targetDir hdirectory)
  obtain ⟨hplan, -, -, hlaunch⟩ := operate_amid hs checkoutHost atTarget atRoot false ["--", "x"]
  exact ⟨s, hs, hplan, (operate_amid hs checkoutHost atTarget atRoot false ["x"]).2.2.2
    (fun _ => hengine) hmeets, hran⟩

/-- The checkout with an engine that the system cannot start. -/
def refusingHost : Host :=
  { checkoutHost with
    view := ⟨⟨[(["p"], .directory), (["p", "q"], .directory), (["p", "q", ".dev"], .directory),
      (["p", "q", ".dev", "Dockerfile"], .file []),
      (["engine"], .program ⟨"/engine", .refused .badFormat⟩)]⟩, some ["p"]⟩ }

/-- From a directory that was removed a build has no report, although the engine is found there and
its start is refused as it is from the root, where the report says so. -/
theorem operate_nowhere : ∃ s,
    Settings.assemble refusingHost.view refusingHost.environment ⟨none, some "q/.dev", []⟩ = .ok s ∧
      Meets atRoot ⟨[("HOME", "/p")], none⟩ refusingHost.view.tree s.docker none ∧
      (on (operate s buildImage) (refusingHost.amid atRoot)).1.toOption.map Report.ok = some false ∧
      (on (operate s buildImage) (refusingHost.amid ⟨[("HOME", "/p")], none⟩)).1.toOption.map
        Report.ok = none := by
  obtain ⟨s, hs, hshape⟩ : ∃ s,
      Settings.assemble refusingHost.view refusingHost.environment ⟨none, some "q/.dev", []⟩ = .ok s ∧
      (s.docker,
        (on (operate s buildImage) (refusingHost.amid atRoot)).1.toOption.map Report.ok,
        (on (operate s buildImage) (refusingHost.amid ⟨[("HOME", "/p")], none⟩)).1.toOption.map
          Report.ok) = ("/engine", some false, none) :=
    toOption_map_eq_some (by decide +kernel)
  simp only [Prod.mk.injEq] at hshape
  obtain ⟨hdocker, hroot, hnowhere⟩ := hshape
  exact ⟨s, hs, meets_of_isRooted (by rw [hdocker]; decide) (by simp), hroot, hnowhere⟩

end Operating

end Launcher
end BuildLauncher
