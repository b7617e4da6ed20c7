import BuildLauncher.Proofs.Launch.Courses

/-!
# What a launch executes

The programs that a launch has run are an initial segment of the engine and the runner, whatever
becomes of the launch. The runner is among them only if all that comes before it has been settled.
-/
namespace BuildLauncher.Launcher

open Files Launching

/-- The call of the engine: an image from the launcher directory, built where the launcher runs. -/
structure EngineCall (l : Launcher) (h : Host) (e : Execution) : Prop where
  arguments : e.arguments = ["build", "-t", l.settings.image, l.directory.text]
  directory : h.view.workingDir = some e.directory
  process : ∃ p, l.engine? h.view h.environment = some p ∧ p.execution = e

/-- What the runner is told of mounts: the caches, the volume over the output of the build, and each
checkout to read. -/
def mountOptions (l : Launcher) : List String :=
  let projects := l.directory.parent.parent
  let target := projects.join (.ofText l.settings.layout.target)
  let output := target.join (.ofText l.settings.layout.targetSubdir)
  ["-v", (l.directory.join (.ofText "cargo-git")).text ++ ":/usr/local/cargo/git:rw",
    "-v", (l.directory.join (.ofText "cargo-registry")).text ++ ":/usr/local/cargo/registry:rw",
    "-v", l.settings.volume ++ ":" ++ output.text ++ ":rw"] ++
  l.settings.layout.readonly.flatMap fun name =>
    let path := projects.join (.ofText name)
    ["-v", path.text ++ ":" ++ path.text ++ ":ro"]

/-- The call of the runner: its options, the mounts and the extra arguments as they are, in the
directory of the target. -/
structure RunnerCall (l : Launcher) (h : Host) (extra : List String) (e : Execution) : Prop where
  arguments : e.arguments =
    ["--image", l.settings.image, "--name", l.settings.runner.name] ++ l.mountOptions ++ extra
  directory : h.view.node? l.layout.targetDir.text = .ok (e.directory, .directory)

/-- The calls of a launch that meets with no obstacle. -/
def pipeline (l : Launcher) (h : Host) (skip : Bool) (extra : List String) :
    List (Execution → Prop) :=
  if l.settings.dryRun then []
  else if skip then [l.RunnerCall h extra]
  else [l.EngineCall h, l.RunnerCall h extra]

/-- The target and both caches are directories. -/
structure Ready (l : Launcher) (v : View) : Prop where
  target : v.isDirectory l.layout.targetDir = .ok true
  git : v.isDirectory (l.directory.join (.ofText "cargo-git")) = .ok true
  registry : v.isDirectory (l.directory.join (.ofText "cargo-registry")) = .ok true

variable {l : Launcher} {v w : View} {env : Environment} {extra : List String} {p : Process}

theorem runnerArguments_eq (l : Launcher) (extra : List String) :
    runnerArguments l.settings.runner.name l.settings.image l.mounts extra =
      ["--image", l.settings.image, "--name", l.settings.runner.name] ++ l.mountOptions ++ extra := by
  simp [runnerArguments, mountOptions, mounts, Mount.forLayout, Mount.arguments, Mount.spec,
    MountMode.text, layout, ProjectLayout.around, ProjectLayout.projectsOf, List.flatMap_map,
    String.append_assoc]

theorem engineCall_of_engine? {h : Host} (he : l.engine? h.view h.environment = some p) :
    l.EngineCall h p.execution := by
  obtain ⟨-, hs⟩ := process?_eq_some.mp he
  obtain ⟨ha, hd⟩ := startCommand_ok hs
  exact ⟨ha, directoryFor_none hd, p, he, rfl⟩

/-- The target is where it was, since the files have only grown. -/
theorem runnerCall_of_runner? {h : Host} (hr : l.runner? w env extra = some p)
    (hw : h.view.ExtendedBy w) (ht : h.view.isDirectory l.layout.targetDir = .ok true) :
    l.RunnerCall h extra p.execution := by
  obtain ⟨-, hs⟩ := process?_eq_some.mp hr
  obtain ⟨ha, hd⟩ := startCommand_ok hs
  obtain ⟨-, location, hnode⟩ := View.isDirectory_iff.mp ht
  refine ⟨ha.trans (l.runnerArguments_eq extra), ?_⟩
  rw [← View.node?_mono hw _ (by simp [hnode]), directoryFor_some hd]

theorem EngineCall.not_runnerCall {h : Host} {e : Execution} (he : l.EngineCall h e) :
    ¬l.RunnerCall h extra e := by
  intro hr
  have harguments := he.arguments.symm.trans hr.arguments
  simp at harguments

theorem ready_of_ensureDirectories (ht : v.isDirectory l.layout.targetDir = .ok true)
    (hc : v.ensureDirectories l.caches = (.ok (), w)) : l.Ready w := by
  have hgrown := View.ensureDirectories_grown v l.caches
  have hmade := View.ensureDirectories_isDirectory (by simp [hc] : (v.ensureDirectories l.caches).1 = _)
  simp only [hc] at hgrown hmade
  exact ⟨hgrown.isDirectory ht, hmade _ (by simp [caches, layout, ProjectLayout.around]),
    hmade _ (by simp [caches, layout, ProjectLayout.around])⟩

/-- The programs run by a launch, whether it returns or fails. Programs leave the files as they are,
so that those at the end are those which the runner was started with. -/
theorem launch_executions (l : Launcher) (skip : Bool) (extra : List String) (h : Host) :
    ∃ calls, (on (l.launch skip extra) h).2.executions = h.executions ++ calls ∧
      (∃ first, first <+: l.pipeline h skip extra ∧
        List.Forall₂ (fun call e => call e) first calls) ∧
      ∀ e ∈ calls, l.RunnerCall h extra e →
        (skip = true ∨ l.EngineSucceeded h.view h.environment calls) ∧
        l.Ready (on (l.launch skip extra) h).2.view ∧
        ∃ p, l.runner? (on (l.launch skip extra) h).2.view h.environment extra = some p ∧
          p.execution = e := by
  obtain ⟨w, calls, hleft, hcourse⟩ := on_launch l skip extra h
  refine ⟨calls, hleft.executions, ?_⟩
  rw [hleft.view]
  obtain rfl | ⟨wet, rfl, q, hq, rfl⟩ | ⟨wet, ht, hc, p, hp, hcalls⟩ := hcourse.calls_cases
  · exact ⟨⟨[], List.nil_prefix, .nil⟩, by simp⟩
  · have hengine := engineCall_of_engine? hq
    refine ⟨⟨[l.EngineCall h], by simp [pipeline, wet], .cons hengine .nil⟩, ?_⟩
    intro e he hrunner
    obtain rfl := List.mem_singleton.mp he
    exact (hengine.not_runnerCall hrunner).elim
  · have hgrown : h.view.GrownBy _ w := hc ▸ View.ensureDirectories_grown h.view l.caches
    have hrunner := runnerCall_of_runner? hp hgrown.toExtendedBy ht
    have hready := ready_of_ensureDirectories ht hc
    obtain ⟨rfl, rfl⟩ | ⟨rfl, -, q, hq, hzero, rfl⟩ := hcalls
    · refine ⟨⟨[l.RunnerCall h extra], by simp [pipeline, wet], .cons hrunner .nil⟩, ?_⟩
      intro e he _
      exact ⟨.inl rfl, hready, p, hp, (List.mem_singleton.mp he).symm⟩
    · have hengine := engineCall_of_engine? hq
      refine ⟨⟨[l.EngineCall h, l.RunnerCall h extra], by simp [pipeline, wet],
        .cons hengine (.cons hrunner .nil)⟩, ?_⟩
      intro e he hcall
      refine ⟨.inr (engineSucceeded_of hq hzero (by simp)), hready, p, hp, ?_⟩
      rcases List.mem_cons.mp he with rfl | he
      · exact (hengine.not_runnerCall hcall).elim
      · exact (List.mem_singleton.mp he).symm

end BuildLauncher.Launcher
