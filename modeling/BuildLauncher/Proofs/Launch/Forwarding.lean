import BuildLauncher.Proofs.Launch.Pipeline

/-!
# Arguments for the runner

A launch with extra arguments goes as it goes without them. The runner gets them last and unchanged
and the report names them in its command; all else is the same (`forwarded_launch`).
-/
namespace BuildLauncher

open Files

variable {extra : List String}

/-- The execution with extra arguments at its end. -/
def Execution.forward (extra : List String) (e : Execution) : Execution :=
  { e with arguments := e.arguments ++ extra }

def Process.forward (extra : List String) (p : Process) : Process :=
  { p with execution := p.execution.forward extra }

def CommandOutcome.forward (extra : List String) (o : CommandOutcome) : CommandOutcome :=
  { o with argv := o.argv ++ extra }

section Retelling

/-- The fields with another command of the runner. -/
def Fields.retell (line : String) (fields : Fields) : Fields :=
  fields.map fun (name, value) => (name, if name = "run_command" then .text line else value)

/-- The report with another command of the runner. -/
def Report.retell (line : String) (r : Report) : Report := { r with data := r.data.retell line }

theorem Fields.get?_retell (line : String) (fields : Fields) (name : String) :
    (fields.retell line).get? name =
      if name = "run_command" then (fields.get? name).map fun _ => .text line
      else fields.get? name := by
  induction fields with
  | nil => simp [retell]
  | cons field rest ih =>
    obtain ⟨key, value⟩ := field
    rw [retell, List.map_cons, get?_cons, get?_cons, ← retell, ih]
    by_cases hname : name = key <;> by_cases hcommand : name = "run_command" <;> simp_all

end Retelling

section Starting

variable {v : View} {env : Environment} {command : String} {arguments : List String}
  {cwd : Option Path}

/-- Words that any command can have make no difference to how it starts. -/
theorem startCommand_forward (hextra : ∀ x ∈ extra, View.hasNul x = false) :
    startCommand v env command (arguments ++ extra) cwd =
      (startCommand v env command arguments cwd).map (·.forward extra) := by
  have hnul : (command :: (arguments ++ extra) ++ cwd.toList.map Path.text).any View.hasNul =
      (command :: arguments ++ cwd.toList.map Path.text).any View.hasNul := by
    have hnone : extra.any View.hasNul = false := by simpa using hextra
    simp only [List.cons_append, List.any_cons, List.any_append, hnone, Bool.or_false]
  simp only [startCommand, hnul]
  split
  · rfl
  · cases directoryFor v cwd with
    | error e => rfl
    | ok directory =>
      simp only [ok_bind]
      split <;> rfl

end Starting

/-- The host after a run with extra arguments beside the host after the run without them. The same
was built by both, and the runner has got the extra arguments after its own. -/
structure Host.Forwarded (build own extra : List String) (h plain forwarded : Host) : Prop where
  view : forwarded.view = plain.view
  clock : forwarded.clock = plain.clock
  executions : ∃ builds runs, plain.executions = h.executions ++ builds ++ runs ∧
    forwarded.executions = h.executions ++ builds ++ runs.map (·.forward extra) ∧
    (∀ e ∈ builds, e.arguments = build) ∧ ∀ e ∈ runs, e.arguments = own

namespace Host

variable {build own : List String} {h k plain forwarded : Host}

theorem forwarded_refl (build own extra : List String) (h : Host) :
    h.Forwarded build own extra h h :=
  ⟨rfl, rfl, [], [], by simp, by simp, List.forall_mem_nil _, List.forall_mem_nil _⟩

/-- The runner has run, with the extra arguments after its own. -/
theorem forwarded_ran {e : Execution} (he : e.arguments = own) :
    h.Forwarded build own extra { h with executions := h.executions ++ [e] }
      { h with executions := h.executions ++ [e.forward extra] } :=
  ⟨rfl, rfl, [], [e], by simp, by simp, List.forall_mem_nil _, List.forall_mem_singleton.mpr he⟩

/-- What was built before does not depend on the extra arguments. -/
theorem Forwarded.after {v : View} {calls : List Execution}
    (hf : k.Forwarded build own extra plain forwarded) (hleft : h.Left v calls k)
    (hcalls : ∀ e ∈ calls, e.arguments = build) : h.Forwarded build own extra plain forwarded := by
  obtain ⟨builds, runs, hplain, hforwarded, hbuilds, hruns⟩ := hf.executions
  refine ⟨hf.view, hf.clock, calls ++ builds, runs, ?_, ?_,
    List.forall_mem_append.mpr ⟨hcalls, hbuilds⟩, hruns⟩
  · simp only [hplain, hleft.executions, List.append_assoc]
  · simp only [hforwarded, hleft.executions, List.append_assoc]

/-- Neither does what comes before a build. -/
theorem Forwarded.later {v : View} (hf : k.Forwarded build own extra plain forwarded)
    (hleft : h.Left v [] k) : h.Forwarded build own extra plain forwarded :=
  hf.after hleft (List.forall_mem_nil _)

/-- Both have started the same for the build, and nothing else but the runner. -/
theorem Forwarded.started (hf : h.Forwarded build own extra plain forwarded) :
    ∃ builds bare runs, plain.executions = h.executions ++ builds ++ bare ∧
      forwarded.executions = h.executions ++ builds ++ runs ∧ (∀ e ∈ builds, e.arguments = build) ∧
      (∀ e ∈ bare, e.arguments = own) ∧ ∀ e ∈ runs, e.arguments = own ++ extra := by
  obtain ⟨builds, bare, hplain, hforwarded, hbuilds, hbare⟩ := hf.executions
  refine ⟨builds, bare, _, hplain, hforwarded, hbuilds, hbare, fun e he => ?_⟩
  obtain ⟨run, hrun, rfl⟩ := List.mem_map.mp he
  exact congrArg (· ++ extra) (hbare run hrun)

theorem Forwarded.report (hf : h.Forwarded build own extra plain forwarded)
    (records more : List Log.Record) :
    h.Forwarded build own extra { plain with records } { forwarded with records := more } :=
  ⟨hf.view, hf.clock, hf.executions⟩

end Host

namespace Launching

variable {α : Type} {command : String} {build own : List String} {cwd : Option Path}
  {h plain forwarded : Host}

/-- Two runs of an operation, of which the second has extra arguments. Its result is that of the
first, changed by `f`. -/
def Forwarded (build own extra : List String) (f : α → α) (h : Host)
    (plain forwarded : Except Failure α × Host) : Prop :=
  forwarded.1 = plain.1.map f ∧ h.Forwarded build own extra plain.2 forwarded.2

theorem forwarded_runCommand (hextra : ∀ x ∈ extra, View.hasNul x = false) (h : Host) :
    Forwarded build own extra (·.forward extra) h (on (runCommand (command :: own) cwd) h)
      (on (runCommand (command :: (own ++ extra)) cwd) h) := by
  have hsame := Host.forwarded_refl build own extra h
  simp only [runCommand, on_bind, on_get]
  cases hl : lookUp h.view h.environment command with
  | none => exact ⟨rfl, hsame⟩
  | some found =>
    simp only [Option.isNone_some, Bool.false_eq_true, if_false, on_bind, on_ofFiles]
    cases cwd.elim h.view.currentPath .ok with
    | error e => exact ⟨rfl, hsame⟩
    | ok shown =>
      simp only [on_log, startCommand_forward hextra]
      cases hs : startCommand h.view h.environment command own cwd with
      | error e => cases e <;> exact ⟨rfl, hsame.report _ _⟩
      | ok p =>
        have hown := (startCommand_ok hs).1
        have hran : h.Forwarded build own extra _ _ := Host.forwarded_ran hown
        simp only [map_ok, Process.forward, on_bind, on_modify]
        cases p.interrupted with
        | false =>
          simp only [on_bind, on_log, Bool.false_eq_true, if_false]
          exact ⟨rfl, hran.report _ _⟩
        | true =>
          simp only [on_bind, on_log, if_true]
          exact ⟨rfl, hran.report _ _⟩

theorem Forwarded.orNotFound {op other : Launching α} {f : α → α}
    (hf : Forwarded build own extra f h (on op h) (on other h)) :
    Forwarded build own extra (Except.map f) h (on (orNotFound op) h)
      (on (orNotFound other) h) := by
  rw [on_orNotFound, on_orNotFound]
  generalize on op h = plain at hf ⊢
  generalize on other h = forwarded at hf ⊢
  obtain ⟨r, k⟩ := plain
  obtain ⟨r', k'⟩ := forwarded
  obtain ⟨hresult, hhost⟩ := hf
  obtain rfl : r' = r.map f := hresult
  cases r with
  | ok a => exact ⟨rfl, hhost⟩
  | error e => cases e <;> exact ⟨rfl, hhost⟩

/-- Reading the clock goes on alike. -/
theorem forwarded_tick (hf : h.Forwarded build own extra plain forwarded) :
    Forwarded build own extra id h (on tick plain) (on tick forwarded) := by
  simp only [tick, on_bind, on_get, hf.clock]
  cases plain.clock.upcoming with
  | nil => exact ⟨by simp, hf⟩
  | cons now rest => exact ⟨rfl, hf.view, rfl, hf.executions⟩

end Launching

namespace Launcher

open Launching

variable {build own : List String} {h plain forwarded : Host}

theorem forwarded_fail (line : String) (hf : h.Forwarded build own extra plain forwarded)
    {op code message : String} {warnings : List String} {data detail : Fields} :
    Forwarded build own extra (·.retell line) h
      (on (fail op code message warnings data detail) plain)
      (on (fail op code message warnings (data.retell line) detail) forwarded) :=
  ⟨rfl, hf.report _ _⟩

theorem runnerArguments_forward (name image : String) (mounts : List Mount) (extra : List String) :
    runnerArguments name image mounts extra = runnerArguments name image mounts [] ++ extra := by
  simp [runnerArguments]

/-- The arguments of the engine. -/
def buildArguments (l : Launcher) : List String :=
  engineArguments l.settings.image l.layout.launcherDir

/-- The arguments of the runner where there are no extra ones. -/
def ownArguments (l : Launcher) : List String :=
  runnerArguments l.settings.runner.name l.settings.image l.mounts []

theorem forwarded_startRunner (l : Launcher) (line : String)
    (hextra : ∀ x ∈ extra, View.hasNul x = false) (start : Tick) (data : Fields)
    (warnings : List String) (h : Host) :
    Forwarded l.buildArguments l.ownArguments extra (·.retell line) h
      (on (l.startRunnerBy runCommand start data warnings []) h)
      (on (l.startRunnerBy runCommand start (data.retell line) warnings extra) h) := by
  have hrun : Forwarded l.buildArguments l.ownArguments extra (Except.map (·.forward extra)) h
      (on (orNotFound (runBy runCommand l.settings.runner l.settings.image l.mounts
        l.layout.targetDir [])) h)
      (on (orNotFound (runBy runCommand l.settings.runner l.settings.image l.mounts
        l.layout.targetDir extra)) h) := by
    simp only [runBy, runnerCommand, runnerArguments_forward _ _ _ extra]
    exact (forwarded_runCommand hextra h).orNotFound
  simp only [startRunnerBy, on_bind]
  generalize on (orNotFound (runBy runCommand l.settings.runner l.settings.image l.mounts
    l.layout.targetDir [])) h = plain at hrun ⊢
  generalize on (orNotFound (runBy runCommand l.settings.runner l.settings.image l.mounts
    l.layout.targetDir extra)) h = forwarded at hrun ⊢
  obtain ⟨r, k⟩ := plain
  obtain ⟨r', k'⟩ := forwarded
  obtain ⟨hresult, hhost⟩ := hrun
  obtain rfl : r' = r.map _ := hresult
  rcases r with f | ⟨command, reason⟩ | outcome
  · exact ⟨rfl, hhost⟩
  · exact forwarded_fail line hhost
  · simp only [map_ok]
    have hok : (outcome.forward extra).ok = outcome.ok := rfl
    rw [hok]
    cases outcome.ok with
    | false => exact forwarded_fail line hhost
    | true =>
      simp only [Bool.not_true, Bool.false_eq_true, if_false, on_bind]
      have htick := forwarded_tick hhost
      generalize on tick k = plain at htick ⊢
      generalize on tick k' = forwarded at htick ⊢
      obtain ⟨stop, m⟩ := plain
      obtain ⟨stop', m'⟩ := forwarded
      obtain ⟨hstop, hhost⟩ := htick
      obtain rfl : stop' = stop := hstop.trans (by cases stop <;> rfl)
      cases stop' with
      | error f => exact ⟨rfl, hhost⟩
      | ok stop =>
        refine ⟨?_, hhost⟩
        simp [Report.retell, Fields.retell, CommandOutcome.forward]

theorem forwarded_runTarget (l : Launcher) (line : String)
    (hextra : ∀ x ∈ extra, View.hasNul x = false) (start : Tick) (data : Fields) (h : Host) :
    Forwarded l.buildArguments l.ownArguments extra (·.retell line) h
      (on (l.runTargetBy runCommand start data []) h)
      (on (l.runTargetBy runCommand start (data.retell line) extra) h) := by
  have hsame := Host.forwarded_refl l.buildArguments l.ownArguments extra h
  simp only [runTargetBy, on_bind, on_ofFiles]
  cases h.view.isDirectory l.layout.targetDir with
  | error e => exact ⟨rfl, hsame⟩
  | ok target =>
    cases target with
    | false => exact forwarded_fail line hsame
    | true =>
      simp only [Bool.not_true, Bool.false_eq_true, if_false, on_bind, on_ofFiles]
      cases l.readonlyWarnings h.view with
      | error e => exact ⟨rfl, hsame⟩
      | ok warnings =>
        cases l.settings.dryRun with
        | true => exact ⟨rfl, hsame⟩
        | false =>
          simp only [Bool.false_eq_true, if_false, on_bind]
          obtain ⟨w, hcaches⟩ := on_prepareCaches l.caches h
          have hleft : h.Left w [] { h with view := w } := ⟨rfl, rfl, by simp⟩
          have hmade := (Host.forwarded_refl l.buildArguments l.ownArguments extra _).later hleft
          obtain ⟨-, hon⟩ | ⟨-, hon⟩ | ⟨e, reason, -, -, hon⟩ := hcaches
          · have hrun := forwarded_startRunner l line hextra start data warnings
              { h with view := w }
            rw [hon]
            exact ⟨hrun.1, hrun.2.later hleft⟩
          · rw [hon]
            exact ⟨rfl, hmade⟩
          · rw [hon]
            exact forwarded_fail line hmade

/-- What a launch tells at first names the command of the runner. -/
theorem launchData_retell (l : Launcher) (buildCommand : Value) (extra : List String) :
    (l.launchData buildCommand []).retell (Text.shellJoin (l.runArgv extra)) =
      l.launchData buildCommand extra := by
  simp [launchData, Fields.retell]

/-- A launch with extra arguments goes as it goes without them. The runner has got them last and
unchanged, and the report names them in the command of the runner. -/
theorem forwarded_launch (l : Launcher) (hextra : ∀ x ∈ extra, View.hasNul x = false) (skip : Bool)
    (h : Host) :
    Forwarded l.buildArguments l.ownArguments extra (·.retell (Text.shellJoin (l.runArgv extra))) h
      (on (l.launch skip []) h) (on (l.launch skip extra) h) := by
  obtain ⟨start, k, hk, hstart⟩ := on_tick h
  have htarget (buildCommand : Value) := forwarded_runTarget l (Text.shellJoin (l.runArgv extra))
    hextra start (l.launchData buildCommand [])
  simp only [launchData_retell] at htarget
  simp only [launch, launchBy, on_bind, hk]
  cases skip with
  | true => exact ⟨(htarget _ k).1, (htarget _ k).2.later hstart⟩
  | false =>
    obtain ⟨calls, hbuild, hcourse⟩ := on_buildImage l k
    have hcalls : ∀ e ∈ calls, e.arguments = l.buildArguments := by
      obtain rfl | ⟨-, p, hp, rfl⟩ := hcourse.calls_eq
      · exact List.forall_mem_nil _
      · exact List.forall_mem_singleton.mpr (engineCall_of_engine? hp).arguments
    simp only [Bool.false_eq_true, if_false, on_bind]
    simp only [buildImage] at hbuild
    generalize on (buildImageBy runCommand l) k = run at hbuild ⊢
    obtain ⟨f | b, m⟩ := run
    · exact ⟨rfl, ((Host.forwarded_refl _ _ _ m).after hbuild hcalls).later hstart⟩
    · have hsame := ((Host.forwarded_refl l.buildArguments l.ownArguments extra m).after hbuild
        hcalls).later hstart
      dsimp only
      split
      · rw [← launchData_retell l _ extra]
        exact forwarded_fail _ hsame
      · exact ⟨(htarget _ m).1, ((htarget _ m).2.after hbuild hcalls).later hstart⟩

/-- A plan with extra arguments is the plan without them but for the command of the runner. -/
theorem planIn_forward (l : Launcher) (v : View) (extra : List String) :
    l.planIn v extra = (l.planIn v []).map (·.retell (Text.shellJoin (l.runArgv extra))) := by
  have hdata : (l.planData []).retell (Text.shellJoin (l.runArgv extra)) = l.planData extra := by
    simp [planData, Fields.retell]
  simp only [planIn]
  cases v.isFile l.layout.dockerfile with
  | error e => rfl
  | ok file =>
    cases v.isDirectory l.layout.targetDir with
    | error e => rfl
    | ok target =>
      cases l.readonlyWarnings v with
      | error e => rfl
      | ok warnings => simp [Report.retell, hdata, pure, Except.pure]

end Launcher
end BuildLauncher
