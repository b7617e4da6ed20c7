import BuildLauncher.Proofs.Launch.Courses

/-!
# Events on the way

An operation reports what it does. Of the events none is as grave as a warning but that a process was
interrupted, and after such an event the operation does not succeed (`account_launch`).
-/
namespace BuildLauncher

open Files

/-- A process under the name of the command that has become it. -/
structure Started where
  command : String
  process : Process

/-- The event that a process was interrupted. -/
def Started.interruption (s : Started) : Log.Record :=
  ⟨commandLogger, .warning, "interrupted, waiting for " ++ s.command ++ " to exit", []⟩

/-- Is an event at least a warning? -/
def Log.Record.isGrave (r : Log.Record) : Bool := Log.Level.warning.rank ≤ r.level.rank

/-- What an operation has started, and what it has reported of it that is grave. -/
structure Host.Noted (h : Host) (started : List Started) (k : Host) : Prop where
  executions : k.executions = h.executions ++ started.map (·.process.execution)
  records : ∃ events, k.records = h.records ++ events ∧
    events.filter Log.Record.isGrave =
      (started.filter (·.process.interrupted)).map Started.interruption

namespace Host

variable {h k m : Host} {started more : List Started}

theorem Noted.of_eq (hexecutions : k.executions = h.executions) (hrecords : k.records = h.records) :
    h.Noted [] k := ⟨by simp [hexecutions], [], by simp [hrecords], rfl⟩

theorem Noted.refl (h : Host) : h.Noted [] h := .of_eq rfl rfl

theorem Noted.trans (hk : h.Noted started k) (hm : k.Noted more m) :
    h.Noted (started ++ more) m := by
  obtain ⟨before, hbefore, hgrave⟩ := hk.records
  obtain ⟨after, hafter, hmore⟩ := hm.records
  exact {
    executions := by rw [hm.executions, hk.executions, List.map_append, List.append_assoc]
    records := ⟨before ++ after, by rw [hafter, hbefore, List.append_assoc], by
      rw [List.filter_append, hgrave, hmore, List.filter_append, List.map_append]⟩ }

/-- What starts nothing can be left out. -/
theorem Noted.quiet (hk : h.Noted started k) (hm : k.Noted [] m) : h.Noted started m := by
  simpa using hk.trans hm

theorem Noted.after_quiet (hk : h.Noted [] k) (hm : k.Noted started m) : h.Noted started m :=
  hk.trans hm

/-- A light event is no matter. -/
theorem Noted.report (h : Host) (event : Log.Record) (hlight : event.isGrave = false) :
    h.Noted [] { h with records := h.records ++ [event] } :=
  ⟨by simp, [event], rfl, by simp [hlight]⟩

end Host

namespace Launching

theorem noted_tick (h : Host) : h.Noted [] (on tick h).2 := by
  simp only [tick, on_bind, on_get]
  cases h.clock.upcoming with
  | nil => exact .refl h
  | cons next rest => exact .of_eq rfl rfl

/-- Running a command notes its process, if it becomes one. -/
theorem noted_runCommand (command : String) (arguments : List String) (cwd : Option Path)
    (h : Host) :
    h.Noted ((process? h.view h.environment (command :: arguments) cwd).toList.map (⟨command, ·⟩))
      (on (runCommand (command :: arguments) cwd) h).2 := by
  cases hl : lookUp h.view h.environment command with
  | none =>
    have hp : process? h.view h.environment (command :: arguments) cwd = none := by
      simp [process?, hl]
    simp only [runCommand, on_bind, on_get, hl, hp]
    exact .refl h
  | some found =>
    simp only [runCommand, on_bind, on_get, hl, Option.isNone_some, Bool.false_eq_true, if_false,
      on_ofFiles]
    cases hc : cwd.elim h.view.currentPath .ok with
    | error e =>
      rw [process?_eq_none (startCommand_nowhere hc)]
      exact .refl h
    | ok shown =>
      simp only [on_log]
      have hexec := Host.Noted.report h ⟨commandLogger, .info,
        "exec " ++ Text.shellJoin (command :: arguments) ++ " (cwd=" ++ shown.text ++ ")", []⟩ rfl
      cases hs : startCommand h.view h.environment command arguments cwd with
      | error e =>
        rw [process?_eq_none (by simp [hs])]
        cases e <;> exact hexec
      | ok p =>
        rw [process?_eq_some.mpr ⟨by simp [hl], hs⟩]
        refine hexec.after_quiet ?_
        cases hi : p.interrupted with
        | false =>
          simp only [on_bind, on_modify, on_log, on_pure, hi, Bool.false_eq_true, if_false]
          exact ⟨rfl, [_], rfl, by simp [hi, Log.Record.isGrave, Log.Level.rank]⟩
        | true =>
          simp only [on_bind, on_modify, on_log, on_pure, hi, if_true]
          exact ⟨rfl, [_, _], List.append_assoc _ _ _,
            by simp [hi, Log.Record.isGrave, Log.Level.rank, Started.interruption]⟩

theorem noted_orNotFound {α : Type} (op : Launching α) (h : Host) :
    (on (orNotFound op) h).2 = (on op h).2 := by
  rw [on_orNotFound]
  split <;> simp_all

/-- Running a command with its absence caught notes a process if and only if there is an outcome. -/
theorem noted_orNotFound_runCommand (command : String) (arguments : List String)
    (cwd : Option Path) (h : Host) :
    (∃ p k, process? h.view h.environment (command :: arguments) cwd = some p ∧
      h.Noted [⟨command, p⟩] k ∧
      on (orNotFound (runCommand (command :: arguments) cwd)) h =
        (.ok (.ok ⟨command :: arguments, p.returncode, cwd.map Path.text⟩), k)) ∨
    (∃ reason k, h.Noted [] k ∧
      on (orNotFound (runCommand (command :: arguments) cwd)) h = (.ok (.error reason), k)) ∨
    (∃ f k, h.Noted [] k ∧
      on (orNotFound (runCommand (command :: arguments) cwd)) h = (.error f, k)) := by
  have hnoted := noted_runCommand command arguments cwd h
  rw [← noted_orNotFound] at hnoted
  rcases on_orNotFound_runCommand command arguments cwd h with ⟨p, k, hp, -, hon⟩ |
    ⟨reason, k, hp, -, -, hon⟩ | ⟨e, k, hp, -, -, hon⟩
  · rw [hon, hp] at hnoted
    exact .inl ⟨p, k, hp, hnoted, hon⟩
  · rw [hon, hp] at hnoted
    exact .inr (.inl ⟨reason, k, hnoted, hon⟩)
  · rw [hon, hp] at hnoted
    exact .inr (.inr ⟨_, k, hnoted, hon⟩)

end Launching

namespace Launcher

open Launching

/-- A process that the launcher's engine or runner becomes, with the files as they are by then. -/
def Starts (l : Launcher) (env : Environment) (extra : List String) (s : Started) : Prop :=
  ∃ v, s.command = l.settings.docker ∧ l.engine? v env = some s.process ∨
    s.command = l.settings.runner.command ∧ l.runner? v env extra = some s.process

/-- What is known of a run: it notes the launcher's own processes, and where it succeeds none of them
was interrupted. -/
structure Account (l : Launcher) (extra : List String) (h : Host) (started : List Started)
    (run : Except Failure Report × Host) : Prop where
  noted : h.Noted started run.2
  starts : ∀ s ∈ started, l.Starts h.environment extra s
  undisturbed : ∀ r, run.1 = .ok r → r.ok = true → ∀ s ∈ started, s.process.interrupted = false

variable {l : Launcher} {extra : List String} {h k : Host} {started : List Started}
  {run : Except Failure Report × Host}

theorem Account.silent (hnoted : h.Noted [] run.2) : l.Account extra h [] run :=
  ⟨hnoted, by simp, by simp⟩

theorem Account.ofProcess {s : Started} {r : Report} (hnoted : h.Noted [s] k)
    (hstarts : l.Starts h.environment extra s) (hgood : s.process.returncode = 0) :
    l.Account extra h [s] (.ok r, k) :=
  ⟨hnoted, by simpa using hstarts, fun _ _ _ => by
    simpa using (s.process.returncode_eq_zero_iff.mp hgood).1⟩

theorem noted_fail (op code message : String) (warnings : List String) (data detail : Fields)
    (h : Host) : h.Noted [] (on (fail op code message warnings data detail) h).2 :=
  .report h _ rfl

theorem Account.ofFailure {s : Started} {op code message : String} {warnings : List String}
    {data detail : Fields} (hnoted : h.Noted [s] k)
    (hstarts : l.Starts h.environment extra s) :
    l.Account extra h [s] (on (fail op code message warnings data detail) k) :=
  ⟨hnoted.quiet (noted_fail ..), by simpa using hstarts, fun r hr hok => by
    obtain rfl : failedReport op code message warnings data detail = r := Except.ok.inj hr
    contradiction⟩

/-- A run accounts for itself on an earlier host too, if nothing has been started since. -/
theorem Account.after_quiet (account : l.Account extra k started run) (hnoted : h.Noted [] k)
    (henvironment : k.environment = h.environment) : l.Account extra h started run where
  noted := hnoted.after_quiet account.noted
  starts := henvironment ▸ account.starts
  undisturbed := account.undisturbed

/-- What runs after what succeeded decides the success of both. -/
theorem Account.trans {first second : Except Failure Report × Host} {more : List Started}
    {b : Report} (account : l.Account extra h started first) (hfirst : first.1 = .ok b)
    (hgood : b.ok = true) (later : l.Account extra first.2 more second)
    (henvironment : first.2.environment = h.environment) :
    l.Account extra h (started ++ more) second where
  noted := account.noted.trans later.noted
  starts s hs := (List.mem_append.mp hs).elim (account.starts s)
    (henvironment ▸ later.starts s)
  undisturbed r hr hok s hs := (List.mem_append.mp hs).elim (account.undisturbed b hfirst hgood s)
    (later.undisturbed r hr hok s)

theorem account_buildImage (l : Launcher) (extra : List String) (h : Host) :
    ∃ started, l.Account extra h started (on l.buildImage h) := by
  simp only [buildImage, buildImageBy, on_bind, on_ofFiles]
  cases hf : h.view.isFile l.layout.dockerfile with
  | error e => exact ⟨[], .silent (.refl h)⟩
  | ok file =>
    cases file with
    | false => exact ⟨[], .silent (noted_fail ..)⟩
    | true =>
      cases hd : l.settings.dryRun with
      | true => exact ⟨[], .silent (.refl h)⟩
      | false =>
        obtain ⟨start, k, hk, hleft⟩ := on_tick h
        have htick : h.Noted [] k := by simpa only [hk] using noted_tick h
        simp only [Bool.not_true, Bool.false_eq_true, if_false, on_bind, hk, buildBy, engineCommand]
        rcases noted_orNotFound_runCommand l.settings.docker
          (engineArguments l.settings.image l.layout.launcherDir) none k with
          ⟨p, m, hp, hm, hon⟩ | ⟨reason, m, hm, hon⟩ | ⟨f, m, hm, hon⟩
        · rw [hleft.view, hleft.environment] at hp
          have hran := htick.after_quiet hm
          have hstarts : l.Starts h.environment extra ⟨l.settings.docker, p⟩ :=
            ⟨h.view, .inl ⟨rfl, hp⟩⟩
          simp only [hon, CommandOutcome.ok]
          by_cases hgood : p.returncode = 0
          · simp only [hgood, decide_true, Bool.not_true, Bool.false_eq_true, if_false, on_bind, on_log]
            obtain ⟨stop, n, hn, -⟩ := on_tick
              { m with records := m.records ++
                [⟨serviceLogger, .info, "built image " ++ l.settings.image, []⟩] }
            have hstop := noted_tick { m with records := m.records ++
                [⟨serviceLogger, .info, "built image " ++ l.settings.image, []⟩] }
            rw [hn] at hstop
            simp only [hn, on_pure]
            exact ⟨_, .ofProcess ((hran.quiet (.report m _ rfl)).quiet hstop) hstarts hgood⟩
          · simp only [hgood, decide_false, Bool.not_false, if_true]
            exact ⟨_, .ofFailure hran hstarts⟩
        · simp only [hon]
          exact ⟨[], .silent ((htick.after_quiet hm).quiet (noted_fail ..))⟩
        · rw [hon]
          exact ⟨[], .silent (htick.after_quiet hm)⟩

theorem account_startRunner (l : Launcher) (start : Tick) (data : Fields)
    (warnings extra : List String) (h : Host) :
    ∃ started, l.Account extra h started
      (on (l.startRunnerBy runCommand start data warnings extra) h) := by
  simp only [startRunnerBy, on_bind, runBy, runnerCommand]
  rcases noted_orNotFound_runCommand l.settings.runner.command
    (runnerArguments l.settings.runner.name l.settings.image l.mounts extra)
    (some l.layout.targetDir) h with
    ⟨p, m, hp, hm, hon⟩ | ⟨reason, m, hm, hon⟩ | ⟨f, m, hm, hon⟩
  · have hstarts : l.Starts h.environment extra ⟨l.settings.runner.command, p⟩ :=
      ⟨h.view, .inr ⟨rfl, hp⟩⟩
    simp only [hon, CommandOutcome.ok]
    by_cases hgood : p.returncode = 0
    · obtain ⟨stop, n, hn, -⟩ := on_tick m
      have hstop : m.Noted [] n := by simpa only [hn] using noted_tick m
      simp only [hgood, decide_true, Bool.not_true, Bool.false_eq_true, if_false, on_bind, hn,
        on_pure]
      exact ⟨_, .ofProcess (hm.quiet hstop) hstarts hgood⟩
    · simp only [hgood, decide_false, Bool.not_false, if_true]
      exact ⟨_, .ofFailure hm hstarts⟩
  · simp only [hon]
    exact ⟨[], .silent (hm.quiet (noted_fail ..))⟩
  · rw [hon]
    exact ⟨[], .silent hm⟩

theorem account_runTarget (l : Launcher) (start : Tick) (data : Fields) (extra : List String)
    (h : Host) :
    ∃ started, l.Account extra h started
      (on (l.runTargetBy runCommand start data extra) h) := by
  simp only [runTargetBy, on_bind, on_ofFiles]
  cases h.view.isDirectory l.layout.targetDir with
  | error e => exact ⟨[], .silent (.refl h)⟩
  | ok target =>
    cases target with
    | false => exact ⟨[], .silent (noted_fail ..)⟩
    | true =>
      simp only [Bool.not_true, Bool.false_eq_true, if_false, on_bind, on_ofFiles]
      cases l.readonlyWarnings h.view with
      | error e => exact ⟨[], .silent (.refl h)⟩
      | ok warnings =>
        cases l.settings.dryRun with
        | true => exact ⟨[], .silent (.refl h)⟩
        | false =>
          simp only [Bool.false_eq_true, if_false, on_bind]
          obtain ⟨w, ⟨-, hon⟩ | ⟨-, hon⟩ | ⟨e, reason, -, -, hon⟩⟩ := on_prepareCaches l.caches h
          · obtain ⟨started, account⟩ :=
              account_startRunner l start data warnings extra { h with view := w }
            rw [hon]
            exact ⟨started, account.after_quiet (.of_eq rfl rfl) rfl⟩
          · rw [hon]
            exact ⟨[], .silent (.of_eq rfl rfl)⟩
          · rw [hon]
            have hchanged : h.Noted [] { h with view := w } := .of_eq rfl rfl
            exact ⟨[], .silent (hchanged.quiet (noted_fail ..))⟩

theorem account_launch (l : Launcher) (skip : Bool) (extra : List String) (h : Host) :
    ∃ started, l.Account extra h started (on (l.launch skip extra) h) := by
  obtain ⟨start, k, hk, hstart⟩ := on_tick h
  have htick : h.Noted [] k := by simpa only [hk] using noted_tick h
  simp only [launch, launchBy, on_bind, hk]
  cases skip with
  | true =>
    obtain ⟨started, account⟩ := account_runTarget l start (l.launchData .null extra) extra k
    exact ⟨started, account.after_quiet htick hstart.environment⟩
  | false =>
    simp only [Bool.false_eq_true, if_false, on_bind]
    obtain ⟨calls, hleft, hcourse⟩ := on_buildImage l k
    obtain ⟨started, account⟩ := account_buildImage l extra k
    replace account := account.after_quiet htick hstart.environment
    have henvironment := hleft.environment.trans hstart.environment
    simp only [buildImage] at account henvironment hcourse
    generalize on (buildImageBy runCommand l) k = run at account henvironment hcourse ⊢
    obtain ⟨f | b, m⟩ := run
    · exact ⟨started, account.noted, account.starts, by simp⟩
    · have hok := hcourse.ok_eq
      cases he : b.error with
      | some e =>
        have hbad : b.ok = false := by rw [hok, he]; rfl
        simp only [hbad, he]
        exact ⟨started, account.noted.quiet (noted_fail ..), account.starts, fun r hr hgood => by
          obtain rfl : failedReport "launch" e.code e.message [] _ e.detail = r := Except.ok.inj hr
          contradiction⟩
      | none =>
        have hgood : b.ok = true := by rw [hok, he]; rfl
        simp only [hgood, he]
        obtain ⟨more, later⟩ := account_runTarget l start
          (l.launchData ((b.data.get? "command").getD .null) extra) extra m
        exact ⟨_, account.trans rfl hgood later henvironment⟩

end Launcher
end BuildLauncher
