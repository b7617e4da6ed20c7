import BuildLauncher.Proofs.Launch.Operations

/-!
# Processes

A command becomes a process, or it is not found or cannot be started. `commandRun_runCommand` tells
what running it does in each case.
-/
namespace BuildLauncher

open Files

/-- The process that a command becomes. There is none if the command is not found, or found but not
to be started. -/
def process? (v : View) (env : Environment) (argv : List String) (cwd : Option Path) :
    Option Process :=
  match argv with
  | [] => none
  | command :: arguments =>
    if (lookUp v env command).isSome then
      (startCommand v env command arguments cwd).toOption
    else none

namespace Process

/-- The status by which the end of a process is told: at an interruption the child's own counts for
nothing, and a signal is negative. -/
def returncode (p : Process) : Int :=
  if p.interrupted then interruptedStatus else p.ending.returncode

theorem returncode_eq_zero_iff (p : Process) :
    p.returncode = 0 ↔ p.interrupted = false ∧ ∃ status, p.ending = .exits status ∧
      status % 256 = 0 := by
  unfold returncode
  cases p.interrupted with
  | true => simp [interruptedStatus]
  | false =>
    cases p.ending with
    | exits status => simp [Files.Ending.returncode]; omega
    | killed signal positive => simp [Files.Ending.returncode]; omega

end Process

variable {v : View} {env : Environment} {command : String} {arguments : List String}
  {cwd : Option Path} {p : Process}

theorem directoryFor_some {path : Path} {location : Location}
    (h : directoryFor v (some path) = .ok location) :
    v.node? path.text = .ok (location, .directory) := by
  simp only [directoryFor] at h
  split at h <;> simp_all

theorem directoryFor_none {location : Location} (h : directoryFor v none = .ok location) :
    v.workingDir = some location := by
  simp only [directoryFor] at h
  split at h <;> simp_all

/-- A process runs with the arguments of its command, in the directory that it was to run in. -/
theorem startCommand_ok (h : startCommand v env command arguments cwd = .ok p) :
    p.execution.arguments = arguments ∧ directoryFor v cwd = .ok p.execution.directory := by
  simp only [startCommand] at h
  split at h
  · contradiction
  · obtain ⟨directory, hd, h⟩ := bind_eq_ok h
    split at h
    · obtain rfl := Except.ok.inj h
      exact ⟨rfl, hd⟩
    · contradiction

theorem process?_eq_some :
    process? v env (command :: arguments) cwd = some p ↔
      (lookUp v env command).isSome ∧ startCommand v env command arguments cwd = .ok p := by
  unfold process?
  cases hs : startCommand v env command arguments cwd <;> simp [hs, Except.toOption]

theorem process?_eq_none (h : ∀ p, startCommand v env command arguments cwd ≠ .ok p) :
    process? v env (command :: arguments) cwd = none := by
  cases hp : process? v env (command :: arguments) cwd with
  | none => rfl
  | some p => exact absurd (process?_eq_some.mp hp).2 (h p)

/-- What is not reported of a command that is found: there is no directory that could be named, or a
word has a character that no argument can have. -/
def commandFault? (v : View) (env : Environment) (argv : List String) (cwd : Option Path) :
    Option Error :=
  match argv with
  | [] => none
  | command :: _ =>
    if (lookUp v env command).isNone then none
    else
      match cwd.elim v.currentPath .ok with
      | .error e => some e
      | .ok _ =>
        if (argv ++ cwd.toList.map Path.text).any View.hasNul then some .nulCharacter else none

/-- How a command can end: its process is run to the end, or there is no process, which is told
apart from all else that fails. -/
inductive CommandEnd (v : View) (env : Environment) (argv : List String) (cwd : Option Path) :
    Except Failure CommandOutcome → List Execution → Prop
  | finished {p : Process} (process : process? v env argv cwd = some p) :
      CommandEnd v env argv cwd (.ok ⟨argv, p.returncode, cwd.map Path.text⟩) [p.execution]
  | notFound {command reason : String} (process : process? v env argv cwd = none)
      (fault : commandFault? v env argv cwd = none) :
      CommandEnd v env argv cwd (.error (.commandNotFound command reason)) []
  | broken {e : Error} (process : process? v env argv cwd = none)
      (fault : commandFault? v env argv cwd = some e) :
      CommandEnd v env argv cwd (.error (.files e)) []

/-- Where there is no directory to run in that could be named, nothing is started. -/
theorem startCommand_nowhere {e : Error} (hc : cwd.elim v.currentPath .ok = .error e) (p : Process) :
    startCommand v env command arguments cwd ≠ .ok p := by
  intro h
  obtain ⟨-, hd⟩ := startCommand_ok h
  cases cwd with
  | some path => simp at hc
  | none => simp [View.currentPath, directoryFor_none hd] at hc

/-- A directory in which nothing can be started does not count as a fault of the words. -/
theorem directoryFor_ne_nulCharacter : directoryFor v cwd ≠ .error .nulCharacter := by
  unfold directoryFor
  repeat' split
  all_goals simp

/-- Starting a command fails for its words if one of them has a character that no argument can have.
-/
theorem startCommand_eq_nulCharacter :
    startCommand v env command arguments cwd = .error .nulCharacter ↔
      (command :: arguments ++ cwd.toList.map Path.text).any View.hasNul = true := by
  simp only [startCommand]
  split
  · rename_i hnul
    exact iff_of_true rfl hnul
  · rename_i hnul
    refine iff_of_false (fun h => ?_) hnul
    rw [bind_eq_error] at h
    obtain hd | ⟨directory, -, h⟩ := h
    · exact directoryFor_ne_nulCharacter hd
    · split at h <;> simp [throw_eq_error, pure, Except.pure] at h

section Fault

variable {found : String} {shown : Path} {e : Error}

theorem commandFault?_of_absent (hl : lookUp v env command = none) :
    commandFault? v env (command :: arguments) cwd = none := by
  simp [commandFault?, hl]

theorem commandFault?_of_nowhere (hl : lookUp v env command = some found)
    (hc : cwd.elim v.currentPath .ok = .error e) :
    commandFault? v env (command :: arguments) cwd = some e := by
  simp [commandFault?, hl, hc]

theorem commandFault?_of_nul (hl : lookUp v env command = some found)
    (hc : cwd.elim v.currentPath .ok = .ok shown)
    (hs : startCommand v env command arguments cwd = .error .nulCharacter) :
    commandFault? v env (command :: arguments) cwd = some .nulCharacter := by
  simp only [commandFault?, hl, Option.isNone_some, Bool.false_eq_true, if_false, hc,
    startCommand_eq_nulCharacter.mp hs, if_true]

theorem commandFault?_of_no_nul (hl : lookUp v env command = some found)
    (hc : cwd.elim v.currentPath .ok = .ok shown)
    (hs : startCommand v env command arguments cwd ≠ .error .nulCharacter) :
    commandFault? v env (command :: arguments) cwd = none := by
  simp only [commandFault?, hl, Option.isNone_some, Bool.false_eq_true, if_false, hc,
    mt startCommand_eq_nulCharacter.mpr hs]

/-- What becomes a process has no fault. -/
theorem commandFault?_of_process? (h : process? v env (command :: arguments) cwd = some p) :
    commandFault? v env (command :: arguments) cwd = none := by
  obtain ⟨hl, hs⟩ := process?_eq_some.mp h
  obtain ⟨found, hl⟩ := Option.isSome_iff_exists.mp hl
  cases hc : cwd.elim v.currentPath .ok with
  | error e => exact absurd hs (startCommand_nowhere hc p)
  | ok shown => exact commandFault?_of_no_nul hl hc (by simp [hs])

end Fault

/-- Every way in which a command is run, with what comes of it and the programs executed. -/
inductive CommandRun (v : View) (env : Environment) (command : String) (arguments : List String)
    (cwd : Option Path) : Except Failure CommandOutcome → List Execution → Prop
  | absent (look : lookUp v env command = none) :
      CommandRun v env command arguments cwd (.error (.commandNotFound command notOnPath)) []
  | nowhere {found : String} {e : Error} (look : lookUp v env command = some found)
      (shown : cwd.elim v.currentPath .ok = .error e) :
      CommandRun v env command arguments cwd (.error (.files e)) []
  | nul {found : String} {shown : Path} (look : lookUp v env command = some found)
      (shown : cwd.elim v.currentPath .ok = .ok shown)
      (start : startCommand v env command arguments cwd = .error .nulCharacter) :
      CommandRun v env command arguments cwd (.error (.files .nulCharacter)) []
  | refused {found : String} {shown : Path} {e : Error} (look : lookUp v env command = some found)
      (shown : cwd.elim v.currentPath .ok = .ok shown)
      (start : startCommand v env command arguments cwd = .error e) (proper : e ≠ .nulCharacter) :
      CommandRun v env command arguments cwd (.error (.commandNotFound command e.message)) []
  | finished {found : String} {p : Process} (look : lookUp v env command = some found)
      (start : startCommand v env command arguments cwd = .ok p) :
      CommandRun v env command arguments cwd
        (.ok ⟨command :: arguments, p.returncode, cwd.map Path.text⟩) [p.execution]

open Launching in
theorem commandRun_runCommand (command : String) (arguments : List String) (cwd : Option Path)
    (h : Host) :
    ∃ calls, h.Left h.view calls (on (runCommand (command :: arguments) cwd) h).2 ∧
      CommandRun h.view h.environment command arguments cwd
        (on (runCommand (command :: arguments) cwd) h).1 calls := by
  cases hl : lookUp h.view h.environment command with
  | none =>
    simp only [runCommand, on_bind, on_get, hl]
    exact ⟨[], .refl h, .absent hl⟩
  | some found =>
    simp only [runCommand, on_bind, on_get, hl, Option.isNone_some, Bool.false_eq_true, if_false,
      on_ofFiles]
    cases hc : cwd.elim h.view.currentPath .ok with
    | error e => exact ⟨[], .refl h, .nowhere hl hc⟩
    | ok shown =>
      simp only [on_log]
      cases hs : startCommand h.view h.environment command arguments cwd with
      | error e =>
        cases e
        case nulCharacter => exact ⟨[], ⟨rfl, rfl, by simp⟩, .nul hl hc hs⟩
        all_goals exact ⟨[], ⟨rfl, rfl, by simp⟩, .refused hl hc hs (by simp)⟩
      | ok p =>
        have hrun := CommandRun.finished hl hs
        refine ⟨[p.execution], ?_⟩
        -- An interruption is logged, and it alone decides the status.
        cases hi : p.interrupted with
        | false =>
          have hstatus : p.returncode = p.ending.returncode := by simp [Process.returncode, hi]
          rw [hstatus] at hrun
          simp only [on_bind, on_modify, on_log, on_pure, hi, Bool.false_eq_true, if_false]
          exact ⟨⟨rfl, rfl, rfl⟩, hrun⟩
        | true =>
          have hstatus : p.returncode = interruptedStatus := by simp [Process.returncode, hi]
          rw [hstatus] at hrun
          simp only [on_bind, on_modify, on_log, on_pure, hi, if_true]
          exact ⟨⟨rfl, rfl, rfl⟩, hrun⟩

/-- Each way in which a command is run is an end of it. -/
theorem CommandRun.commandEnd {r : Except Failure CommandOutcome} {calls : List Execution}
    (h : CommandRun v env command arguments cwd r calls) :
    CommandEnd v env (command :: arguments) cwd r calls := by
  cases h with
  | absent hl =>
    have hp : process? v env (command :: arguments) cwd = none := by simp [process?, hl]
    exact .notFound hp (commandFault?_of_absent hl)
  | nowhere hl hc =>
    exact .broken (process?_eq_none (startCommand_nowhere hc)) (commandFault?_of_nowhere hl hc)
  | nul hl hc hs =>
    exact .broken (process?_eq_none (by simp [hs])) (commandFault?_of_nul hl hc hs)
  | refused hl hc hs he =>
    exact .notFound (process?_eq_none (by simp [hs]))
      (commandFault?_of_no_nul hl hc (by simpa [hs] using he))
  | finished hl hs => exact .finished (process?_eq_some.mpr ⟨by simp [hl], hs⟩)

open Launching in
theorem on_runCommand (command : String) (arguments : List String) (cwd : Option Path) (h : Host) :
    ∃ calls, h.Left h.view calls (on (runCommand (command :: arguments) cwd) h).2 ∧
      CommandEnd h.view h.environment (command :: arguments) cwd
        (on (runCommand (command :: arguments) cwd) h).1 calls := by
  obtain ⟨calls, hleft, hrun⟩ := commandRun_runCommand command arguments cwd h
  exact ⟨calls, hleft, hrun.commandEnd⟩

open Launching in
/-- Running a command with its absence caught: an outcome, a reason or a failure. -/
theorem on_orNotFound_runCommand (command : String) (arguments : List String) (cwd : Option Path)
    (h : Host) :
    (∃ p k, process? h.view h.environment (command :: arguments) cwd = some p ∧
      h.Left h.view [p.execution] k ∧
      on (orNotFound (runCommand (command :: arguments) cwd)) h =
        (.ok (.ok ⟨command :: arguments, p.returncode, cwd.map Path.text⟩), k)) ∨
    (∃ reason k, process? h.view h.environment (command :: arguments) cwd = none ∧
      commandFault? h.view h.environment (command :: arguments) cwd = none ∧
      h.Left h.view [] k ∧
      on (orNotFound (runCommand (command :: arguments) cwd)) h = (.ok (.error reason), k)) ∨
    (∃ e k, process? h.view h.environment (command :: arguments) cwd = none ∧
      commandFault? h.view h.environment (command :: arguments) cwd = some e ∧
      h.Left h.view [] k ∧
      on (orNotFound (runCommand (command :: arguments) cwd)) h = (.error (.files e), k)) := by
  obtain ⟨calls, hleft, hend⟩ := on_runCommand command arguments cwd h
  rw [on_orNotFound]
  generalize on (runCommand (command :: arguments) cwd) h = run at hleft hend
  obtain ⟨r, k⟩ := run
  cases hend with
  | finished hp => exact .inl ⟨_, k, hp, hleft, rfl⟩
  | notFound hp hfault => exact .inr (.inl ⟨_, k, hp, hfault, hleft, rfl⟩)
  | broken hp hfault => exact .inr (.inr ⟨_, k, hp, hfault, hleft, rfl⟩)

end BuildLauncher
