import BuildLauncher.Launch.Service
import BuildLauncher.Proofs.Files.Absolute
import BuildLauncher.Proofs.Launch.Processes
import Mathlib.Data.List.Forall2

/-!
# Two runs beside each other

One operation is run on two hosts that have the same files, each from a directory and in an
environment of its own. `Launching.Agrees` says that both runs come to the same result, leave the
same files and have executed the same programs. The rules below carry this from the steps of an
operation to the whole; a command agrees if its look-up and its start do (`agrees_runCommand`).
-/
namespace BuildLauncher

open Files

/-- Where a launcher runs. -/
structure Surroundings where
  environment : Environment
  workingDir : Option Location

/-- The host in other surroundings. -/
def Host.amid (h : Host) (s : Surroundings) : Host :=
  { h with environment := s.environment, view := h.view.seenFrom s.workingDir }

/-- Two executions of one program with the same arguments, in one directory or each in that of its
own launcher. -/
structure Execution.Beside (a b : Surroundings) (e f : Execution) : Prop where
  program : e.program = f.program
  arguments : e.arguments = f.arguments
  directory : e.directory = f.directory ∨
    a.workingDir = some e.directory ∧ b.workingDir = some f.directory

/-- Two hosts with the same files, the same time and the same programs run. -/
structure Host.Beside (a b : Surroundings) (t : Tree) (h k : Host) : Prop where
  left : h.view = ⟨t, a.workingDir⟩ ∧ h.environment = a.environment
  right : k.view = ⟨t, b.workingDir⟩ ∧ k.environment = b.environment
  clock : h.clock = k.clock
  executions : List.Forall₂ (Execution.Beside a b) h.executions k.executions

section Beside

variable {a b : Surroundings} {t : Tree} {h k : Host}

/-- Launchers in one directory execute programs in the same directories. -/
theorem Execution.Beside.eq {e f : Execution} (h : e.Beside a b f)
    (hplace : a.workingDir = b.workingDir) : e = f := by
  have hdirectory : e.directory = f.directory := by
    obtain hsame | ⟨he, hf⟩ := h.directory
    · exact hsame
    · rw [hplace, hf] at he
      exact (Option.some.inj he).symm
  cases e
  cases f
  exact Execution.mk.injEq .. ▸ ⟨h.program, hdirectory, h.arguments⟩

theorem Host.beside_amid (h : Host) (a b : Surroundings) :
    Host.Beside a b h.view.tree (h.amid a) (h.amid b) where
  left := ⟨rfl, rfl⟩
  right := ⟨rfl, rfl⟩
  clock := rfl
  executions := List.forall₂_same.mpr fun _ _ => ⟨rfl, rfl, .inl rfl⟩

/-- What is reported makes no difference. -/
theorem Host.Beside.report (hb : Host.Beside a b t h k) (records more : List Log.Record) :
    Host.Beside a b t { h with records } { k with records := more } :=
  ⟨hb.left, hb.right, hb.clock, hb.executions⟩

theorem Host.Beside.execute (hb : Host.Beside a b t h k) {e f : Execution}
    (hexecution : e.Beside a b f) :
    Host.Beside a b t { h with executions := h.executions ++ [e] }
      { k with executions := k.executions ++ [f] } :=
  ⟨hb.left, hb.right, hb.clock, List.rel_append hb.executions (.cons hexecution .nil)⟩

end Beside

namespace Launching

variable {α β : Type} {a b : Surroundings} {t : Tree} {op : Launching α}
  {next : α → Launching β} {good : α → Tree → Prop} {final : β → Tree → Prop}

/-- Both runs of an operation come to the same result and leave the same files. Of the result and
the files that are left something is known, if there is a result. -/
def Agrees (a b : Surroundings) (t : Tree) (op : Launching α) (good : α → Tree → Prop) : Prop :=
  ∀ h k, Host.Beside a b t h k → (on op h).1 = (on op k).1 ∧
    ∃ u, Host.Beside a b u (on op h).2 (on op k).2 ∧ ∀ x, (on op h).1 = .ok x → good x u

theorem agrees_pure {x : α} (hgood : good x t) : Agrees a b t (pure x) good :=
  fun _ _ hb => ⟨rfl, t, hb, fun _ hx => Except.ok.inj hx ▸ hgood⟩

/-- Runs that both fail in one way agree: there is no result of which anything is to be known. -/
theorem agrees_of_failure {h k : Host} {f : Failure} {left right : Except Failure α × Host}
    (hb : Host.Beside a b t h k) (hleft : left = (.error f, h)) (hright : right = (.error f, k)) :
    left.1 = right.1 ∧ ∃ u, Host.Beside a b u left.2 right.2 ∧ ∀ x, left.1 = .ok x → good x u := by
  subst hleft hright
  exact ⟨rfl, t, hb, nofun⟩

theorem agrees_throw (f : Failure) : Agrees a b t (throw f : Launching α) good :=
  fun _ _ hb => agrees_of_failure hb rfl rfl

/-- An operation agrees if its first step does and whatever follows on it. -/
theorem Agrees.bind (hop : Agrees a b t op good)
    (hnext : ∀ x u, good x u → Agrees a b u (next x) final) :
    Agrees a b t (op >>= next) final := by
  intro h k hb
  obtain ⟨hresult, u, hafter, hgood⟩ := hop h k hb
  rw [on_bind, on_bind]
  generalize on op h = left at hresult hafter hgood ⊢
  generalize on op k = right at hresult hafter ⊢
  obtain ⟨r, h'⟩ := left
  obtain ⟨r', k'⟩ := right
  obtain rfl : r = r' := hresult
  cases r with
  | error f => exact agrees_of_failure hafter rfl rfl
  | ok x => exact hnext x u (hgood x rfl) h' k' hafter

/-- After a step that leaves the files as they are, what follows starts from the same files. -/
theorem Agrees.before (hop : Agrees a b t op fun _ u => u = t)
    (hnext : ∀ x, Agrees a b t (next x) final) : Agrees a b t (op >>= next) final :=
  hop.bind fun x _ hu => hu ▸ hnext x

theorem Agrees.weaken (hop : Agrees a b t op good) : Agrees a b t op fun _ _ => True := by
  intro h k hb
  obtain ⟨hresult, u, hafter, -⟩ := hop h k hb
  exact ⟨hresult, u, hafter, fun _ _ => trivial⟩

theorem agrees_log (logger : String) (level : Log.Level) (event : String) :
    Agrees a b t (log logger level event) fun _ u => u = t :=
  fun _ _ hb => ⟨rfl, t, hb.report _ _, fun _ _ => rfl⟩

theorem agrees_tick : Agrees a b t tick fun _ u => u = t := by
  intro h k hb
  simp only [tick, on_bind, on_get, ← hb.clock]
  cases h.clock.upcoming with
  | nil => exact ⟨by simp [hb.clock], t, hb, fun _ _ => rfl⟩
  | cons now rest => exact ⟨rfl, t, ⟨hb.left, hb.right, rfl, hb.executions⟩, fun _ _ => rfl⟩

/-- What is seen alike from everywhere agrees. -/
theorem agrees_ofFiles {inspect : View → Except Error α}
    (h : ∀ d, inspect (View.mk t d) = inspect ⟨t, none⟩) :
    Agrees a b t (ofFiles inspect) fun _ u => u = t := by
  intro h' k hb
  simp only [on_ofFiles, hb.left.1, hb.right.1, h]
  cases inspect ⟨t, none⟩ with
  | ok x => exact ⟨rfl, t, hb, fun _ _ => rfl⟩
  | error e => exact agrees_of_failure hb rfl rfl

theorem agrees_change {f : View → View.Attempt}
    (h : ∀ d, f ⟨t, d⟩ = (f ⟨t, none⟩).seenFrom d) :
    Agrees a b t (change f) fun r u => r = (f ⟨t, none⟩).1 ∧ u = (f ⟨t, none⟩).2.tree := by
  intro h' k hb
  simp only [on_change, hb.left.1, hb.right.1, h a.workingDir, h b.workingDir]
  exact ⟨rfl, _, ⟨⟨rfl, hb.left.2⟩, ⟨rfl, hb.right.2⟩, hb.clock, hb.executions⟩,
    fun _ hx => Except.ok.inj hx ▸ ⟨rfl, rfl⟩⟩

/-- The absence of a command is told alike. -/
theorem agrees_orNotFound (hop : Agrees a b t op fun _ u => u = t)
    (hview : ∀ h, (on op h).2.view = h.view) :
    Agrees a b t (orNotFound op) fun _ u => u = t := by
  intro h k hb
  obtain ⟨hresult, u, hafter, -⟩ := hop h k hb
  obtain rfl : u = t := by
    have hsame := hview h
    rw [hafter.left.1, hb.left.1] at hsame
    exact congrArg View.tree hsame
  rw [on_orNotFound, on_orNotFound]
  generalize on op h = left at hresult hafter ⊢
  generalize on op k = right at hresult hafter ⊢
  obtain ⟨r, h'⟩ := left
  obtain ⟨r', k'⟩ := right
  obtain rfl : r = r' := hresult
  cases r with
  | ok x => exact ⟨rfl, u, hafter, fun _ _ => rfl⟩
  | error f => cases f <;> exact ⟨rfl, u, hafter, fun _ _ => rfl⟩

end Launching

section Commands

variable {a b : Surroundings} {t : Tree} {command : String} {arguments : List String}
  {cwd : Option Path}

theorem directoryFor_seenFrom {v : View} {d : Option Location} {path : Path}
    (h : path.isAbsolute = true) :
    directoryFor (v.seenFrom d) (some path) = directoryFor v (some path) := by
  simp only [directoryFor, View.node?_seenFrom h]

/-- What starting a command comes to, in the directory that it is to run in or, where none is given,
in the one where the launcher is. -/
def started (v : View) (env : Environment) (command : String) :
    Option Path → Except Error (Except Fault (Program × Ending × Bool))
  | none => .ok (startFirst v none .notFound (candidates env command))
  | some path => (directoryFor v (some path)).map fun location =>
      startFirst (v.seenFrom (some location)) none .notFound (candidates env command)

/-- A command that is found in both surroundings or in neither, and started alike. -/
structure Meets (a b : Surroundings) (t : Tree) (command : String) (cwd : Option Path) :
    Prop where
  found : (lookUp ⟨t, a.workingDir⟩ a.environment command).isSome =
    (lookUp ⟨t, b.workingDir⟩ b.environment command).isSome
  started : started ⟨t, a.workingDir⟩ a.environment command cwd =
    started ⟨t, b.workingDir⟩ b.environment command cwd

/-- From one directory, commands are looked up and started by the same list of directories. -/
theorem meets_of_path (hplace : a.workingDir = b.workingDir)
    (hpath : a.environment.get? "PATH" = b.environment.get? "PATH") : Meets a b t command cwd := by
  have hcandidates : candidates a.environment command = candidates b.environment command := by
    simp only [candidates, searchPath, hpath]
  refine ⟨by simp only [lookUp, hplace, hcandidates], ?_⟩
  cases cwd <;> simp only [started, hplace, hcandidates]

theorem candidates_of_isRooted (h : isRooted command = true) (env : Environment) :
    candidates env command = [command] := by
  have hslash : hasSlash command = true :=
    List.contains_iff_mem.mpr (List.mem_of_mem_head? (of_decide_eq_true h))
  simp only [candidates, hslash, if_true]

/-- A command that is given by a path from the root is found and started alike from everywhere. -/
theorem meets_of_isRooted (h : isRooted command = true)
    (hcwd : ∀ path ∈ cwd, path.isAbsolute = true) : Meets a b t command cwd := by
  have hnode (d : Option Location) : View.node? ⟨t, d⟩ command = View.node? ⟨t, none⟩ command :=
    View.node?_of_isRooted (v := ⟨t, none⟩) (d := d) h
  have hstart (d : Option Location) :
      startFirst ⟨t, d⟩ none .notFound [command] = startFirst ⟨t, none⟩ none .notFound [command] := by
    simp only [startFirst, startAt, hnode]
  refine ⟨by simp only [lookUp, candidates_of_isRooted h, isProgram, List.find?, hnode], ?_⟩
  cases cwd with
  | none => simp only [started, candidates_of_isRooted h, hstart]
  | some path =>
    have hdirectory (d : Option Location) :
        directoryFor ⟨t, d⟩ (some path) = directoryFor ⟨t, none⟩ (some path) :=
      directoryFor_seenFrom (v := ⟨t, none⟩) (d := d) (hcwd path rfl)
    simp only [started, hdirectory, candidates_of_isRooted h, View.seenFrom]

/-- Two processes of one program that end alike. -/
structure Process.Beside (a b : Surroundings) (p q : Process) : Prop where
  execution : p.execution.Beside a b q.execution
  ending : p.ending = q.ending
  interrupted : p.interrupted = q.interrupted

/-- Two attempts at a process that fail alike or come to processes of one program. -/
inductive StartsBeside (a b : Surroundings) :
    Except Error Process → Except Error Process → Prop
  | failed (e : Error) : StartsBeside a b (.error e) (.error e)
  | process {p q : Process} (h : Process.Beside a b p q) : StartsBeside a b (.ok p) (.ok q)

/-- From two directories the same program is started alike. -/
theorem startsBeside_startFirst {d e : Location}
    (hd : d = e ∨ a.workingDir = some d ∧ b.workingDir = some e) {v w : View}
    {commands others : List String}
    (h : startFirst v none .notFound commands = startFirst w none .notFound others) :
    StartsBeside a b
      (match startFirst v none .notFound commands with
        | .ok (program, ending, interrupted) =>
          return ⟨⟨program.name, d, arguments⟩, ending, interrupted⟩
        | .error fault => throw (.refused fault (.named command)))
      (match startFirst w none .notFound others with
        | .ok (program, ending, interrupted) =>
          return ⟨⟨program.name, e, arguments⟩, ending, interrupted⟩
        | .error fault => throw (.refused fault (.named command))) := by
  rw [h]
  rcases startFirst w none .notFound others with fault | ⟨program, ending, interrupted⟩
  · exact .failed _
  · exact .process ⟨⟨rfl, rfl, hd⟩, rfl, rfl⟩

theorem startCommand_beside (arguments : List String) (hcwd : ∀ path ∈ cwd, path.isAbsolute = true)
    (hplace : cwd = none → a.workingDir.isSome = b.workingDir.isSome)
    (h : Meets a b t command cwd) :
    StartsBeside a b (startCommand ⟨t, a.workingDir⟩ a.environment command arguments cwd)
      (startCommand ⟨t, b.workingDir⟩ b.environment command arguments cwd) := by
  have hstarted := h.started
  simp only [startCommand]
  split
  · exact .failed _
  cases cwd with
  | none =>
    have hsame := hplace rfl
    have hfirst := Except.ok.inj hstarted
    cases ha : a.workingDir with
    | none =>
      have hb : b.workingDir = none := by simpa [ha] using hsame
      rw [hb]
      exact .failed _
    | some d =>
      obtain ⟨e, he⟩ := Option.isSome_iff_exists.mp (hsame ▸ ha ▸ rfl : b.workingDir.isSome)
      rw [ha, he] at hfirst
      rw [he]
      exact startsBeside_startFirst (.inr ⟨ha, he⟩) hfirst
  | some path =>
    have hdirectory : directoryFor ⟨t, a.workingDir⟩ (some path) =
        directoryFor ⟨t, b.workingDir⟩ (some path) :=
      directoryFor_seenFrom (v := ⟨t, b.workingDir⟩) (hcwd path rfl)
    simp only [started, hdirectory] at hstarted ⊢
    cases hd : directoryFor ⟨t, b.workingDir⟩ (some path) with
    | error e => exact .failed _
    | ok d =>
      rw [hd] at hstarted
      exact startsBeside_startFirst (.inl rfl) (Except.ok.inj hstarted)

/-- The directory that a log names is there in both surroundings or in neither. -/
theorem shown_beside (hplace : cwd = none → a.workingDir.isSome = b.workingDir.isSome) :
    (∃ e, cwd.elim (View.currentPath ⟨t, a.workingDir⟩) .ok = .error e ∧
        cwd.elim (View.currentPath ⟨t, b.workingDir⟩) .ok = .error e) ∨
      ∃ p q, cwd.elim (View.currentPath ⟨t, a.workingDir⟩) .ok = .ok p ∧
        cwd.elim (View.currentPath ⟨t, b.workingDir⟩) .ok = .ok q := by
  cases cwd with
  | some path => exact .inr ⟨path, path, rfl, rfl⟩
  | none =>
    have hsame := hplace rfl
    cases ha : a.workingDir <;> cases hb : b.workingDir <;>
      simp [View.currentPath, ha, hb] at hsame ⊢

open Launching in
/-- A command that is found and started alike is run alike. Its log may name two directories. -/
theorem agrees_runCommand (hcwd : ∀ path ∈ cwd, path.isAbsolute = true)
    (hplace : cwd = none → (lookUp ⟨t, a.workingDir⟩ a.environment command).isSome →
      a.workingDir.isSome = b.workingDir.isSome)
    (h : Meets a b t command cwd) :
    Agrees a b t (runCommand (command :: arguments) cwd) fun _ u => u = t := by
  intro l k hb
  have hfound := h.found
  simp only [runCommand, on_bind, on_get, hb.left.1, hb.left.2, hb.right.1, hb.right.2]
  cases hl : lookUp ⟨t, a.workingDir⟩ a.environment command with
  | none =>
    have hr : lookUp ⟨t, b.workingDir⟩ b.environment command = none := by simpa [hl] using hfound
    simp only [hr]
    exact agrees_of_failure hb rfl rfl
  | some found =>
    obtain ⟨other, hr⟩ : ∃ other, lookUp ⟨t, b.workingDir⟩ b.environment command = some other :=
      Option.isSome_iff_exists.mp (by simpa [hl] using hfound)
    have hplace (hnone : cwd = none) := hplace hnone (by rw [hl]; rfl)
    have hstart := startCommand_beside arguments hcwd hplace h
    simp only [hr, Option.isNone_some, Bool.false_eq_true, if_false, on_bind, on_ofFiles,
      hb.left.1, hb.right.1]
    obtain ⟨e, ha, he⟩ | ⟨p, q, hp, hq⟩ := shown_beside (t := t) hplace
    · rw [ha, he]
      exact agrees_of_failure hb rfl rfl
    · simp only [hp, hq, on_log]
      generalize startCommand ⟨t, a.workingDir⟩ a.environment command arguments cwd = left at hstart ⊢
      generalize startCommand ⟨t, b.workingDir⟩ b.environment command arguments cwd = right
        at hstart ⊢
      cases hstart with
      | failed e => cases e <;> exact agrees_of_failure (hb.report _ _) rfl rfl
      | @process left right hprocess =>
        simp only [on_bind, on_modify, ← hprocess.interrupted, ← hprocess.ending]
        have hran := hb.execute hprocess.execution
        cases left.interrupted with
        | false =>
          simp only [on_bind, on_log, Bool.false_eq_true, if_false]
          exact ⟨rfl, t, hran.report _ _, fun _ _ => rfl⟩
        | true =>
          simp only [on_bind, on_log, if_true]
          exact ⟨rfl, t, hran.report _ _, fun _ _ => rfl⟩

end Commands
end BuildLauncher
