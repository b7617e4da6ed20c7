import BuildLauncher.Launch.Command
import BuildLauncher.Proofs.Steps

/-!
# Operations on a host

An operation is read as a function from the host before it to its result and the host after it.
What it leaves behind is told by the view after it and the programs that it has run.
-/
namespace BuildLauncher

open Files

namespace Launching

variable {α β : Type}

/-- The result of an operation on a host, and the host after it. -/
def on (op : Launching α) (h : Host) : Except Failure α × Host := op.run h

@[simp] theorem on_pure (a : α) (h : Host) : on (pure a) h = (.ok a, h) := rfl

@[simp] theorem on_throw (f : Failure) (h : Host) : on (throw f : Launching α) h = (.error f, h) :=
  rfl

theorem on_bind (op : Launching α) (next : α → Launching β) (h : Host) :
    on (op >>= next) h =
      match on op h with
      | (.ok a, k) => on (next a) k
      | (.error f, k) => (.error f, k) := by
  have hcont : on (op >>= next) h = ExceptT.bindCont next (on op h).1 (on op h).2 := rfl
  rw [hcont]
  rcases on op h with ⟨f | a, k⟩ <;> rfl

@[simp] theorem on_map (f : α → β) (op : Launching α) (h : Host) :
    on (f <$> op) h = ((on op h).1.map f, (on op h).2) := by
  rw [map_eq_pure_bind, on_bind]
  rcases on op h with ⟨r | a, k⟩ <;> rfl

theorem on_tryCatch (op : Launching α) (handle : Failure → Launching α) (h : Host) :
    on (tryCatch op handle) h =
      match on op h with
      | (.ok a, k) => (.ok a, k)
      | (.error f, k) => on (handle f) k := by
  unfold on
  rw [ExceptT.run_tryCatch]
  have hcont (x : StateM Host (Except Failure α))
      (f : Except Failure α → StateM Host (Except Failure α)) :
      (x >>= f) h = f (x h).1 (x h).2 := rfl
  rw [hcont]
  rcases op.run h with ⟨f | a, k⟩ <;> rfl

@[simp] theorem on_get (h : Host) : on get h = (.ok h, h) := rfl

@[simp] theorem on_modify (f : Host → Host) (h : Host) : on (modify f) h = (.ok (), f h) := rfl

@[simp] theorem on_log (logger : String) (level : Log.Level) (event : String) (h : Host) :
    on (log logger level event) h =
      (.ok (), { h with records := h.records ++ [⟨logger, level, event, []⟩] }) := rfl

@[simp] theorem on_ofFiles (inspect : View → Except Error α) (h : Host) :
    on (ofFiles inspect) h =
      match inspect h.view with
      | .ok a => (.ok a, h)
      | .error e => (.error (.files e), h) := by
  simp only [ofFiles, on_bind, on_get]
  cases inspect h.view with
  | error e => rfl
  | ok a => rfl

@[simp] theorem on_change (f : View → Except Error Unit × View) (h : Host) :
    on (change f) h = (.ok (f h.view).1, { h with view := (f h.view).2 }) := rfl

end Launching

/-- What an operation leaves of a host: files, and the programs that it has run. Time may have gone
on and events may have been reported. -/
structure Host.Left (h : Host) (view : View) (calls : List Execution) (k : Host) : Prop where
  view : k.view = view
  environment : k.environment = h.environment
  executions : k.executions = h.executions ++ calls

namespace Host

variable {h k m : Host} {v w : View} {calls more : List Execution}

theorem Left.refl (h : Host) : h.Left h.view [] h := ⟨rfl, rfl, by simp⟩

theorem Left.trans (hk : h.Left v calls k) (hm : k.Left w more m) : h.Left w (calls ++ more) m where
  view := hm.view
  environment := hm.environment.trans hk.environment
  executions := by rw [hm.executions, hk.executions, List.append_assoc]

/-- What changes neither files nor programs run can be left out. -/
theorem Left.quiet (hk : h.Left v calls k) (hm : k.Left k.view [] m) : h.Left v calls m := by
  rw [hk.view] at hm
  simpa using hk.trans hm

end Host

namespace Launching

theorem on_tick (h : Host) : ∃ now k, on tick h = (.ok now, k) ∧ h.Left h.view [] k := by
  simp only [tick, on_bind, on_get]
  cases h.clock.upcoming with
  | nil => exact ⟨_, _, rfl, .refl h⟩
  | cons next rest => exact ⟨_, _, rfl, rfl, rfl, by simp⟩

/-- Of the failures only that of a command that cannot be started is caught. -/
theorem on_orNotFound {α : Type} (op : Launching α) (h : Host) :
    on (orNotFound op) h =
      match on op h with
      | (.ok a, k) => (.ok (.ok a), k)
      | (.error (.commandNotFound command reason), k) => (.ok (.error (command, reason)), k)
      | (.error f, k) => (.error f, k) := by
  rw [orNotFound, on_tryCatch, on_map]
  rcases on op h with ⟨f | a, k⟩
  · cases f <;> rfl
  · rfl

end Launching
end BuildLauncher
