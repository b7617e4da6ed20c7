import BuildLauncher.Proofs.Launch.Courses

/-!
# What operations change

Planning changes nothing, a build changes no files, and a rehearsal executes nothing. A launch only
makes directories: those of the caches and the ones missing above them.
-/
namespace BuildLauncher.Launcher

open Files Launching

/-- The host after an operation has the same files, and nothing was executed. -/
structure Untouched (h k : Host) : Prop where
  view : k.view = h.view
  executions : k.executions = h.executions

/-- The directories that a launch may make: the caches and all above them. -/
def cacheLevels (l : Launcher) : List Path :=
  (l.directory.join (.ofText "cargo-git")).ancestors ++
    (l.directory.join (.ofText "cargo-registry")).ancestors

theorem cacheLevels_eq (l : Launcher) : l.caches.flatMap Path.ancestors = l.cacheLevels := by
  simp [caches, cacheLevels, layout, ProjectLayout.around]

theorem untouched_plan (l : Launcher) (extra : List String) (h : Host) :
    Untouched h (on (l.plan extra) h).2 := by
  simp only [plan, on_ofFiles]
  cases l.planIn h.view extra with
  | error e => exact ⟨rfl, rfl⟩
  | ok r => exact ⟨rfl, rfl⟩

/-- The effects of all operations, whether they return or fail. -/
theorem effects (l : Launcher) (skip : Bool) (extra : List String) (h : Host) :
    Untouched h (on (l.plan extra) h).2 ∧
    (l.settings.dryRun = true →
      Untouched h (on l.buildImage h).2 ∧ Untouched h (on (l.launch skip extra) h).2) ∧
    (on l.buildImage h).2.view = h.view ∧
    h.view.GrownBy l.cacheLevels (on (l.launch skip extra) h).2.view ∧
    ∃ calls, (on (l.launch skip extra) h).2.executions = h.executions ++ calls ∧
      ((on (l.launch skip extra) h).2.view ≠ h.view →
        h.view.isDirectory l.layout.targetDir = .ok true ∧
        (skip = true ∨ l.EngineSucceeded h.view h.environment calls)) := by
  obtain ⟨built, hbuilt, hbuild⟩ := on_buildImage l h
  obtain ⟨w, calls, hleft, hlaunch⟩ := on_launch l skip extra h
  refine ⟨l.untouched_plan extra h, fun dry => ?_, hbuilt.view, ?_, calls, hleft.executions, ?_⟩
  · have hb : built = [] := by
      obtain hb | ⟨wet, -⟩ := hbuild.calls_eq
      · exact hb
      · simp [wet] at dry
    have hc : calls = [] := by
      obtain hc | ⟨wet, -⟩ | ⟨wet, -⟩ := hlaunch.calls_cases
      · exact hc
      · simp [wet] at dry
      · simp [wet] at dry
    have hw : w = h.view := by
      obtain hw | ⟨wet, -⟩ := hlaunch.view_cases
      · exact hw
      · simp [wet] at dry
    exact ⟨⟨hbuilt.view, by simp [hbuilt.executions, hb]⟩,
      ⟨hleft.view.trans hw, by simp [hleft.executions, hc]⟩⟩
  · rw [hleft.view]
    obtain rfl | ⟨-, -, -, rfl⟩ := hlaunch.view_cases
    · exact .refl _ _
    · exact l.cacheLevels_eq ▸ View.ensureDirectories_grown h.view l.caches
  · intro hchanged
    rw [hleft.view] at hchanged
    obtain rfl | ⟨-, ht, hskip, -⟩ := hlaunch.view_cases
    · contradiction
    · exact ⟨ht, hskip⟩

end BuildLauncher.Launcher
