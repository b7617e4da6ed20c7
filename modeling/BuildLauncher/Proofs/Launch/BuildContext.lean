import BuildLauncher.Launch.Service
import BuildLauncher.Log.Logging
import BuildLauncher.Proofs.Files.Settled
import BuildLauncher.Proofs.Settings.Resolution

/-!
# The directory that is built

A launcher directory means itself, also where nothing is there, unless links lead in a circle on the
way that it was found (`launcherDir_again`). So the launcher, which looks at the directory of its
settings once more, builds from that very directory.
-/
namespace BuildLauncher

open Files

variable {v : View} {env : Environment} {path start directory : Path} {s : Settings}

/-- A launcher that builds from the directory that its settings tell of. -/
structure Launcher.BuildsFrom (l : Launcher) (s : Settings) : Prop where
  layout : l.layout.launcherDir = s.baseDir
  logged : ∀ logging : Log.Logging, (logging.bindLaunch s.image s.baseDir.text).context.get? "base_dir" =
    some (.text l.layout.launcherDir.text)
  reported : s.toFields.get? "base_dir" = some (.text l.layout.launcherDir.text)
  dockerfile : l.layout.dockerfile = s.baseDir.join dockerfileName
  build : l.buildArgv = engineCommand s.docker s.image s.baseDir

theorem launcherDir_of_ends (hsound : v.Sound)
    (hstart : expandHome (env.get? "HOME") path = .ok start) (hend : v.Ends start)
    (h : launcherDir v env path = .ok directory) : launcherDir v env directory = .ok directory := by
  obtain ⟨start', canonical, hstart', hcanonical, hcases⟩ := Settings.launcherDir_eq_ok h
  obtain rfl : start = start' := Except.ok.inj (hstart.symm.trans hstart')
  have hphysical := View.physical_of_resolve hsound hend hcanonical
  refine Settings.launcherDir_directory h ?_
  obtain ⟨-, rfl⟩ | ⟨-, rfl⟩ := hcases
  · exact hphysical
  · exact hphysical.parent

/-- A launcher directory means itself, whatever is there, if the links come to an end on the way of the
path that it was made from. The launcher directory of settings is made from the path that the first
source names. If the links on its way come to an end, the launcher builds from that directory, which
is the one that its settings log and report. -/
theorem launcherDir_again (hsound : v.Sound) :
    (∀ path start directory, expandHome (env.get? "HOME") path = .ok start → v.Ends start →
      launcherDir v env path = .ok directory → launcherDir v env directory = .ok directory) ∧
    ∀ request s, Settings.assemble v env request = .ok s →
      ∃ config chosen document environment path start,
        Settings.Gathered v env request config chosen document environment ∧
        Settings.namedDir v (Settings.argumentFields request.given) chosen
          ((request.sources env document).merged environment) = .ok (some path) ∧
        expandHome (env.get? "HOME") path = .ok start ∧
        launcherDir v env path = .ok s.baseDir ∧
        (v.Ends start → ∃ l, Launcher.ofSettings v env s = .ok l ∧
          ProjectLayout.resolve v env s.baseDir s.layout = .ok l.layout ∧ l.BuildsFrom s) := by
  refine ⟨fun path start directory hstart hend h => launcherDir_of_ends hsound hstart hend h, ?_⟩
  intro request s h
  obtain ⟨config, chosen, document, environment, baseDir, gathered, hbaseDir, made⟩ :=
    Settings.assemble_eq_ok.mp h
  rw [made.baseDir, Settings.baseDirOf_eq_valid] at hbaseDir
  obtain ⟨path, hpath, hdirectory⟩ := hbaseDir
  obtain ⟨start, -, hstart, -⟩ := Settings.launcherDir_eq_ok hdirectory
  refine ⟨config, chosen, document, environment, path, start, gathered, hpath, hstart, hdirectory,
    fun hend => ?_⟩
  have hagain := launcherDir_of_ends hsound hstart hend hdirectory
  refine ⟨⟨s, s.baseDir⟩, ?_, ?_, ⟨rfl, fun _ => rfl, rfl, rfl, rfl⟩⟩
  · rw [Launcher.ofSettings, hagain, map_ok]
  · rw [ProjectLayout.resolve, hagain, map_ok]
    rfl

/-- A spelling that passes by what is not there, and ends in it. -/
def absentSpelling : String := "../home/absent/../.dev/./new/x"

theorem launcherDir_again_absent :
    launcherDir Settings.launcherView [] (Path.ofText "/home/.dev/new/x") =
        .ok (Path.ofText "/home/.dev/new/x") ∧
      ∃ s l, Settings.assemble Settings.launcherView [] ⟨none, some absentSpelling, []⟩ = .ok s ∧
        s.baseDir = Path.ofText "/home/.dev/new/x" ∧
        Launcher.ofSettings Settings.launcherView [] s = .ok l ∧ l.BuildsFrom s := by
  have hhome : expandHome (Environment.get? [] "HOME") (Path.ofText absentSpelling) =
      .ok (Path.ofText absentSpelling) := by
    decide +kernel
  have hend : Settings.launcherView.Ends (Path.ofText absentSpelling) :=
    ⟨linkLimit, by decide +kernel, by decide +kernel⟩
  have hdirectory : launcherDir Settings.launcherView [] (Path.ofText absentSpelling) =
      .ok (Path.ofText "/home/.dev/new/x") := by
    decide +kernel
  obtain ⟨s, hs, hbaseDir⟩ := toOption_map_eq_some (by decide +kernel :
    (Settings.assemble Settings.launcherView [] ⟨none, some absentSpelling, []⟩).toOption.map
      (·.baseDir) = some (Path.ofText "/home/.dev/new/x"))
  obtain ⟨hagain, hsettings⟩ := @launcherDir_again Settings.launcherView [] sound_launcherView
  obtain ⟨_, _, _, _, path, start, gathered, hnamed, hstart, -, hlauncher⟩ := hsettings _ s hs
  refine ⟨hagain _ _ _ hhome hend hdirectory, s, ?_⟩
  obtain rfl := Except.ok.inj gathered.directoryChosen
  obtain rfl : Path.ofText absentSpelling = path := Option.some.inj (Except.ok.inj hnamed)
  obtain rfl := Except.ok.inj (hhome.symm.trans hstart)
  obtain ⟨l, hl, -, hbuilds⟩ := hlauncher hend
  exact ⟨l, hs, hbaseDir, hl, hbuilds⟩

/-- A link to itself beside a link to a directory. -/
def loopView : View :=
  ⟨⟨[(["real"], .directory), (["x"], .link "real"), (["loop"], .link "loop")]⟩, some []⟩

/-- After a link that leads in a circle nothing is looked at, and so the launcher directory may be a
link. The launcher builds from where it leads, not from the directory that the settings tell of. -/
theorem launcherDir_circle :
    launcherDir loopView [] (Path.ofText "loop/../x") = .ok (Path.ofText "/x") ∧
      launcherDir loopView [] (Path.ofText "/x") = .ok (Path.ofText "/real") ∧
      ∃ s l, Settings.assemble loopView [] ⟨none, some "loop/../x", []⟩ = .ok s ∧
        s.baseDir = Path.ofText "/x" ∧ Launcher.ofSettings loopView [] s = .ok l ∧
        l.layout.launcherDir = Path.ofText "/real" ∧ ¬l.BuildsFrom s := by
  have hagain : launcherDir loopView [] (Path.ofText "/x") = .ok (Path.ofText "/real") := by
    decide +kernel
  obtain ⟨s, hs, hbaseDir⟩ := toOption_map_eq_some (by decide +kernel :
    (Settings.assemble loopView [] ⟨none, some "loop/../x", []⟩).toOption.map (·.baseDir) =
      some (Path.ofText "/x"))
  refine ⟨by decide +kernel, hagain, s, ⟨s, Path.ofText "/real"⟩, hs, hbaseDir, ?_, rfl, fun h => ?_⟩
  · rw [Launcher.ofSettings, hbaseDir, hagain, map_ok]
  · have hsame : Path.ofText "/real" = Path.ofText "/x" := h.layout.trans hbaseDir
    exact absurd hsame (by decide +kernel)

end BuildLauncher
