import BuildLauncher.Proofs.Settings.Directory

/-!
# Which file and which directory

Two choices stand at the start of the settings: the file they are read from, and the launcher
directory. `assemble_selects` tells for all settings that come about which file and which directory
were chosen, and that the fields of the file are those of the chosen one.
-/
namespace BuildLauncher

open Checking Files Environment

/-- The nearest path that passes a test. All before it were tested and refused, and all were if there
is none. -/
def Nearest (test : Path → Except Error Bool) (paths : List Path) : Option Path → Prop
  | some path => ∃ before after, paths = before ++ path :: after ∧
      (∀ p ∈ before, test p = .ok false) ∧ test path = .ok true
  | none => ∀ p ∈ paths, test p = .ok false

theorem Nearest.cons {test : Path → Except Error Bool} {path : Path} {rest : List Path}
    {found : Option Path} (hpath : test path = .ok false) (h : Nearest test rest found) :
    Nearest test (path :: rest) found := by
  cases found with
  | none => exact List.forall_mem_cons.mpr ⟨hpath, h⟩
  | some p =>
    obtain ⟨before, after, hrest, hbefore, hp⟩ := h
    exact ⟨path :: before, after, by rw [hrest, List.cons_append],
      List.forall_mem_cons.mpr ⟨hpath, hbefore⟩, hp⟩

/-- A search that comes to an end finds the nearest path. -/
theorem nearest_of_firstAccepted {test : Path → Except Error Bool} {paths : List Path}
    {found : Option Path} (h : firstAccepted test paths = .ok found) : Nearest test paths found := by
  induction paths with
  | nil =>
    obtain rfl := Except.ok.inj h
    exact nofun
  | cons path rest ih =>
    rw [firstAccepted] at h
    split at h
    · contradiction
    · rename_i hpath
      obtain rfl := Except.ok.inj h
      exact ⟨[], rest, rfl, nofun, hpath⟩
    · rename_i hpath
      exact (ih h).cons hpath

namespace Environment

theorem value?_cons (entry : String × String) (rest : Environment) (name : String) :
    value? (entry :: rest) name =
      (value? rest name).or
        (if entry.2 ≠ "" ∧ Text.lower entry.1 = name then some entry.2 else none) := by
  unfold value?
  by_cases hempty : entry.2 = ""
  · simp [hempty]
  · rw [List.filter_cons_of_pos (by simpa using hempty), List.reverse_cons, List.find?_append,
      Option.map_or]
    by_cases hname : Text.lower entry.1 = name <;> simp [hempty, hname]

theorem value?_eq_none {env : Environment} {name : String}
    (h : ∀ key ∈ env.map Prod.fst, Text.lower key ≠ name) : env.value? name = none := by
  induction env with
  | nil => rfl
  | cons entry rest ih =>
    obtain ⟨hentry, hrest⟩ := List.forall_mem_cons.mp h
    rw [value?_cons, ih hrest, if_neg fun hboth => hentry hboth.2, Option.or_none]

/-- A variable that is there under one spelling at most has the same value in any case of letters. -/
theorem value?_eq_nonEmpty? {env : Environment} {name : String}
    (h : ((env.map Prod.fst).filter (Text.lower · = Text.lower name)).Sublist [name]) :
    env.value? (Text.lower name) = env.nonEmpty? name := by
  induction env with
  | nil => rfl
  | cons entry rest ih =>
    obtain ⟨key, value⟩ := entry
    rw [value?_cons, nonEmpty?, get?, lookup_entry]
    by_cases hkey : Text.lower key = Text.lower name
    · -- The variable itself, which comes only once.
      rw [List.map_cons, List.filter_cons_of_pos (by simpa using hkey)] at h
      obtain rfl : key = name := List.mem_singleton.mp (h.subset List.mem_cons_self)
      have hnone : (rest.map Prod.fst).filter (Text.lower · = Text.lower key) = [] :=
        List.length_eq_zero_iff.mp (by simpa using h.length_le)
      rw [List.filter_eq_nil_iff] at hnone
      rw [value?_eq_none fun other hother => by simpa using hnone other hother]
      by_cases hvalue : value = "" <;> simp [hvalue, Option.filter_some]
    · have hne : name ≠ key := fun heq => hkey (heq ▸ rfl)
      rw [ih (by simpa [hkey] using h), if_neg hne, if_neg fun hboth => hkey hboth.2,
        Option.or_none]
      rfl

end Environment

namespace Settings

variable {v : View} {env : Environment} {request : SettingsRequest} {s : Settings}
  {config : Option Path}

/-- The paths at which a file with settings is looked for: the one that is asked for, or the one that
a variable names, or else the candidates at a directory and above it. -/
inductive Searched (v : View) (env : Environment) (request : SettingsRequest) : List Path → Prop
  | asked {text : String} (asked : request.configPath.filter (· ≠ "") = some text) :
      Searched v env request [Path.ofText text]
  | named {text : String} (silent : request.configPath.filter (· ≠ "") = none)
      (named : env.nonEmpty? configVariable = some text) : Searched v env request [Path.ofText text]
  | around {start canonical : Path} (silent : request.configPath.filter (· ≠ "") = none)
      (unset : env.nonEmpty? configVariable = none)
      (starts : startOr v (request.baseDir.map Path.ofText) = .ok start)
      (resolves : v.resolve start = .ok canonical) :
      Searched v env request (configCandidates canonical.ancestors)

/-- Neither an argument nor a file decides on the launcher directory. -/
structure Undecided (request : SettingsRequest) (config : Option Path) : Prop where
  unspelled : argument? request.given "base_dir" = none
  silent : request.baseDir = none
  absent : config = none

/-- The nearest launcher directory with a Dockerfile, from the working directory upwards. -/
def NearestLauncher (v : View) (here : Path) (found : Option Path) : Prop :=
  ∃ canonical, v.resolve here = .ok canonical ∧
    Nearest (fun p => v.isFile (p.join dockerfileName))
      (canonical.ancestors.map (·.join launcherName)) found

/-- Where the launcher directory is taken from: an argument, the file with settings, a variable, the
nearest launcher directory, or the working directory. -/
inductive DirectoryFrom (v : View) (env : Environment) (request : SettingsRequest)
    (config : Option Path) : Path → Prop
  | spelled {text : String} (argument : argument? request.given "base_dir" = some (.text text)) :
      DirectoryFrom v env request config (Path.ofText text)
  | asked {text : String} (unspelled : argument? request.given "base_dir" = none)
      (asked : request.baseDir = some text) : DirectoryFrom v env request config (Path.ofText text)
  | beside {file : Path} (unspelled : argument? request.given "base_dir" = none)
      (silent : request.baseDir = none) (found : config = some file) :
      DirectoryFrom v env request config file.parent
  | named {text : String} (undecided : Undecided request config)
      (named : env.nonEmpty? baseDirVariable = some text) :
      DirectoryFrom v env request config (Path.ofText text)
  | nearest {start path : Path} (undecided : Undecided request config)
      (unset : env.nonEmpty? baseDirVariable = none) (starts : v.currentPath = .ok start)
      (nearest : NearestLauncher v start (some path)) : DirectoryFrom v env request config path
  | here {start : Path} (undecided : Undecided request config)
      (unset : env.nonEmpty? baseDirVariable = none) (starts : v.currentPath = .ok start)
      (nowhere : NearestLauncher v start none) : DirectoryFrom v env request config start

/-- The path that is given, if there is a file, and otherwise none. -/
theorem nearest_of_isFile {path : Path} {found : Option Path}
    (h : (do return if ← v.isFile path then some path else none : Except Error (Option Path)) =
      .ok found) : Nearest v.isFile [path] found := by
  obtain ⟨there, hthere, h⟩ := bind_eq_ok h
  obtain rfl := Except.ok.inj h
  cases there with
  | true => exact ⟨[], [], rfl, nofun, hthere⟩
  | false => exact Nearest.cons hthere nofun

theorem searched_of_chooseConfig (h : chooseConfig v env request = .ok config) :
    ∃ paths, Searched v env request paths ∧ Nearest v.isFile paths config := by
  unfold chooseConfig at h
  split at h
  · rename_i text hasked
    exact ⟨_, .asked hasked, nearest_of_isFile h⟩
  · rename_i hsilent
    unfold findConfig at h
    split at h
    · rename_i text hnamed
      exact ⟨_, .named hsilent hnamed, nearest_of_isFile h⟩
    · rename_i hunset
      obtain ⟨start, hstart, h⟩ := bind_eq_ok h
      obtain ⟨levels, hlevels, h⟩ := bind_eq_ok h
      obtain ⟨canonical, hcanonical, rfl⟩ := map_eq_ok hlevels
      exact ⟨_, .around hsilent hunset hstart hcanonical, nearest_of_firstAccepted h⟩

theorem nearestLauncher_of_findLauncherDir {found : Option Path}
    (h : findLauncherDir v none = .ok found) :
    ∃ start, v.currentPath = .ok start ∧ NearestLauncher v start found := by
  obtain ⟨start, hstart, h⟩ := bind_eq_ok h
  obtain ⟨levels, hlevels, h⟩ := bind_eq_ok h
  obtain ⟨canonical, hcanonical, rfl⟩ := map_eq_ok hlevels
  exact ⟨start, hstart, canonical, hcanonical, nearest_of_firstAccepted h⟩

/-- What is merged of a launcher directory where no argument and no document gives one. -/
theorem get?_merged_baseDir {environment : Fields} (henv : environmentFields env = .ok environment)
    (hargument : argument? request.given "base_dir" = none)
    (hname : ((env.map Prod.fst).filter
      (Text.lower · = Text.lower baseDirVariable)).Sublist [baseDirVariable]) :
    ((request.sources env []).merged environment).get? "base_dir" =
      (env.nonEmpty? baseDirVariable).map .text := by
  have harguments : (argumentFields request.given).get? "base_dir" = none :=
    (get?_argumentFields _ (by decide) (by decide)).trans hargument
  have hvariable : environment.get? "base_dir" = (env.nonEmpty? baseDirVariable).map .text := by
    have hlower : variableOf "base_dir" = Text.lower baseDirVariable := by decide +kernel
    rw [← value?_eq_nonEmpty? hname, ← hlower]
    exact get?_environmentFields henv (by decide : "base_dir" ∈ scalarNames)
  have hdocument : (underSourceNames []).get? "base_dir" = none := rfl
  simp only [Sources.merged, SettingsRequest.sources, get?_mergeFields (nodup_argumentFields _),
    get?_mergeFields (nodup_environmentFields henv), harguments, hvariable, hdocument]
  cases env.nonEmpty? baseDirVariable <;> rfl

/-- The path that the launcher directory is read from. -/
theorem directoryFrom_of_namedDir {chosen : Option Path} {document environment : Fields} {path : Path}
    (gathered : Gathered v env request config chosen document environment)
    (hname : ((env.map Prod.fst).filter
      (Text.lower · = Text.lower baseDirVariable)).Sublist [baseDirVariable])
    (h : namedDir v (argumentFields request.given) chosen
      ((request.sources env document).merged environment) = .ok (some path)) :
    DirectoryFrom v env request config path := by
  have harguments : (argumentFields request.given).get? "base_dir" =
      argument? request.given "base_dir" :=
    get?_argumentFields _ (by decide : sourceName "base_dir" ∈ fieldNames) (by decide)
  have hchosen := gathered.directoryChosen
  simp only [namedDir, harguments] at h
  cases hargument : argument? request.given "base_dir" with
  | some value =>
    simp only [hargument, Except.ok.injEq] at h
    cases value <;> simp only [Option.some.injEq, reduceCtorEq] at h
    exact h ▸ .spelled hargument
  | none =>
    simp only [hargument] at h
    unfold chooseBaseDir at hchosen
    split at hchosen
    · rename_i text hasked
      obtain rfl := Except.ok.inj hchosen
      obtain rfl := Option.some.inj (Except.ok.inj h)
      exact .asked hargument hasked
    · rename_i file hsilent
      obtain rfl := Except.ok.inj hchosen
      obtain rfl := Option.some.inj (Except.ok.inj h)
      exact .beside hargument hsilent rfl
    · rename_i hsilent
      have undecided : Undecided request none := ⟨hargument, hsilent, rfl⟩
      obtain rfl := Except.ok.inj gathered.documentRead
      have hmerged := get?_merged_baseDir gathered.environmentRead hargument hname
      cases hvariable : env.nonEmpty? baseDirVariable with
      | some text =>
        simp only [hvariable, Option.isSome_some, if_true, Except.ok.injEq] at hchosen
        subst hchosen
        simp only [hmerged, hvariable, Option.map_some, Except.ok.injEq, Option.some.injEq] at h
        exact h ▸ .named undecided hvariable
      | none =>
        simp only [hvariable, Option.isSome_none, Bool.false_eq_true, if_false] at hchosen
        obtain ⟨start, hstart, hnearest⟩ := nearestLauncher_of_findLauncherDir hchosen
        cases chosen with
        | some found =>
          obtain rfl := Option.some.inj (Except.ok.inj h)
          exact .nearest undecided hvariable hstart hnearest
        | none =>
          simp only [hmerged, hvariable, Option.map_none, hstart, map_ok, Except.ok.injEq,
            Option.some.injEq] at h
          exact h ▸ .here undecided hvariable hstart hnearest

/-- Settings that come about are read from the nearest of the files that are looked for, and their
launcher directory is that of the first source of one. What the environment or the file itself says
of files with settings has no part in this. -/
theorem assemble_selects (h : assemble v env request = .ok s)
    (hname : ((env.map Prod.fst).filter
      (Text.lower · = Text.lower baseDirVariable)).Sublist [baseDirVariable]) :
    ∃ paths path document environment,
      Searched v env request paths ∧ Nearest v.isFile paths s.configPath ∧
      readDocument? v s.configPath = .ok document ∧ environmentFields env = .ok environment ∧
      MadeOf (.valid s.baseDir) s.configPath ((request.sources env document).merged environment) s ∧
      DirectoryFrom v env request s.configPath path ∧ launcherDir v env path = .ok s.baseDir := by
  obtain ⟨config, chosen, document, environment, baseDir, gathered, hbaseDir, made⟩ :=
    assemble_eq_ok.mp h
  obtain rfl := made.configPath
  obtain rfl := made.baseDir
  obtain ⟨paths, hsearched, hnearest⟩ := searched_of_chooseConfig gathered.configChosen
  obtain ⟨path, hpath, hdirectory⟩ := baseDirOf_eq_valid.mp hbaseDir
  exact ⟨paths, path, document, environment, hsearched, hnearest, gathered.documentRead,
    gathered.environmentRead, made, directoryFrom_of_namedDir gathered hname hpath, hdirectory⟩

/-- A file with settings that names another file and another directory, seen from below. -/
def namingView : View :=
  let document := "image = 'own'\nconfig_path = '/x.toml'\nbase_dir = '/x'\n"
  ⟨⟨[(["p"], .directory), (["p", ".dev"], .directory),
    (["p", ".dev", "reth-build.toml"], .file document.toUTF8.toList), (["p", "q"], .directory),
    (["p", "q", ".dev"], .directory), (["p", "q", ".dev", "Dockerfile"], .file [])]⟩,
    some ["p", "q"]⟩

def namingVariables : Environment := [("RETH_BUILD_BASE_DIR", "/p/q"), ("RETH_BUILD_CONFIG", "")]

theorem assemble_selects_near :
    ((namingVariables.map Prod.fst).filter
        (Text.lower · = Text.lower baseDirVariable)).Sublist [baseDirVariable] ∧
      ∃ s paths path, assemble namingView namingVariables ⟨some "", none, []⟩ = .ok s ∧
        (s.configPath.map Path.text, s.baseDir.text, s.image) =
          (some "/p/.dev/reth-build.toml", "/p/.dev", "own") ∧
        Searched namingView namingVariables ⟨some "", none, []⟩ paths ∧
        Nearest namingView.isFile paths s.configPath ∧
        DirectoryFrom namingView namingVariables ⟨some "", none, []⟩ s.configPath path ∧
        launcherDir namingView namingVariables path = .ok s.baseDir := by
  have hname : ((namingVariables.map Prod.fst).filter
      (Text.lower · = Text.lower baseDirVariable)).Sublist [baseDirVariable] := by
    decide +kernel
  obtain ⟨s, hs, hshape⟩ : ∃ s,
      assemble namingView namingVariables ⟨some "", none, []⟩ = .ok s ∧
        (s.configPath.map Path.text, s.baseDir.text, s.image) =
          (some "/p/.dev/reth-build.toml", "/p/.dev", "own") :=
    toOption_map_eq_some (by decide +kernel)
  obtain ⟨paths, path, -, -, hsearched, hnearest, -, -, -, hfrom, hdirectory⟩ :=
    assemble_selects hs hname
  exact ⟨hname, s, paths, path, hs, hshape, hsearched, hnearest, hfrom, hdirectory⟩

/-- An argument whose name is spelled in other letters comes before the launcher directory that is
asked for. -/
theorem assemble_spelled_otherwise :
    launcherDir ⟨⟨[]⟩, some []⟩ [] (Path.ofText "asked") = .ok (Path.ofText "/asked") ∧
      (assemble ⟨⟨[]⟩, some []⟩ [] ⟨none, some "asked", [("BASE_DIR", .text "spelled")]⟩).toOption.map
        (·.baseDir) = some (Path.ofText "/spelled") := by
  decide +kernel

end Settings
end BuildLauncher
