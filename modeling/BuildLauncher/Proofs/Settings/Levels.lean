import BuildLauncher.Proofs.Files.Ancestors
import BuildLauncher.Proofs.Settings.Discovery

/-!
# Level by level

Both searches for the launcher look at the levels from the start up to the root, the deepest first,
and what is found is what there is at the deepest level with anything (`searches_exhaustive`). A path
that is too long to be looked at ends the search, whatever there is above it (`findConfig_tooDeep`).
-/
namespace BuildLauncher

open Checking Files Environment

section Search

variable {test : Path → Except Error Bool} {paths rest way : List Path}
  {candidates : Path → List Path} {outcome : Except Error (Option Path)}

theorem firstAccepted_nil (test : Path → Except Error Bool) : firstAccepted test [] = .ok none :=
  rfl

theorem firstAccepted_eq_none_iff :
    firstAccepted test paths = .ok none ↔ ∀ p ∈ paths, test p = .ok false := by
  refine ⟨nearest_of_firstAccepted, fun h => ?_⟩
  induction paths with
  | nil => rfl
  | cons path rest ih =>
    obtain ⟨hpath, hrest⟩ := List.forall_mem_cons.mp h
    rw [firstAccepted_cons_of_not hpath, ih hrest]

/-- A path is found first, or refused and another one found after it. -/
theorem firstAccepted_cons_eq_some {path p : Path} :
    firstAccepted test (path :: rest) = .ok (some p) ↔
      test path = .ok true ∧ path = p ∨
        test path = .ok false ∧ firstAccepted test rest = .ok (some p) := by
  rw [firstAccepted]
  cases test path with
  | error e => simp
  | ok accepted => cases accepted <;> simp

theorem firstAccepted_cons_eq_error {path : Path} {e : Error} :
    firstAccepted test (path :: rest) = .error e ↔
      test path = .error e ∨ test path = .ok false ∧ firstAccepted test rest = .error e := by
  rw [firstAccepted]
  cases test path with
  | error e => simp
  | ok accepted => cases accepted <;> simp

theorem firstAccepted_append (test : Path → Except Error Bool) (paths rest : List Path) :
    firstAccepted test (paths ++ rest) =
      (firstAccepted test paths).bind fun found =>
        if found.isSome then .ok found else firstAccepted test rest := by
  induction paths with
  | nil => rfl
  | cons path more ih =>
    rw [List.cons_append, firstAccepted, firstAccepted]
    cases test path with
    | error e => rfl
    | ok accepted =>
      cases accepted with
      | true => rfl
      | false => exact ih

theorem firstAccepted_append_of_none (h : ∀ p ∈ paths, test p = .ok false) :
    firstAccepted test (paths ++ rest) = firstAccepted test rest := by
  rw [firstAccepted_append, firstAccepted_eq_none_iff.mpr h]
  rfl

/-- The search ends where anything comes of it. -/
theorem firstAccepted_append_of_ne (h : firstAccepted test paths ≠ .ok none) :
    firstAccepted test (paths ++ rest) = firstAccepted test paths := by
  rw [firstAccepted_append]
  cases hfound : firstAccepted test paths with
  | error e => rfl
  | ok found =>
    cases found with
    | none => exact absurd hfound h
    | some p => rfl

/-- The deepest level with anything: below it there is nothing. -/
structure Deepest (way : List Path) (nothing here : Path → Prop) (level : Path) : Prop where
  mem : level ∈ way
  here : here level
  below : ∀ deeper ∈ way, level.names.length < deeper.names.length → nothing deeper

/-- What comes of a search over levels with the deepest first comes of the deepest level with
anything. -/
theorem firstAccepted_flatMap_iff
    (hdescends : way.Pairwise fun p q => q.names.length < p.names.length)
    (houtcome : outcome ≠ .ok none) :
    firstAccepted test (way.flatMap candidates) = outcome ↔
      ∃ level, Deepest way (fun p => ∀ c ∈ candidates p, test c = .ok false)
        (fun p => firstAccepted test (candidates p) = outcome) level := by
  induction way with
  | nil => exact ⟨fun h => absurd h.symm houtcome, fun ⟨level, h⟩ => absurd h.mem (by simp)⟩
  | cons top above ih =>
    obtain ⟨htop, habove⟩ := List.pairwise_cons.mp hdescends
    rw [List.flatMap_cons]
    by_cases hnothing : ∀ c ∈ candidates top, test c = .ok false
    · -- Nothing at the first level, so the search is the one from the level above.
      rw [firstAccepted_append_of_none hnothing, ih habove]
      constructor
      · rintro ⟨level, hmem, hhere, hbelow⟩
        refine ⟨level, List.mem_cons_of_mem _ hmem, hhere, fun p hp hdeeper => ?_⟩
        obtain rfl | hp := List.mem_cons.mp hp
        · exact hnothing
        · exact hbelow p hp hdeeper
      · rintro ⟨level, hmem, hhere, hbelow⟩
        have hne : level ≠ top := by
          rintro rfl
          exact houtcome (hhere.symm.trans (firstAccepted_eq_none_iff.mpr hnothing))
        exact ⟨level, (List.mem_cons.mp hmem).resolve_left hne, hhere,
          fun p hp => hbelow p (List.mem_cons_of_mem _ hp)⟩
    · -- The search ends at the first level, which is the deepest.
      rw [firstAccepted_append_of_ne fun hnone => hnothing (firstAccepted_eq_none_iff.mp hnone)]
      constructor
      · refine fun hhere => ⟨top, List.mem_cons_self, hhere, fun p hp hdeeper => ?_⟩
        obtain rfl | hp := List.mem_cons.mp hp
        · exact absurd hdeeper (lt_irrefl _)
        · exact absurd hdeeper (htop p hp).not_gt
      · rintro ⟨level, hmem, hhere, hbelow⟩
        obtain rfl | hlevel := List.mem_cons.mp hmem
        · exact hhere
        · exact absurd (hbelow top List.mem_cons_self (htop level hlevel)) hnothing

/-- What comes of a search over levels: a path at the deepest level with one, nothing if there is
nothing at any level, or an error where a candidate cannot be looked at. -/
structure FindsDeepest (way : List Path) (found : Except Error (Option Path))
    (nothing : Path → Prop) (here : Path → Path → Prop) (unasked : Path → Error → Prop) : Prop where
  none_iff : found = .ok none ↔ ∀ level ∈ way, nothing level
  some_iff : ∀ p, found = .ok (some p) ↔ ∃ level, Deepest way nothing (here · p) level
  error_iff : ∀ e, found = .error e ↔ ∃ level, Deepest way nothing (unasked · e) level

variable {nothing : Path → Prop} {here : Path → Path → Prop} {unasked : Path → Error → Prop}

/-- A search over levels is known from what the search at one level alone comes to. -/
theorem findsDeepest (hdescends : way.Pairwise fun p q => q.names.length < p.names.length)
    (hnothing : ∀ level, (∀ c ∈ candidates level, test c = .ok false) ↔ nothing level)
    (hhere : ∀ level p, firstAccepted test (candidates level) = .ok (some p) ↔ here level p)
    (hunasked : ∀ level e, firstAccepted test (candidates level) = .error e ↔ unasked level e) :
    FindsDeepest way (firstAccepted test (way.flatMap candidates)) nothing here unasked where
  none_iff := by
    simp only [firstAccepted_eq_none_iff, List.forall_mem_flatMap, hnothing]
  some_iff p := by
    have hfound : (.ok (some p) : Except Error (Option Path)) ≠ .ok none := by simp
    simp only [firstAccepted_flatMap_iff hdescends hfound, hnothing, hhere]
  error_iff e := by
    have hfailed : (.error e : Except Error (Option Path)) ≠ .ok none := nofun
    simp only [firstAccepted_flatMap_iff hdescends hfailed, hnothing, hunasked]

/-- A search that meets no candidate that cannot be looked at comes to an end. -/
theorem FindsDeepest.exists_ok {found : Except Error (Option Path)}
    (h : FindsDeepest way found nothing here unasked)
    (hasked : ∀ level ∈ way, ∀ e, ¬unasked level e) : ∃ outcome, found = .ok outcome := by
  cases hfound : found with
  | ok outcome => exact ⟨outcome, rfl⟩
  | error e =>
    obtain ⟨level, hlevel⟩ := (h.error_iff e).mp hfound
    exact absurd hlevel.here (hasked level hlevel.mem e)

end Search

namespace Settings

variable {v : View} {env : Environment} {level p q r : Path} {e : Error}

/-- There is no file with settings at a level, neither of its own nor in the launcher directory. -/
structure NoConfigAt (v : View) (level : Path) : Prop where
  own : v.isFile (level.join configName) = .ok false
  nested : v.isFile (configOf level) = .ok false

/-- The file with settings at a level. Its own comes before the one in the launcher directory. -/
inductive ConfigAt (v : View) (level : Path) : Path → Prop
  | own (file : v.isFile (level.join configName) = .ok true) :
      ConfigAt v level (level.join configName)
  | nested (none : v.isFile (level.join configName) = .ok false)
      (file : v.isFile (configOf level) = .ok true) : ConfigAt v level (configOf level)

/-- A file with settings at a level that cannot be looked for, since its path is too long. -/
inductive ConfigUnasked (v : View) (level : Path) : Error → Prop
  | own (long : v.tooLong (level.join configName) = true) :
      ConfigUnasked v level (longName (level.join configName))
  | nested (none : v.isFile (level.join configName) = .ok false)
      (long : v.tooLong (configOf level) = true) : ConfigUnasked v level (longName (configOf level))

def NoLauncherAt (v : View) (level : Path) : Prop := v.isFile (dockerfileOf level) = .ok false

/-- The launcher directory of a level has a recipe. One beside it does not count. -/
inductive LauncherAt (v : View) (level : Path) : Path → Prop
  | nested (file : v.isFile (dockerfileOf level) = .ok true) :
      LauncherAt v level (level.join launcherName)

inductive LauncherUnasked (v : View) (level : Path) : Error → Prop
  | nested (long : v.tooLong (dockerfileOf level) = true) :
      LauncherUnasked v level (longName (dockerfileOf level))

theorem configAt_iff :
    firstAccepted v.isFile [level.join configName, configOf level] = .ok (some p) ↔
      ConfigAt v level p := by
  simp only [firstAccepted_cons_eq_some, firstAccepted_nil, Except.ok.injEq, reduceCtorEq,
    and_false, or_false]
  constructor
  · rintro (⟨hown, rfl⟩ | ⟨hown, hnested, rfl⟩)
    · exact .own hown
    · exact .nested hown hnested
  · rintro (hown | ⟨hown, hnested⟩)
    · exact .inl ⟨hown, rfl⟩
    · exact .inr ⟨hown, hnested, rfl⟩

theorem configUnasked_iff :
    firstAccepted v.isFile [level.join configName, configOf level] = .error e ↔
      ConfigUnasked v level e := by
  simp only [firstAccepted_cons_eq_error, firstAccepted_nil, View.isFile_eq_error, reduceCtorEq,
    and_false, or_false]
  constructor
  · rintro (⟨hlong, rfl⟩ | ⟨hown, hlong, rfl⟩)
    · exact .own hlong
    · exact .nested hown hlong
  · rintro (hlong | ⟨hown, hlong⟩)
    · exact .inl ⟨hlong, rfl⟩
    · exact .inr ⟨hown, hlong, rfl⟩

theorem noConfigAt_iff :
    (∀ c ∈ [level.join configName, configOf level], v.isFile c = .ok false) ↔
      NoConfigAt v level := by
  simp only [List.forall_mem_cons, List.not_mem_nil, false_imp_iff, implies_true, and_true]
  exact ⟨fun ⟨hown, hnested⟩ => ⟨hown, hnested⟩, fun h => ⟨h.own, h.nested⟩⟩

/-- The search for a file with settings from a start. -/
theorem findConfig_eq {start : Option Path} (hstart : startOr v start = .ok p)
    (hr : v.resolve p = .ok r) (hunset : env.nonEmpty? configVariable = none) :
    findConfig v env start = firstAccepted v.isFile (configCandidates r.ancestors) := by
  simp only [findConfig, hunset, hstart, levels, hr, ok_bind, map_ok]

theorem findLauncherDir_eq {start : Option Path} (hstart : startOr v start = .ok p)
    (hr : v.resolve p = .ok r) :
    findLauncherDir v start = firstAccepted (fun q => v.isFile (q.join dockerfileName))
      (r.ancestors.flatMap fun level => [level.join launcherName]) := by
  simp only [findLauncherDir, hstart, levels, hr, ok_bind, map_ok, List.map_eq_flatMap]

theorem findsDeepest_config (r : Path) :
    FindsDeepest r.ancestors (firstAccepted v.isFile (configCandidates r.ancestors)) (NoConfigAt v)
      (ConfigAt v) (ConfigUnasked v) :=
  findsDeepest (Path.pairwise_ancestors r) (fun _ => noConfigAt_iff) (fun _ _ => configAt_iff)
    fun _ _ => configUnasked_iff

theorem findsDeepest_launcher (r : Path) :
    FindsDeepest r.ancestors
      (firstAccepted (fun q => v.isFile (q.join dockerfileName))
        (r.ancestors.flatMap fun level => [level.join launcherName]))
      (NoLauncherAt v) (LauncherAt v) (LauncherUnasked v) := by
  refine findsDeepest (Path.pairwise_ancestors r) (fun level => ?_) (fun level p => ?_)
    fun level e => ?_
  · exact List.forall_mem_singleton
  · simp only [firstAccepted_cons_eq_some, firstAccepted_nil, Except.ok.injEq, reduceCtorEq,
      and_false, or_false]
    exact ⟨fun ⟨hfile, heq⟩ => heq ▸ .nested hfile, fun ⟨hfile⟩ => ⟨hfile, rfl⟩⟩
  · simp only [firstAccepted_cons_eq_error, firstAccepted_nil, View.isFile_eq_error, reduceCtorEq,
      and_false, or_false]
    exact ⟨fun ⟨hlong, heq⟩ => heq ▸ .nested hlong, fun ⟨hlong⟩ => ⟨hlong, rfl⟩⟩

/-- All files with settings on a way can be looked for. -/
def ConfigsNameable (v : View) (way : List Path) : Prop :=
  ∀ level ∈ way, v.tooLong (level.join configName) = false ∧ v.tooLong (configOf level) = false

def LaunchersNameable (v : View) (way : List Path) : Prop :=
  ∀ level ∈ way, v.tooLong (dockerfileOf level) = false

/-- What can be looked for is a file or is none. -/
theorem isFile_eq_false (hshort : v.tooLong p = false) (hnone : v.isFile p ≠ .ok true) :
    v.isFile p = .ok false := by
  cases hp : v.isFile p with
  | error e =>
    have hlong := (View.isFile_eq_error.mp hp).1
    rw [hshort] at hlong
    contradiction
  | ok accepted =>
    cases accepted with
    | true => exact absurd hp hnone
    | false => rfl

theorem noConfigAt_of_nameable {way : List Path} (hnames : ConfigsNameable v way)
    (hlevel : level ∈ way) : NoConfigAt v level ↔
      v.isFile (level.join configName) ≠ .ok true ∧ v.isFile (configOf level) ≠ .ok true := by
  constructor
  · rintro ⟨hown, hnested⟩
    simp [hown, hnested]
  · rintro ⟨hown, hnested⟩
    exact ⟨isFile_eq_false (hnames level hlevel).1 hown,
      isFile_eq_false (hnames level hlevel).2 hnested⟩

theorem ConfigsNameable.not_unasked {way : List Path} (hnames : ConfigsNameable v way)
    (hlevel : level ∈ way) : ¬ConfigUnasked v level e := by
  rintro (hlong | ⟨-, hlong⟩)
  · simp [(hnames level hlevel).1] at hlong
  · simp [(hnames level hlevel).2] at hlong

/-- The searches look at all levels from the start up to the root, at the deepest first. -/
theorem searches_exhaustive {start : Option Path} (hstart : startOr v start = .ok p)
    (hr : v.resolve p = .ok r) (hunset : env.nonEmpty? configVariable = none) :
    levels v p = .ok r.ancestors ∧ r.IsWayUp r.ancestors ∧
    FindsDeepest r.ancestors (findConfig v env start) (NoConfigAt v) (ConfigAt v) (ConfigUnasked v) ∧
    FindsDeepest r.ancestors (findLauncherDir v start) (NoLauncherAt v) (LauncherAt v)
      (LauncherUnasked v) ∧
    (ConfigsNameable v r.ancestors → (∃ found, findConfig v env start = .ok found) ∧
      (findConfig v env start = .ok none ↔ ∀ level ∈ r.ancestors,
        v.isFile (level.join configName) ≠ .ok true ∧ v.isFile (configOf level) ≠ .ok true)) ∧
    (LaunchersNameable v r.ancestors → (∃ found, findLauncherDir v start = .ok found) ∧
      (findLauncherDir v start = .ok none ↔
        ∀ level ∈ r.ancestors, v.isFile (dockerfileOf level) ≠ .ok true)) ∧
    ∀ (below : Option Path) (q s : Path), startOr v below = .ok q → v.resolve q = .ok s →
      r ∈ s.ancestors →
      ((∀ level ∈ s.ancestors, level ∉ r.ancestors → NoConfigAt v level) →
        findConfig v env below = findConfig v env start) ∧
      ((∀ level ∈ s.ancestors, level ∉ r.ancestors → NoLauncherAt v level) →
        findLauncherDir v below = findLauncherDir v start) := by
  have hconfig := findConfig_eq hstart hr hunset
  have hlauncher := findLauncherDir_eq hstart hr
  have hconfigs := hconfig ▸ findsDeepest_config (v := v) r
  have hlaunchers := hlauncher ▸ findsDeepest_launcher (v := v) r
  refine ⟨by rw [levels, hr, map_ok], Path.isWayUp_ancestors r, hconfigs, hlaunchers,
    fun hnames => ⟨?_, ?_⟩, fun hnames => ⟨?_, ?_⟩, fun below q s hbelow hs hmem => ?_⟩
  · exact hconfigs.exists_ok fun level hlevel e => hnames.not_unasked hlevel
  · exact hconfigs.none_iff.trans
      (forall₂_congr fun level hlevel => noConfigAt_of_nameable hnames hlevel)
  · refine hlaunchers.exists_ok fun level hlevel e hlong => ?_
    obtain ⟨hlong⟩ := hlong
    simp [hnames level hlevel] at hlong
  · refine hlaunchers.none_iff.trans (forall₂_congr fun level hlevel => ⟨fun hnone => ?_, ?_⟩)
    · simp [show v.isFile (dockerfileOf level) = .ok false from hnone]
    · exact isFile_eq_false (hnames level hlevel)
  · -- Below the first start nothing is found, and from there on the two ways are the same.
    obtain ⟨lower, hlower, hnot⟩ := Path.exists_ancestors_append hmem
    have hlevel (level : Path) (h : level ∈ lower) : level ∈ s.ancestors ∧ level ∉ r.ancestors :=
      ⟨hlower ▸ List.mem_append_left _ h, hnot level h⟩
    constructor
    · intro hnone
      rw [findConfig_eq hbelow hs hunset, hconfig, hlower, configCandidates, List.flatMap_append]
      refine firstAccepted_append_of_none (List.forall_mem_flatMap.mpr fun level h => ?_)
      exact noConfigAt_iff.mpr (hnone level (hlevel level h).1 (hlevel level h).2)
    · intro hnone
      rw [findLauncherDir_eq hbelow hs, hlauncher, hlower, List.flatMap_append]
      refine firstAccepted_append_of_none (List.forall_mem_flatMap.mpr fun level h => ?_)
      exact List.forall_mem_singleton.mpr (hnone level (hlevel level h).1 (hlevel level h).2)

/-- A directory with a file with settings, one more in its launcher directory, and a link to a
directory below it. -/
def levelsView : View :=
  ⟨⟨[(["w"], .directory), (["w", "reth-build.toml"], .file []), (["w", "Dockerfile"], .file []),
    (["w", ".dev"], .directory), (["w", ".dev", "reth-build.toml"], .file []),
    (["w", ".dev", "Dockerfile"], .file []), (["w", "a"], .directory),
    (["link"], .link "w/a")]⟩, some []⟩

theorem searches_exhaustive_fromLink :
    levelsView.resolve (Path.ofText "/link") = .ok (Path.ofText "/w/a") ∧
    (∃ level, Deepest (Path.ofText "/w/a").ancestors (NoConfigAt levelsView)
      (ConfigAt levelsView · (Path.ofText "/w/reth-build.toml")) level) ∧
    (∃ level, Deepest (Path.ofText "/w/a").ancestors (NoLauncherAt levelsView)
      (LauncherAt levelsView · (Path.ofText "/w/.dev")) level) := by
  have hr : levelsView.resolve (Path.ofText "/link") = .ok (Path.ofText "/w/a") := by decide +kernel
  have hstart : startOr levelsView (some (Path.ofText "/link")) = .ok (Path.ofText "/link") := rfl
  have hunset : nonEmpty? [] configVariable = none := rfl
  obtain ⟨-, -, hconfigs, hlaunchers, -⟩ := searches_exhaustive hstart hr hunset
  exact ⟨hr, (hconfigs.some_iff _).mp (by decide +kernel),
    (hlaunchers.some_iff _).mp (by decide +kernel)⟩

theorem utf8ByteSize_deepDirectory :
    ((deepDirectory 16).join configName).text.utf8ByteSize = textLimit := by
  rw [Path.text_of_root rfl, String.utf8ByteSize_append, Path.utf8ByteSize_intercalate,
    Path.names_join (by decide), names_configName, deepDirectory]
  simp only [List.map_append, List.map_replicate, utf8ByteSize_longWord, List.sum_append,
    List.sum_replicate_nat, List.length_append, List.length_replicate]
  rfl

/-- From a deep directory the search fails, though there is a file with settings above it. -/
theorem findConfig_tooDeep :
    startOr ⟨deepTree 16, some (deepDirectory 16).names⟩ none = .ok (deepDirectory 16) ∧
    (View.mk (deepTree 16) (some (deepDirectory 16).names)).resolve (deepDirectory 16) =
      .ok (deepDirectory 16) ∧
    .root ∈ (deepDirectory 16).ancestors ∧
    (View.mk (deepTree 16) (some (deepDirectory 16).names)).isFile (configOf .root) = .ok true ∧
    findConfig ⟨deepTree 16, some (deepDirectory 16).names⟩ [] none =
      .error (longName ((deepDirectory 16).join configName)) := by
  have hheld : (deepTree 16).Holds (deepDirectory 16) := holds_deepDirectory (le_refl 16)
  have hlong := hheld.isFile_long (q := configName) (d := none) (by decide) (by decide)
    utf8ByteSize_deepDirectory.ge
  obtain ⟨above, habove⟩ := exists_ancestors_eq_cons (deepDirectory 16)
  refine ⟨hheld.currentPath, hheld.resolve, (within_deepDirectory (le_refl 16)).below, ?_, ?_⟩
  · decide +kernel
  · rw [findConfig_held hheld rfl, configFrom, habove, configCandidates, List.flatMap_cons,
      List.cons_append, firstAccepted, hlong]

end Settings

end BuildLauncher
