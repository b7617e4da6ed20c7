import BuildLauncher.Proofs.Files.Held
import BuildLauncher.Proofs.Settings.Selection

/-!
# Anywhere in a checkout

From all directories of a checkout the launcher has the same settings, or fails alike
(`assemble_anywhere`). Only from one that lies so deep that the files to look for there have too
long a path it cannot even look for them (`assemble_tooDeep`).
-/
namespace BuildLauncher

open Checking Files Environment

theorem firstAccepted_congr {test other : Path → Except Error Bool} {paths : List Path}
    (h : ∀ p ∈ paths, test p = other p) : firstAccepted test paths = firstAccepted other paths := by
  induction paths with
  | nil => rfl
  | cons path rest ih =>
    obtain ⟨hpath, hrest⟩ := List.forall_mem_cons.mp h
    rw [firstAccepted, firstAccepted, hpath, ih hrest]

theorem firstAccepted_cons_of_not {test : Path → Except Error Bool} {p : Path} {rest : List Path}
    (h : test p = .ok false) : firstAccepted test (p :: rest) = firstAccepted test rest := by
  rw [firstAccepted, h]

/-- What comes after a path counts only if the path is refused. -/
theorem firstAccepted_cons_congr {test : Path → Except Error Bool} {p : Path}
    {rest others : List Path}
    (h : test p = .ok false → firstAccepted test rest = firstAccepted test others) :
    firstAccepted test (p :: rest) = firstAccepted test (p :: others) := by
  rw [firstAccepted, firstAccepted]
  cases hp : test p with
  | error e => rfl
  | ok accepted =>
    cases accepted with
    | true => rfl
    | false => exact h hp

namespace Settings

variable {t : Tree} {c d : Path} {env : Environment}

/-- The file with settings in the launcher directory of a checkout. -/
def configOf (c : Path) : Path := (c.join launcherName).join configName

/-- The recipe of the image in the launcher directory of a checkout. -/
def dockerfileOf (c : Path) : Path := (c.join launcherName).join dockerfileName

/-- A directory of the tree at another one or below it. -/
structure Within (t : Tree) (c d : Path) : Prop where
  held : t.Holds d
  below : c ∈ d.ancestors

/-- A checkout with a launcher directory. Below it there is no other one, and files with settings
are in the launcher directory only. -/
structure Checkout (t : Tree) (c : Path) : Prop where
  held : t.Holds c
  launcher : t.get? (c.join launcherName).names = some .directory
  marked : (View.mk t none).isFile (configOf c) = .ok true ∨
    (View.mk t none).isFile (dockerfileOf c) = .ok true
  /-- No file with settings lies beside the launcher directory. -/
  bare : t.get? (c.join configName).names = none
  plain : ∀ d, Within t c d → d ≠ c → d ≠ c.join launcherName →
    t.get? (d.join configName).names = none
  single : ∀ d, Within t c d → d ≠ c → t.get? (d.join launcherName).names = none

/-- Can all files be asked for that are looked for in a directory? -/
def Shallow (d : Path) : Prop := (configOf d).text.utf8ByteSize < textLimit

instance (d : Path) : Decidable (Shallow d) := inferInstanceAs (Decidable (_ < _))

theorem names_configName : configName.names = ["reth-build.toml"] := by decide

theorem names_launcherName : launcherName.names = [".dev"] := by decide

theorem names_join_launcherName (c : Path) : (c.join launcherName).names = c.names ++ [".dev"] := by
  rw [Path.names_join (by decide), names_launcherName]

theorem parent_join {name : Path} (c : Path) (hname : name.anchor = .here)
    (hone : name.names.length = 1) : (c.join name).parent = c := by
  obtain ⟨last, hlast⟩ := List.length_eq_one_iff.mp hone
  refine Files.Path.ext (Path.anchor_join hname) ?_
  change (c.join name).names.dropLast = c.names
  rw [Path.names_join hname, hlast, List.dropLast_concat]

theorem parent_join_launcherName (c : Path) : (c.join launcherName).parent = c :=
  parent_join c (by decide) (by decide)

theorem parent_configOf (c : Path) : (configOf c).parent = c.join launcherName :=
  parent_join _ (by decide) (by decide)

namespace Within

theorem names_ne_nil (h : Within t c d) (hne : d ≠ c) : d.names ≠ [] := by
  obtain ⟨hanchor, hprefix⟩ := Path.mem_ancestors.mp h.below
  intro hnil
  rw [hnil, List.prefix_nil] at hprefix
  exact hne (Files.Path.ext hanchor.symm (hnil.trans hprefix.symm))

theorem ancestors_eq (h : Within t c d) (hne : d ≠ c) : d.ancestors = d :: d.parent.ancestors :=
  Path.ancestors_eq_cons (h.names_ne_nil hne)

theorem parent (h : Within t c d) (hne : d ≠ c) : Within t c d.parent := by
  have hbelow := h.below
  rw [h.ancestors_eq hne] at hbelow
  refine ⟨h.held.of_mem_ancestors ?_, (List.mem_cons.mp hbelow).resolve_left (Ne.symm hne)⟩
  exact Path.ancestors_parent_subset d (Path.mem_ancestors_self _)

end Within

theorem Shallow.parent (h : Shallow d) (hd : t.Holds d) : Shallow d.parent := by
  have hle := Path.utf8ByteSize_join_parent_le (q := launcherName.join configName) hd.root
    (by decide)
  rw [← Path.join_join, ← Path.join_join] at hle
  exact hle.trans_lt h

/-- What is the same in each directory and the one above it is the same in a whole checkout. -/
theorem Within.eq_above {α : Type} {f : Path → α}
    (hstep : ∀ d, Within t c d → d ≠ c → Shallow d → f d = f d.parent) (h : Within t c d)
    (hshallow : Shallow d) : f d = f c := by
  induction hn : d.names.length generalizing d with
  | zero =>
    by_contra hne
    exact h.names_ne_nil (fun heq => hne (heq ▸ rfl)) (List.length_eq_zero_iff.mp hn)
  | succ n ih =>
    by_cases heq : d = c
    · rw [heq]
    · rw [hstep d h heq hshallow]
      refine ih (h.parent heq) (hshallow.parent h.held) ?_
      simp [Path.parent, hn]

section Searching

/-- The search for a file with settings from a directory upwards. -/
def configFrom (t : Tree) (d : Path) : Except Error (Option Path) :=
  firstAccepted (View.mk t none).isFile (configCandidates d.ancestors)

/-- The search for a launcher directory from a directory upwards. -/
def launcherFrom (t : Tree) (d : Path) : Except Error (Option Path) :=
  firstAccepted (fun p => (View.mk t none).isFile (p.join dockerfileName))
    (d.ancestors.map (·.join launcherName))

theorem Shallow.plain (h : Shallow d) (hd : t.Holds d) :
    (d.join configName).text.utf8ByteSize < textLimit := by
  have hle := Path.utf8ByteSize_join_le (q := configName) (r := launcherName.join configName)
    hd.root (by decide) (by decide) (by decide) (by decide +kernel)
  rw [← Path.join_join] at hle
  exact hle.trans_lt h

theorem Shallow.dockerfile (h : Shallow d) (hd : t.Holds d) :
    (dockerfileOf d).text.utf8ByteSize < textLimit := by
  have hle := Path.utf8ByteSize_join_le (q := launcherName.join dockerfileName)
    (r := launcherName.join configName) hd.root (by decide) (by decide) (by decide)
    (by decide +kernel)
  rw [← Path.join_join, ← Path.join_join] at hle
  exact hle.trans_lt h

theorem isFile_plain (hd : t.Holds d) (hshallow : Shallow d)
    (habsent : t.get? (d.join configName).names = none) :
    (View.mk t none).isFile (d.join configName) = .ok false := by
  rw [Path.names_join (by decide), names_configName] at habsent
  exact hd.isFile_absent (by decide) names_configName (by decide) habsent (hshallow.plain hd)

/-- Where there is no launcher directory there is no file in it. -/
theorem isFile_nested {file : Path} (hd : t.Holds d) (hfile : file.anchor = .here)
    (habsent : t.get? (d.join launcherName).names = none)
    (hroom : ((d.join launcherName).join file).text.utf8ByteSize < textLimit) :
    (View.mk t none).isFile ((d.join launcherName).join file) = .ok false := by
  have hnames : (launcherName.join file).names = ".dev" :: file.names := by
    rw [Path.names_join hfile, names_launcherName, List.singleton_append]
  rw [names_join_launcherName] at habsent
  rw [Path.join_join] at hroom ⊢
  exact hd.isFile_absent (Path.anchor_join hfile) hnames (by decide) habsent hroom

theorem exists_ancestors_eq_cons (p : Path) : ∃ above, p.ancestors = p :: above := by
  by_cases hnil : p.names = []
  · obtain ⟨anchor, names, isName⟩ := p
    obtain rfl : names = [] := hnil
    exact ⟨[], rfl⟩
  · exact ⟨_, Path.ancestors_eq_cons hnil⟩

/-- In the checkout itself the launcher directory decides first. -/
theorem Checkout.configFrom_self (h : Checkout t c) (hshallow : Shallow c) :
    ∃ above, configFrom t c = firstAccepted (View.mk t none).isFile (configOf c :: above) := by
  obtain ⟨above, habove⟩ := exists_ancestors_eq_cons c
  refine ⟨configCandidates above, ?_⟩
  rw [configFrom, habove, configCandidates, List.flatMap_cons, List.cons_append, firstAccepted,
    isFile_plain h.held hshallow h.bare]
  rfl

/-- The search in a checkout goes on one level above. In the launcher directory it meets the file
that is looked for from the checkout as well. -/
theorem Checkout.configFrom_step (h : Checkout t c) (hd : Within t c d) (hne : d ≠ c)
    (hshallow : Shallow d) : configFrom t d = configFrom t d.parent := by
  have hnested : (View.mk t none).isFile (configOf d) = .ok false :=
    isFile_nested hd.held (by decide) (h.single d hd hne) hshallow
  have hbefore : configFrom t d = firstAccepted (View.mk t none).isFile
      (d.join configName :: configOf d :: configCandidates d.parent.ancestors) := by
    rw [configFrom, hd.ancestors_eq hne]
    rfl
  rw [hbefore]
  by_cases hlauncher : d = c.join launcherName
  · have hc : d.parent = c := by rw [hlauncher, parent_join_launcherName]
    have hsame : d.join configName = configOf c := by rw [hlauncher, configOf]
    obtain ⟨above, habove⟩ := h.configFrom_self (hc ▸ hshallow.parent hd.held)
    rw [hc, hsame, habove]
    refine firstAccepted_cons_congr fun hfound => ?_
    calc firstAccepted (View.mk t none).isFile (configOf d :: configCandidates c.ancestors)
      _ = configFrom t c := firstAccepted_cons_of_not hnested
      _ = firstAccepted (View.mk t none).isFile (configOf c :: above) := habove
      _ = firstAccepted (View.mk t none).isFile above := firstAccepted_cons_of_not hfound
  · rw [firstAccepted_cons_of_not
        (isFile_plain hd.held hshallow (h.plain d hd hne hlauncher)),
      firstAccepted_cons_of_not hnested]
    rfl

theorem Checkout.launcherFrom_step (h : Checkout t c) (hd : Within t c d) (hne : d ≠ c)
    (hshallow : Shallow d) : launcherFrom t d = launcherFrom t d.parent := by
  have hnested : (View.mk t none).isFile (dockerfileOf d) = .ok false :=
    isFile_nested hd.held (by decide) (h.single d hd hne) (hshallow.dockerfile hd.held)
  rw [launcherFrom, hd.ancestors_eq hne, List.map_cons, launcherFrom]
  exact firstAccepted_cons_of_not hnested

end Searching

section Choosing

variable {v : View} {request : SettingsRequest} {config chosen : Option Path} {p : Path}
  {arguments : Fields}

theorem readDocument_seenFrom {location : Option Location} (h : p.isAbsolute = true) :
    readDocument (v.seenFrom location) p = readDocument v p := by
  simp only [readDocument, octetsAt, View.isFile_seenFrom h, View.node?_seenFrom h]

/-- Where no argument spells the launcher directory, it is the one that was chosen. -/
theorem baseDirOf_of_chosen {merged : Fields}
    (hspelled : argument? request.given "base_dir" = none) :
    baseDirOf v env (argumentFields request.given) (some p) merged =
      checkBaseDir v env p (pathCulprit p) := by
  have hargument : (argumentFields request.given).get? "base_dir" = none :=
    (get?_argumentFields _ (by decide) (by decide)).trans hspelled
  simp only [baseDirOf, hargument]

/-- With its choices made as paths from the root, a request has the same settings in all working
directories. -/
theorem assemble_of_choices {here there : Option Location}
    (choice : Chosen (v.seenFrom here) env request config (some p))
    (choice' : Chosen (v.seenFrom there) env request config (some p))
    (hfile : ∀ file, config = some file → file.isAbsolute = true) (hp : p.isAbsolute = true)
    (hspelled : argument? request.given "base_dir" = none) :
    assemble (v.seenFrom here) env request = assemble (v.seenFrom there) env request := by
  have hdocument (location : Option Location) :
      readDocument? (v.seenFrom location) config = readDocument? v config := by
    cases config with
    | none => rfl
    | some file => exact readDocument_seenFrom (hfile file rfl)
  have hdirectory (location : Option Location) (merged : Fields) :
      baseDirOf (v.seenFrom location) env (argumentFields request.given) (some p) merged =
        checkBaseDir v env p (pathCulprit p) := by
    simp only [baseDirOf_of_chosen hspelled, checkBaseDir, follow_standard,
      launcherDir_seenFrom hp env env]
  rw [assemble_eq_of_chosen choice, assemble_eq_of_chosen choice']
  simp only [hdocument, hdirectory]

theorem mem_of_firstAccepted {test : Path → Except Error Bool} {paths : List Path}
    (h : firstAccepted test paths = .ok (some p)) : p ∈ paths := by
  obtain ⟨before, after, rfl, -⟩ := nearest_of_firstAccepted h
  simp

theorem isAbsolute_of_mem_configCandidates (hd : t.Holds d)
    (hp : p ∈ configCandidates d.ancestors) : p.isAbsolute = true := by
  obtain ⟨level, hlevel, hp⟩ := List.mem_flatMap.mp hp
  have habsolute := (hd.of_mem_ancestors hlevel).isAbsolute
  rcases List.mem_cons.mp hp with rfl | hp
  · exact Path.isAbsolute_join habsolute
  · obtain rfl := List.mem_singleton.mp hp
    exact Path.isAbsolute_join (Path.isAbsolute_join habsolute)

theorem isAbsolute_of_mem_launchers (hd : t.Holds d)
    (hp : p ∈ d.ancestors.map (·.join launcherName)) : p.isAbsolute = true := by
  obtain ⟨level, hlevel, rfl⟩ := List.mem_map.mp hp
  exact Path.isAbsolute_join (hd.of_mem_ancestors hlevel).isAbsolute

/-- In a directory that is held, the search for a file with settings starts there. -/
theorem findConfig_held (hd : t.Holds d) (hunset : env.nonEmpty? configVariable = none) :
    findConfig ⟨t, some d.names⟩ env none = configFrom t d := by
  simp only [findConfig, hunset, startOr, hd.currentPath, ok_bind, levels, hd.resolve, map_ok]
  refine firstAccepted_congr fun p hp => ?_
  exact View.isFile_seenFrom (v := ⟨t, none⟩) (isAbsolute_of_mem_configCandidates hd hp)

theorem findLauncherDir_held (hd : t.Holds d) :
    findLauncherDir ⟨t, some d.names⟩ none = launcherFrom t d := by
  simp only [findLauncherDir, startOr, hd.currentPath, ok_bind, levels, hd.resolve, map_ok]
  refine firstAccepted_congr fun p hp => ?_
  exact View.isFile_seenFrom (v := ⟨t, none⟩)
    (Path.isAbsolute_join (isAbsolute_of_mem_launchers hd hp))

/-- The launcher directory that goes with a file with settings in a checkout. -/
def chosenFor (t : Tree) (c : Path) (config : Option Path) : Except Error (Option Path) :=
  match config with
  | some file => .ok (some file.parent)
  | none => launcherFrom t c

/-- Everywhere in a checkout the choices are those in the checkout itself. -/
theorem Checkout.choices (h : Checkout t c) (hd : Within t c d) (hshallow : Shallow d)
    (hunset : env.nonEmpty? configVariable = none)
    (hopen : env.nonEmpty? baseDirVariable = none) (arguments : Fields) :
    chooseConfig ⟨t, some d.names⟩ env ⟨none, none, arguments⟩ = configFrom t c ∧
      ∀ config, chooseBaseDir ⟨t, some d.names⟩ env ⟨none, none, arguments⟩ config =
        chosenFor t c config := by
  have hconfig : configFrom t d = configFrom t c :=
    hd.eq_above (fun _ hd hne hshallow => h.configFrom_step hd hne hshallow) hshallow
  have hlauncher : launcherFrom t d = launcherFrom t c :=
    hd.eq_above (fun _ hd hne hshallow => h.launcherFrom_step hd hne hshallow) hshallow
  refine ⟨(findConfig_held hd.held hunset).trans hconfig, fun config => ?_⟩
  cases config with
  | some file => rfl
  | none =>
    simp only [chooseBaseDir, hopen, Option.isSome_none, Bool.false_eq_true, if_false]
    exact (findLauncherDir_held hd.held).trans hlauncher

/-- In a checkout the search for a file with settings or for a launcher directory finds one. -/
theorem Checkout.exists_chosen (h : Checkout t c) (hconfig : configFrom t c = .ok config)
    (hchosen : chosenFor t c config = .ok chosen) :
    ∃ p, chosen = some p ∧ p.isAbsolute = true := by
  cases config with
  | some file =>
    obtain rfl := Except.ok.inj hchosen
    have hmem : file ∈ configCandidates c.ancestors := mem_of_firstAccepted hconfig
    exact ⟨file.parent, rfl,
      Path.isAbsolute_parent.trans (isAbsolute_of_mem_configCandidates h.held hmem)⟩
  | none =>
    cases chosen with
    | some p => exact ⟨p, rfl, isAbsolute_of_mem_launchers h.held (mem_of_firstAccepted hchosen)⟩
    | none =>
      -- The file that marks the checkout is one that was looked for.
      have hself := Path.mem_ancestors_self c
      have hnoConfig := nearest_of_firstAccepted hconfig (configOf c)
        (List.mem_flatMap.mpr ⟨c, hself, by simp [configOf]⟩)
      have hnoDockerfile := nearest_of_firstAccepted hchosen (c.join launcherName)
        (List.mem_map.mpr ⟨c, hself, rfl⟩)
      rcases h.marked with hmarked | hmarked
      · rw [hnoConfig] at hmarked
        contradiction
      · rw [show (View.mk t none).isFile (dockerfileOf c) = _ from hnoDockerfile] at hmarked
        contradiction

/-- The same choices make the same settings, or the same failure, in two working directories. -/
theorem Checkout.assemble_eq (h : Checkout t c) {here there : Option Location}
    (hhere : chooseConfig ⟨t, here⟩ env request = configFrom t c ∧
      ∀ config, chooseBaseDir ⟨t, here⟩ env request config = chosenFor t c config)
    (hthere : chooseConfig ⟨t, there⟩ env request = configFrom t c ∧
      ∀ config, chooseBaseDir ⟨t, there⟩ env request config = chosenFor t c config)
    (hspelled : argument? request.given "base_dir" = none) :
    assemble ⟨t, here⟩ env request = assemble ⟨t, there⟩ env request := by
  refine assemble_congr (hhere.1.trans hthere.1.symm)
    (fun config _ => (hhere.2 config).trans (hthere.2 config).symm) ?_
  intro config chosen choice choice'
  have hconfig : configFrom t c = .ok config := hhere.1.symm.trans choice.configChosen
  have hchosen : chosenFor t c config = .ok chosen :=
    (hhere.2 config).symm.trans choice.directoryChosen
  obtain ⟨p, rfl, hp⟩ := h.exists_chosen hconfig hchosen
  refine assemble_of_choices (v := ⟨t, none⟩) choice choice' (fun file hfile => ?_) hp hspelled
  subst hfile
  exact isAbsolute_of_mem_configCandidates h.held (mem_of_firstAccepted hconfig)

end Choosing

section Checkout

variable {d₁ d₂ : Path} {arguments : Fields}

/-- The launcher directory of a checkout is held as well. -/
theorem Checkout.holds_launcher (h : Checkout t c) : t.Holds (c.join launcherName) where
  root := (Path.anchor_join (by decide)).trans h.held.root
  entries name hname := by
    rw [names_join_launcherName] at hname
    rcases List.mem_append.mp hname with hname | hname
    · exact h.held.entries name hname
    · obtain rfl := List.mem_singleton.mp hname
      decide
  directories q hq := by
    have hne : (c.join launcherName).names ≠ [] := by simp [names_join_launcherName]
    rw [Path.ancestors_eq_cons hne, parent_join_launcherName] at hq
    rcases List.mem_cons.mp hq with rfl | hq
    · exact h.launcher
    · exact h.held.directories q hq

theorem root_configOf (hc : t.Holds c) : (configOf c).anchor = .root :=
  (Path.anchor_join (by decide)).trans ((Path.anchor_join (by decide)).trans hc.root)

/-- The file with settings of a checkout is found, if it is there. -/
theorem Checkout.configFrom_eq (h : Checkout t c)
    (hfile : (View.mk t none).isFile (configOf c) = .ok true) :
    configFrom t c = .ok (some (configOf c)) := by
  obtain ⟨hshallow, -⟩ := View.walk_of_isFile (root_configOf h.held) hfile
  obtain ⟨above, habove⟩ := h.configFrom_self hshallow
  rw [habove, firstAccepted, hfile]

/-- The directory with the file of settings is a launcher directory as it stands. -/
theorem Checkout.launcherDir_eq (h : Checkout t c)
    (hfile : (View.mk t none).isFile (configOf c) = .ok true) (location : Option Location) :
    launcherDir ⟨t, location⟩ env (c.join launcherName) = .ok (c.join launcherName) := by
  have hlauncher := h.holds_launcher
  have hdirectory : (View.mk t location).isFile (c.join launcherName) = .ok false := by
    have hparent := View.isFile_parent (root_configOf h.held) hfile
    rw [parent_configOf] at hparent
    exact (View.isFile_seenFrom (v := ⟨t, none⟩) hlauncher.isAbsolute).trans hparent
  simp only [launcherDir, expandHome_of_isAbsolute hlauncher.isAbsolute, ok_bind,
    hlauncher.resolve, hdirectory]
  rfl

/-- From everywhere in a checkout the launcher has the same settings, or fails in the same way. Its
directory is that with the file of settings, if there is this file. -/
theorem assemble_anywhere (h : Checkout t c) (h₁ : Within t c d₁) (h₂ : Within t c d₂)
    (hshallow₁ : Shallow d₁) (hshallow₂ : Shallow d₂)
    (hunset : env.nonEmpty? configVariable = none)
    (hopen : env.nonEmpty? baseDirVariable = none)
    (hspelled : argument? (SettingsRequest.mk none none arguments).given "base_dir" = none) :
    assemble ⟨t, some d₁.names⟩ env ⟨none, none, arguments⟩ =
        assemble ⟨t, some d₂.names⟩ env ⟨none, none, arguments⟩ ∧
      ((View.mk t none).isFile (configOf c) = .ok true →
        ∀ s, assemble ⟨t, some d₁.names⟩ env ⟨none, none, arguments⟩ = .ok s →
          s.baseDir = c.join launcherName ∧
            (View.mk t none).resolve (c.join launcherName) = .ok s.baseDir) := by
  have hchoices := h.choices h₁ hshallow₁ hunset hopen arguments
  refine ⟨h.assemble_eq hchoices (h.choices h₂ hshallow₂ hunset hopen arguments) hspelled,
    fun hfile s hs => ?_⟩
  obtain ⟨config, chosen, document, environment, baseDir, gathered, hbaseDir, made⟩ :=
    assemble_eq_ok.mp hs
  obtain rfl : some (configOf c) = config := Except.ok.inj
    ((h.configFrom_eq hfile).symm.trans (hchoices.1.symm.trans gathered.configChosen))
  obtain rfl : some (configOf c).parent = chosen := Except.ok.inj
    ((hchoices.2 _).symm.trans gathered.directoryChosen)
  rw [made.baseDir, baseDirOf_of_chosen hspelled, checkBaseDir_eq_valid, parent_configOf,
    h.launcherDir_eq hfile] at hbaseDir
  have hsame : c.join launcherName = s.baseDir := Except.ok.inj hbaseDir
  exact ⟨hsame.symm, hsame ▸ h.holds_launcher.resolve⟩

/-- From a directory that is so deep that no file in it can be asked for, there are no settings. -/
theorem assemble_of_deep (hd : t.Holds d)
    (hdeep : textLimit ≤ (d.join configName).text.utf8ByteSize)
    (hunset : env.nonEmpty? configVariable = none) (arguments : Fields) :
    assemble ⟨t, some d.names⟩ env ⟨none, none, arguments⟩ =
      .error (.files (longName (d.join configName))) := by
  obtain ⟨above, habove⟩ := exists_ancestors_eq_cons d
  have hlong : (View.mk t none).isFile (d.join configName) = .error (longName (d.join configName)) :=
    hd.isFile_long (by decide) (by decide) hdeep
  have hsearch : configFrom t d = .error (longName (d.join configName)) := by
    rw [configFrom, habove, configCandidates, List.flatMap_cons, List.cons_append, firstAccepted,
      hlong]
  have hchoice : chooseConfig ⟨t, some d.names⟩ env ⟨none, none, arguments⟩ =
      .error (longName (d.join configName)) := (findConfig_held hd hunset).trans hsearch
  simp only [assemble, follow_standard, ok_bind, hchoice, mapError_error, error_bind]

end Checkout

section Deep

/-- A name of one letter, repeated. -/
def longWord (length : Nat) : String := String.ofList (List.replicate length 'd')

variable {length depth : Nat} {word : String}

theorem toList_longWord (length : Nat) : (longWord length).toList = List.replicate length 'd' :=
  String.toList_ofList

theorem longWord_ne (h : word.toList.length ≠ length) : longWord length ≠ word := by
  rintro rfl
  simp [toList_longWord] at h

theorem utf8ByteSize_longWord (length : Nat) : (longWord length).utf8ByteSize = length := by
  induction length with
  | zero => rfl
  | succ length ih =>
    have hfirst : longWord (length + 1) = "d" ++ longWord length := by
      rw [← String.toList_inj, String.toList_append, toList_longWord, toList_longWord]
      rfl
    rw [hfirst, String.utf8ByteSize_append, ih]
    exact Nat.add_comm 1 length

theorem isName_longWord (h : 1 < length) : IsName (longWord length) :=
  ⟨longWord_ne (by simp; omega), longWord_ne (by simp; omega),
    by simp [toList_longWord, List.mem_replicate]⟩

theorem isEntry_longWord (h : 2 < length) (hlimit : length ≤ nameLimit) :
    IsEntry (longWord length) where
  proper := longWord_ne (by simp; omega)
  short := (utf8ByteSize_longWord length).trans_le hlimit
  clean := by simp [View.hasNul, toList_longWord, List.mem_replicate]

/-- Directories with long names, one in the other. -/
def deepDirectory (depth : Nat) : Path :=
  ⟨.root, List.replicate depth (longWord 254), fun _ hn =>
    List.eq_of_mem_replicate hn ▸ isName_longWord (by decide)⟩

/-- A checkout at the root, and below it directories with long names. -/
def deepTree : Nat → Tree
  | 0 => ⟨[([".dev"], .directory), ([".dev", "reth-build.toml"], .file [])]⟩
  | depth + 1 => (deepTree depth).insert (deepDirectory (depth + 1)).names .directory

theorem get?_deepTree_zero {location : Location} (hlauncher : location ≠ [".dev"])
    (hfile : location ≠ [".dev", "reth-build.toml"]) (hne : location ≠ []) :
    (deepTree 0).get? location = none := by
  rw [Tree.get?, if_neg hne]
  simp [deepTree, List.lookup_cons, beq_eq_false_iff_ne.mpr hlauncher,
    beq_eq_false_iff_ne.mpr hfile]

theorem get?_deepTree_succ (depth : Nat) (location : Location) :
    (deepTree (depth + 1)).get? location =
      if location = (deepDirectory (depth + 1)).names then some .directory
      else (deepTree depth).get? location :=
  Tree.get?_insert _ (by simp [deepDirectory]) _ _

theorem get?_deepDirectory {above : Nat} (h : above ≤ depth) :
    (deepTree depth).get? (deepDirectory above).names = some .directory := by
  induction depth with
  | zero =>
    obtain rfl := Nat.le_zero.mp h
    rfl
  | succ depth ih =>
    rw [get?_deepTree_succ]
    split
    · rfl
    · rename_i hne
      exact ih (Nat.le_of_lt_succ (h.lt_of_ne fun heq => hne (heq ▸ rfl)))

/-- Other names are where they were. -/
theorem get?_deepTree_append (hword : longWord 254 ≠ word) (depth : Nat) (above : Location) :
    (deepTree depth).get? (above ++ [word]) = (deepTree 0).get? (above ++ [word]) := by
  induction depth with
  | zero => rfl
  | succ depth ih =>
    rw [get?_deepTree_succ, if_neg, ih]
    intro heq
    have hmem : word ∈ (deepDirectory (depth + 1)).names := heq ▸ by simp
    exact hword (List.eq_of_mem_replicate hmem).symm

theorem holds_deepDirectory {above : Nat} (h : above ≤ depth) :
    (deepTree depth).Holds (deepDirectory above) where
  root := rfl
  entries _ hname := List.eq_of_mem_replicate hname ▸ isEntry_longWord (by decide) (by decide)
  directories q hq := by
    obtain ⟨-, hnames⟩ := Path.mem_ancestors.mp hq
    obtain ⟨hle, hreplicate⟩ := List.prefix_replicate_iff.mp hnames
    rw [hreplicate]
    exact get?_deepDirectory (hle.trans h)

theorem within_deepDirectory {above : Nat} (h : above ≤ depth) :
    Within (deepTree depth) .root (deepDirectory above) where
  held := holds_deepDirectory h
  below := Path.mem_ancestors.mpr ⟨rfl, List.nil_prefix⟩

theorem checkout_deepTree : Checkout (deepTree 16) .root where
  held := holds_deepDirectory (Nat.zero_le 16)
  launcher := by
    rw [names_join_launcherName, get?_deepTree_append (longWord_ne (by decide))]
    rfl
  marked := .inl (by decide +kernel)
  bare := by
    rw [Path.names_join (by decide), names_configName,
      get?_deepTree_append (longWord_ne (by decide))]
    rfl
  plain d hd _ hlauncher := by
    rw [Path.names_join (by decide), names_configName,
      get?_deepTree_append (longWord_ne (by decide))]
    have hnames : d.names ≠ [".dev"] := fun heq => hlauncher (Files.Path.ext hd.held.root (heq.trans rfl))
    refine get?_deepTree_zero (fun heq => ?_) (fun heq => ?_) (by simp)
    · simpa using congrArg List.getLast? heq
    · exact hnames (List.append_inj_left' (heq : _ = [".dev"] ++ _) rfl)
  single d hd hne := by
    rw [names_join_launcherName, get?_deepTree_append (longWord_ne (by decide))]
    have hnames : d.names ≠ [] := hd.names_ne_nil hne
    refine get?_deepTree_zero (by simp [hnames]) (fun heq => ?_) (by simp)
    simpa using congrArg List.getLast? heq

/-- From inside the launcher directory and from below other directories. -/
theorem assemble_anywhere_below :
    Shallow (deepDirectory 3) ∧
      assemble ⟨deepTree 16, some [".dev"]⟩ [] ⟨none, none, [("image", .text "x")]⟩ =
        assemble ⟨deepTree 16, some (deepDirectory 3).names⟩ []
          ⟨none, none, [("image", .text "x")]⟩ ∧
      ∃ s, assemble ⟨deepTree 16, some [".dev"]⟩ [] ⟨none, none, [("image", .text "x")]⟩ = .ok s ∧
        s.image = "x" ∧ s.baseDir = Path.root.join launcherName := by
  have hshallow : Shallow (deepDirectory 3) := by decide +kernel
  have hlauncher : Within (deepTree 16) .root (Path.root.join launcherName) :=
    ⟨checkout_deepTree.holds_launcher, Path.mem_ancestors.mpr ⟨rfl, List.nil_prefix⟩⟩
  have hspelled : argument? (SettingsRequest.mk none none [("image", .text "x")]).given "base_dir" =
      none := by
    decide +kernel
  have hunset : nonEmpty? [] configVariable = none := rfl
  obtain ⟨hsame, hdirectory⟩ := assemble_anywhere checkout_deepTree hlauncher
    (within_deepDirectory (by decide)) (by decide +kernel) hshallow hunset rfl hspelled
  obtain ⟨s, hs, himage⟩ : ∃ s, assemble ⟨deepTree 16, some [".dev"]⟩ []
      ⟨none, none, [("image", .text "x")]⟩ = .ok s ∧ s.image = "x" :=
    toOption_map_eq_some (by decide +kernel)
  exact ⟨hshallow, hsame, s, hs, himage, (hdirectory (by decide +kernel) s hs).1⟩

/-- From a deep directory of a checkout there are no settings, though there are from the checkout. -/
theorem assemble_tooDeep :
    Checkout (deepTree 16) .root ∧ Within (deepTree 16) .root (deepDirectory 16) ∧
      (assemble ⟨deepTree 16, some Path.root.names⟩ [] ⟨none, none, []⟩).toOption.map (·.baseDir) =
        some (Path.ofText "/.dev") ∧
      assemble ⟨deepTree 16, some (deepDirectory 16).names⟩ [] ⟨none, none, []⟩ =
        .error (.files (longName ((deepDirectory 16).join configName))) := by
  have hsize : ((deepDirectory 16).join configName).text.utf8ByteSize = textLimit := by
    rw [Path.text_of_root rfl, String.utf8ByteSize_append, Path.utf8ByteSize_intercalate,
      Path.names_join (by decide), names_configName, deepDirectory]
    simp only [List.map_append, List.map_replicate, utf8ByteSize_longWord, List.sum_append,
      List.sum_replicate_nat, List.length_append, List.length_replicate]
    rfl
  exact ⟨checkout_deepTree, within_deepDirectory (le_refl 16), by decide +kernel,
    assemble_of_deep (holds_deepDirectory (le_refl 16)) hsize.ge rfl []⟩

end Deep

end Settings
end BuildLauncher
