import BuildLauncher.Proofs.Files.Additions
import BuildLauncher.Proofs.Settings.Checkout
import BuildLauncher.Proofs.Settings.Resolution

/-!
# Two searches, one launcher

The launcher is found by its file with settings, or by its Dockerfile. An empty file with settings in
the launcher directory that was found by its Dockerfile changes nothing but which search finds it: the
settings are the same (`assemble_withFile`).
-/
namespace BuildLauncher

open Checking Files Environment

theorem firstAccepted_cons_of_accepted {test : Path → Except Error Bool} {p : Path}
    {rest : List Path} (h : test p = .ok true) : firstAccepted test (p :: rest) = .ok (some p) := by
  rw [firstAccepted, h]

/-- A search that meets no error finds a path, if there is one to be found. -/
theorem exists_firstAccepted {test : Path → Except Error Bool} {paths : List Path}
    (hclear : ∀ p ∈ paths, test p = .ok false ∨ test p = .ok true)
    (hsome : ∃ p ∈ paths, test p = .ok true) :
    ∃ p ∈ paths, test p = .ok true ∧ firstAccepted test paths = .ok (some p) := by
  induction paths with
  | nil =>
    obtain ⟨p, hp, -⟩ := hsome
    contradiction
  | cons path rest ih =>
    obtain ⟨hpath, hrest⟩ := List.forall_mem_cons.mp hclear
    obtain hpath | hpath := hpath
    · obtain ⟨p, hp, haccepted⟩ := hsome
      have hmem : p ∈ rest := by
        refine (List.mem_cons.mp hp).resolve_left ?_
        rintro rfl
        rw [hpath] at haccepted
        contradiction
      obtain ⟨found, hfound, htest, hfirst⟩ := ih hrest ⟨p, hmem, haccepted⟩
      exact ⟨found, List.mem_cons_of_mem _ hfound, htest, (firstAccepted_cons_of_not hpath).trans hfirst⟩
    · exact ⟨path, List.mem_cons_self, hpath, firstAccepted_cons_of_accepted hpath⟩

namespace Settings

/-- A directory where a file with settings is looked for: a level, or the launcher directory there. -/
def Folder (levels : List Path) (folder : Path) : Prop :=
  ∃ level ∈ levels, folder = level ∨ folder = level.join launcherName

theorem mem_configCandidates {levels : List Path} {file : Path} : file ∈ configCandidates levels ↔
    ∃ folder, Folder levels folder ∧ file = folder.join configName := by
  simp only [configCandidates, List.mem_flatMap, List.mem_cons, List.not_mem_nil, or_false, Folder]
  constructor
  · rintro ⟨level, hlevel, rfl | rfl⟩
    · exact ⟨level, ⟨level, hlevel, .inl rfl⟩, rfl⟩
    · exact ⟨level.join launcherName, ⟨level, hlevel, .inr rfl⟩, rfl⟩
  · rintro ⟨folder, ⟨level, hlevel, rfl | rfl⟩, rfl⟩
    · exact ⟨folder, hlevel, .inl rfl⟩
    · exact ⟨level, hlevel, .inr rfl⟩

/-- From a directory a launcher is found by its Dockerfile, and no file with settings. There is place
for one in the directory of the launcher. -/
structure Unsettled (v : View) (env : Environment) (here launcher : Path) (place : Location) :
    Prop where
  clean : ∀ e ∈ v.tree.entries, ∀ name ∈ e.1, View.hasNul name = false
  held : v.tree.Holds here
  seen : v.workingDir = some here.names
  unset : env.nonEmpty? configVariable = none
  unnamed : env.nonEmpty? baseDirVariable = none
  missed : findConfig v env none = .ok none
  found : findLauncherDir v none = .ok (some launcher)
  leads : v.node? launcher.text = .ok (place, .directory)
  free : v.tree.get? (place ++ ["reth-build.toml"]) = none

/-- Everything on the ways of the launcher directories that are there can be asked for. -/
def LaunchersInReach (v : View) (here : Path) : Prop :=
  ∀ level ∈ here.ancestors, v.isDirectory (level.join launcherName) = .ok true →
    v.InReach (level.join launcherName)

instance (v : View) (here : Path) : Decidable (LaunchersInReach v here) :=
  inferInstanceAs (Decidable (∀ level ∈ here.ancestors, _ → _))

section Searching

variable {v : View} {env : Environment} {here launcher folder : Path} {place location : Location}

theorem startOr_held (hheld : v.tree.Holds here) (hseen : v.workingDir = some here.names) :
    startOr v none = .ok here := by
  obtain ⟨t, d⟩ := v
  obtain rfl : d = some here.names := hseen
  exact hheld.currentPath

theorem findConfig_seen (hheld : v.tree.Holds here) (hseen : v.workingDir = some here.names)
    (hunset : env.nonEmpty? configVariable = none) :
    findConfig v env none = firstAccepted v.isFile (configCandidates here.ancestors) := by
  simp only [findConfig, hunset, startOr_held hheld hseen, ok_bind, levels, hheld.resolve, map_ok]

theorem findLauncherDir_seen (hheld : v.tree.Holds here) (hseen : v.workingDir = some here.names) :
    findLauncherDir v none = firstAccepted (fun p => v.isFile (p.join dockerfileName))
      (here.ancestors.map (·.join launcherName)) := by
  simp only [findLauncherDir, startOr_held hheld hseen, ok_bind, levels, hheld.resolve, map_ok]

namespace Unsettled

variable (h : Unsettled v env here launcher place)
include h

theorem sound : v.Sound where
  clean := h.clean
  held _ hbase := ⟨here, h.held, Option.some.inj (h.seen.symm.trans hbase)⟩

theorem refused : ∀ file ∈ configCandidates here.ancestors, v.isFile file = .ok false :=
  nearest_of_firstAccepted ((findConfig_seen h.held h.seen h.unset).symm.trans h.missed)

theorem folder_launcher : Folder here.ancestors launcher := by
  obtain ⟨level, hlevel, rfl⟩ := List.mem_map.mp
    (mem_of_firstAccepted ((findLauncherDir_seen h.held h.seen).symm.trans h.found))
  exact ⟨level, hlevel, .inr rfl⟩

theorem chooseConfig_eq (arguments : Fields) :
    chooseConfig v env ⟨none, none, arguments⟩ = .ok none := h.missed

theorem chooseBaseDir_eq (arguments : Fields) :
    chooseBaseDir v env ⟨none, none, arguments⟩ none = .ok (some launcher) := by
  simp [chooseBaseDir, h.unnamed, h.found]

/-- The names of folders are clean, and they start at the root. -/
theorem entries_folder (hfolder : Folder here.ancestors folder) :
    folder.anchor = .root ∧ ∀ name ∈ folder.names, IsEntry name := by
  obtain ⟨level, hlevel, rfl | rfl⟩ := hfolder
  · exact ⟨(h.held.of_mem_ancestors hlevel).root, (h.held.of_mem_ancestors hlevel).entries⟩
  · refine ⟨(Path.anchor_join (by decide)).trans (h.held.of_mem_ancestors hlevel).root,
      fun name hname => ?_⟩
    rw [names_join_launcherName] at hname
    obtain hname | hname := List.mem_append.mp hname
    · exact (h.held.of_mem_ancestors hlevel).entries name hname
    · exact List.mem_singleton.mp hname ▸ by decide

theorem isAbsolute_folder (hfolder : Folder here.ancestors folder) : folder.isAbsolute = true := by
  simp [Path.isAbsolute, (h.entries_folder hfolder).1]

theorem root_candidate (hfolder : Folder here.ancestors folder) :
    (folder.join configName).anchor = .root :=
  (Path.anchor_join (by decide)).trans (h.entries_folder hfolder).1

theorem hasNul_candidate (hfolder : Folder here.ancestors folder) :
    View.hasNul (folder.join configName).text = false := by
  refine Path.hasNul_text (h.root_candidate hfolder) fun name hname => ?_
  rw [Path.names_join (by decide), names_configName] at hname
  obtain hname | hname := List.mem_append.mp hname
  · exact ((h.entries_folder hfolder).2 name hname).clean
  · exact List.mem_singleton.mp hname ▸ by decide

/-- All candidates were asked for. -/
theorem room_candidate (hfolder : Folder here.ancestors folder) :
    (folder.join configName).text.utf8ByteSize < textLimit := by
  by_contra hlong
  have hrefused := h.refused _ (mem_configCandidates.mpr ⟨folder, hfolder, rfl⟩)
  rw [View.isFile, View.test, h.hasNul_candidate hfolder, View.node?,
    View.find_long (Nat.not_lt.mp hlong)] at hrefused
  contradiction

/-- What is looked for in a folder is looked for in the directory that it leads to. -/
theorem find_candidate (hfolder : Folder here.ancestors folder)
    (hnode : v.node? folder.text = .ok (location, .directory)) :
    ∃ left ≤ linkLimit, v.find true (folder.join configName).text =
      walk v.tree true left location ["reth-build.toml"] := by
  have hwalk := View.node?_eq_ok.mp hnode
  rw [View.find_text (h.entries_folder hfolder).1 (View.room_of_node? hnode)] at hwalk
  obtain ⟨left, hleft, hmore⟩ := walk_append_of_directory hwalk
  refine ⟨left, hleft, ?_⟩
  rw [View.find_text (h.root_candidate hfolder) (h.room_candidate hfolder),
    Path.names_join (by decide), names_configName, hmore]

/-- The place for a file with settings is where it is looked for in the launcher directory. -/
theorem find_launcher :
    v.find true (launcher.join configName).text = .ok (.vacant (place ++ ["reth-build.toml"])) := by
  obtain ⟨left, -, hfind⟩ := h.find_candidate h.folder_launcher h.leads
  rw [hfind, walk.eq_def, advance_name (by decide) (by decide) (by decide), h.free]
  rfl

variable (hreach : LaunchersInReach v here)
include hreach

/-- A folder that leads to a directory locates it. -/
theorem locates_folder (hfolder : Folder here.ancestors folder)
    (hnode : v.node? folder.text = .ok (location, .directory)) :
    v.Locates folder location .directory := by
  refine View.locates_of_isAbsolute h.sound (h.isAbsolute_folder hfolder) hnode ?_
  have hclean := (h.entries_folder hfolder).2
  have hroot := (h.entries_folder hfolder).1
  obtain ⟨level, hlevel, rfl | rfl⟩ := hfolder
  · exact (h.held.of_mem_ancestors hlevel).inReach (View.room_of_node? hnode)
  · have hnul := Path.hasNul_text hroot fun name hname => (hclean name hname).clean
    exact hreach level hlevel (View.isDirectory_iff.mpr ⟨hnul, location, hnode⟩)

/-- Only folders that lead to the launcher directory have the place for its file with settings. -/
theorem eq_place (hlinks : v.tree.NoDangling) (hfolder : Folder here.ancestors folder)
    (hnode : v.node? folder.text = .ok (location, .directory))
    (hfind : v.find true (folder.join configName).text = .ok (.vacant (place ++ ["reth-build.toml"]))) :
    location = place := by
  obtain ⟨_, directory, -, -, -, hlies, -⟩ :=
    View.resolve_of_locates h.sound (h.locates_folder hreach hfolder hnode)
  obtain ⟨hheld, rfl⟩ := names_of_lies hlies
  obtain ⟨left, hleft, hwalk⟩ := h.find_candidate hfolder hnode
  rw [hfind] at hwalk
  exact (List.append_inj_left' (hlinks.eq_child hheld (by decide) (by decide) hleft hwalk.symm) rfl).symm

/-- With an empty file in the launcher directory, the search for a file with settings finds it. -/
theorem findConfig_withFile (hlinks : v.tree.NoDangling) :
    let after := v.withFile (place ++ ["reth-build.toml"]) []
    ∃ folder, findConfig after env none = .ok (some (folder.join configName)) ∧
      Folder here.ancestors folder ∧ v.Locates folder place .directory ∧
      after.isFile (folder.join configName) = .ok true ∧
      after.node? (folder.join configName).text = .ok (place ++ ["reth-build.toml"], .file []) := by
  intro after
  have hne : place ++ ["reth-build.toml"] ≠ [] := by simp
  -- Every test gives an answer as before, and that in the launcher directory another one.
  have hclear : ∀ file ∈ configCandidates here.ancestors,
      after.isFile file = .ok false ∨ after.isFile file = .ok true := fun file hfile =>
    (View.isFile_withFile [] hne h.free (h.refused file hfile)).imp_right And.left
  have hnode {folder : Path}
      (hfind : v.find true (folder.join configName).text = .ok (.vacant (place ++ ["reth-build.toml"]))) :
      after.node? (folder.join configName).text = .ok (place ++ ["reth-build.toml"], .file []) :=
    View.node?_eq_ok.mpr (View.find_withFile_of_vacant hne h.free hfind)
  have hlauncher : after.isFile (launcher.join configName) = .ok true :=
    View.isFile_iff.mpr ⟨h.hasNul_candidate h.folder_launcher, _, _, hnode h.find_launcher, rfl⟩
  obtain ⟨file, hfile, haccepted, hfirst⟩ := exists_firstAccepted hclear
    ⟨_, mem_configCandidates.mpr ⟨launcher, h.folder_launcher, rfl⟩, hlauncher⟩
  have hheld : after.tree.Holds here := h.held.mono (View.extendedBy_withFile hne h.free).tree
  obtain ⟨folder, hfolder, rfl⟩ := mem_configCandidates.mp hfile
  obtain hrefused | ⟨-, hvacant⟩ :=
    View.isFile_withFile [] hne h.free (h.refused _ hfile)
  · rw [haccepted] at hrefused
    contradiction
  obtain ⟨location, hparent⟩ := View.node?_parent (h.root_candidate hfolder) haccepted
  rw [parent_join folder (by decide) (by decide)] at hparent
  have hdirectory := View.directory_of_withFile hne h.free hparent
  obtain rfl := h.eq_place hreach hlinks hfolder hdirectory hvacant
  exact ⟨folder, (findConfig_seen hheld h.seen h.unset).trans hfirst, hfolder,
    h.locates_folder hreach hfolder hdirectory, haccepted, hnode hvacant⟩

end Unsettled

end Searching

section Assembling

variable {v : View} {env : Environment} {here launcher folder : Path} {place location : Location}
  {request : SettingsRequest}

/-- Settings without the path of their file. -/
def withoutConfig (s : Settings) : Settings := { s with configPath := none }

theorem ofFields_withoutConfig (baseDir : Checked Path) (config : Option Path) (merged : Fields) :
    ofFields baseDir none merged = withoutConfig <$> ofFields baseDir config merged := by
  simp only [ofFields, map_seqLeft, map_seq]
  cases baseDir <;> rfl

theorem settle_map (f : Settings → Settings) (checked : Checked Settings) :
    settle (f <$> checked) = (settle checked).map f := by
  cases checked <;> rfl

/-- A path to a directory means that directory, under its own path. -/
theorem launcherDir_of_directory (env : Environment) {p : Path} (hsound : v.Sound)
    (habsolute : p.isAbsolute = true)
    (h : v.Locates p place .directory) : ∃ canonical, v.resolve p = .ok canonical ∧
      launcherDir v env p = .ok canonical ∧ canonical.anchor = .root ∧ canonical.names = place ∧
      v.tree.Holds canonical := by
  obtain ⟨canonical, directory, hresolve, hroot, hnames, hlies, hnode⟩ :=
    View.resolve_of_locates hsound h
  have hfile : v.isFile canonical = .ok false := by
    simp [View.isFile, View.test, (View.askable_of_resolve hresolve).1, hnode, Node.isFile]
  obtain ⟨hheld, hheldNames⟩ := names_of_lies hlies
  obtain rfl : directory = canonical :=
    Files.Path.ext (hheld.root.trans hroot.symm) (hheldNames.trans hnames.symm)
  refine ⟨directory, hresolve, ?_, hroot, hnames, hheld⟩
  simp only [launcherDir, expandHome_of_isAbsolute habsolute, ok_bind, hresolve, hfile]
  rfl

theorem readDocument_empty {file : Path} (hfile : v.isFile file = .ok true)
    (hnode : v.node? file.text = .ok (location, .file [])) : readDocument v file = .ok [] := by
  simp only [readDocument, octetsAt, hfile, hnode]
  rfl

/-- Two views in which a launcher directory was chosen and means the same, one of them with an empty
file, have the same settings but for the path of the file. -/
theorem assemble_withoutConfig {after : View} {p q file directory : Path}
    (hspelled : argument? request.given "base_dir" = none)
    (choice : Chosen v env request none (some p))
    (hdirectory : launcherDir v env p = .ok directory)
    (choice' : Chosen after env request (some file) (some q))
    (hdirectory' : launcherDir after env q = .ok directory)
    (hdocument : readDocument after file = .ok []) :
    assemble v env request = (assemble after env request).map withoutConfig := by
  have hbefore : checkBaseDir v env p (pathCulprit p) = .ok (.valid directory) :=
    checkBaseDir_eq_valid.mpr hdirectory
  have hafter : checkBaseDir after env q (pathCulprit q) = .ok (.valid directory) :=
    checkBaseDir_eq_valid.mpr hdirectory'
  rw [assemble_eq_of_chosen choice, assemble_eq_of_chosen choice', readDocument?, readDocument?,
    hdocument]
  simp only [ok_bind, baseDirOf_of_chosen hspelled, hbefore, hafter]
  cases environmentFields env with
  | error e => rfl
  | ok environment =>
    simp only [follow_standard, ok_bind, ofFields_withoutConfig _ (some file), settle_map]

/-- An empty file with settings, put into the launcher directory that was found by its Dockerfile, is
found from the same place, in a directory that means the same. The settings are those of before, or
the same failure, but for the path of the file. -/
theorem assemble_withFile (h : Unsettled v env here launcher place) (hlinks : v.tree.NoDangling)
    (hreach : LaunchersInReach v here) :
    let after := v.withFile (place ++ ["reth-build.toml"]) []
    ∃ file canonical, findConfig after env none = .ok (some file) ∧
      after.resolve file.parent = .ok canonical ∧ after.resolve launcher = .ok canonical ∧
      ∀ arguments, argument? (SettingsRequest.mk none none arguments).given "base_dir" = none →
        assemble v env ⟨none, none, arguments⟩ =
            (assemble after env ⟨none, none, arguments⟩).map withoutConfig ∧
          ∀ s, assemble after env ⟨none, none, arguments⟩ = .ok s → s.configPath = some file := by
  intro after
  have hne : place ++ ["reth-build.toml"] ≠ [] := by simp
  obtain ⟨folder, hconfig, hfolder, hlocates, hfile, hnode⟩ := h.findConfig_withFile hreach hlinks
  have hparent : (folder.join configName).parent = folder := parent_join folder (by decide) (by decide)
  have hlauncher := h.locates_folder hreach h.folder_launcher h.leads
  obtain ⟨canonical, -, hbefore, hroot, rfl, hheld⟩ := launcherDir_of_directory env h.sound
    (h.isAbsolute_folder h.folder_launcher) hlauncher
  -- The folder with the file and the launcher directory mean that directory afterwards, too.
  have hclean : ∀ name ∈ canonical.names, View.hasNul name = false := fun name hname =>
    (hheld.entries name hname).clean
  have hsound : after.Sound :=
    View.Sound.withFile hne h.free h.sound (List.forall_mem_append.mpr ⟨hclean, by decide⟩)
  have hmeans {p : Path} (habsolute : p.isAbsolute = true)
      (hp : v.Locates p canonical.names .directory) :
      after.resolve p = .ok canonical ∧ launcherDir after env p = .ok canonical := by
    obtain ⟨other, hresolve, hdirectory, hroot', hnames, -⟩ :=
      launcherDir_of_directory env hsound habsolute (hp.withFile hne h.free)
    obtain rfl : other = canonical := Files.Path.ext (hroot'.trans hroot.symm) hnames
    exact ⟨hresolve, hdirectory⟩
  obtain ⟨hresolve, hafter⟩ := hmeans (h.isAbsolute_folder hfolder) hlocates
  obtain ⟨hsame, -⟩ := hmeans (h.isAbsolute_folder h.folder_launcher) hlauncher
  refine ⟨folder.join configName, canonical, hconfig, by rwa [hparent], hsame, ?_⟩
  intro arguments hspelled
  have hchosen : chooseBaseDir after env ⟨none, none, arguments⟩ (some (folder.join configName)) =
      .ok (some folder) := by
    simp only [chooseBaseDir, hparent]
  refine ⟨assemble_withoutConfig hspelled
    ⟨rfl, h.chooseConfig_eq arguments, h.chooseBaseDir_eq arguments⟩ hbefore ⟨rfl, hconfig, hchosen⟩
    hafter (readDocument_empty hfile hnode), fun s hs => ?_⟩
  obtain ⟨config, _, _, _, _, gathered, -, made⟩ := assemble_eq_ok.mp hs
  rw [made.configPath]
  exact Except.ok.inj (gathered.configChosen.symm.trans hconfig)

/-- The launcher directory is a link to the directory that the search starts in. -/
def linkedView : View :=
  ⟨⟨[(["p"], .directory), (["p", "q"], .directory), (["p", "q", "Dockerfile"], .file []),
    (["p", ".dev"], .link "q")]⟩, some ["p", "q"]⟩

theorem unsettled_linkedView :
    Unsettled linkedView [] (Path.ofText "/p/q") (Path.ofText "/p/.dev") ["p", "q"] where
  clean := by decide +kernel
  held := by decide +kernel
  seen := by decide +kernel
  unset := rfl
  unnamed := rfl
  missed := by decide +kernel
  found := by decide +kernel
  leads := by decide +kernel
  free := by decide +kernel

theorem noDangling_linkedView : linkedView.tree.NoDangling := by
  intro location target hlink vacant
  have hmem : (location, Node.link target) ∈ linkedView.tree.entries :=
    Tree.mem_of_get? hlink fun hnil => by simp [hnil] at hlink
  obtain ⟨rfl, rfl⟩ : location = ["p", ".dev"] ∧ target = "q" := by
    simpa [linkedView] using hmem
  have hwalk : walk linkedView.tree true linkLimit [] ["p", ".dev"] =
      .ok (.node ["p", "q"] .directory) := by
    decide +kernel
  simp [hwalk]

/-- The file is found in the directory itself, where the Dockerfile was found through the link. -/
theorem assemble_withFile_linked : ∃ file canonical s,
    findConfig (linkedView.withFile ["p", "q", "reth-build.toml"] []) [] none = .ok (some file) ∧
      file = Path.ofText "/p/q/reth-build.toml" ∧
      (linkedView.withFile ["p", "q", "reth-build.toml"] []).resolve (Path.ofText "/p/.dev") =
        .ok canonical ∧
      assemble (linkedView.withFile ["p", "q", "reth-build.toml"] []) []
        ⟨none, none, [("image", .text "x")]⟩ = .ok s ∧
      s.configPath = some file ∧ s.image = "x" ∧
      assemble linkedView [] ⟨none, none, [("image", .text "x")]⟩ = .ok (withoutConfig s) := by
  have hreach : LaunchersInReach linkedView (Path.ofText "/p/q") := by decide +kernel
  obtain ⟨file, canonical, hconfig, -, hcanonical, hsettings⟩ :=
    assemble_withFile unsettled_linkedView noDangling_linkedView hreach
  obtain ⟨hsame, hpath⟩ := hsettings [("image", .text "x")] (by decide +kernel)
  obtain ⟨s, hs, himage⟩ : ∃ s, assemble (linkedView.withFile ["p", "q", "reth-build.toml"] []) []
      ⟨none, none, [("image", .text "x")]⟩ = .ok s ∧ s.image = "x" :=
    toOption_map_eq_some (by decide +kernel)
  have hfile : findConfig (linkedView.withFile ["p", "q", "reth-build.toml"] []) [] none =
      .ok (some (Path.ofText "/p/q/reth-build.toml")) := by
    decide +kernel
  refine ⟨file, canonical, s, hconfig, ?_, hcanonical, hs, hpath s hs, himage, ?_⟩
  · exact Option.some.inj (Except.ok.inj (hconfig.symm.trans hfile))
  · exact hsame.trans (congrArg (Except.map withoutConfig) hs)

end Assembling

section Far

/-- A launcher directory is refused, if its way leads to where nothing can be asked for. -/
theorem launcherDir_of_far {v : View} (env : Environment) {p q : Path} {n : Nat} (hsound : v.Sound)
    (habsolute : p.isAbsolute = true) (hleads : Leads v CleanEnd .root p.names n q)
    (hn : n ≤ v.expansionLimit) (hroot : q.anchor = .root) (hentries : ∀ name ∈ q.names, IsEntry name)
    (hlong : textLimit ≤ q.text.utf8ByteSize) : launcherDir v env p = .error (longName q) := by
  have hnul : View.hasNul q.text = false :=
    Path.hasNul_text hroot fun name hname => (hentries name hname).clean
  have hstraight : ".." ∉ q.names := fun hmem => (hentries _ hmem).proper rfl
  have hnode : v.node? q.text = .error .nameTooLong := by
    rw [View.node?, View.find_long hlong]
  have hexpand : expand v v.expansionLimit [] p.origin [⟨none, p.names⟩] = .ok q := by
    rw [Path.origin, if_pos habsolute]
    exact expand_of_cleanEnd hleads hn
  have hresolve : v.resolve p = .ok q :=
    View.resolve_of_expand hsound hexpand (.fromRoot hroot hstraight) hroot rfl hnul (by simp [hnode])
  have hfile : v.isFile q = .error (longName q) :=
    View.isFile_eq_error.mpr ⟨by simp [View.tooLong, hnul, hnode], rfl⟩
  simp only [launcherDir, expandHome_of_isAbsolute habsolute, ok_bind, hresolve, hfile, error_bind]

/-- A name that makes a path below the deepest directory too long to be asked for. -/
def farName : String := "xxxxxxxxxxxxxxx"

def deepest : Path := deepDirectory 16

/-- A link for the launcher directory that leads through deep directories and back to the root. -/
def farView : View :=
  ⟨⟨deepest.ancestors.map (fun p => (p.names, .directory)) ++
    [([".dev"], .link "s/xxxxxxxxxxxxxxx/back"), (["s"], .link deepest.text),
      (["Dockerfile"], .file []), (deepest.names ++ [farName], .directory),
      (deepest.names ++ [farName] ++ ["back"], .link "/")]⟩, some []⟩

theorem lookup_directories {paths : List Path} {location : Location}
    (h : location ∈ paths.map Path.names) :
    (paths.map fun p => (p.names, Node.directory)).lookup location = some .directory := by
  induction paths with
  | nil => contradiction
  | cons path rest ih =>
    rw [List.map_cons, List.lookup_cons]
    by_cases hpath : location = path.names
    · simp [hpath]
    · rw [beq_eq_false_iff_ne.mpr hpath]
      exact ih ((List.mem_cons.mp h).resolve_left hpath)

theorem holds_deepest : farView.tree.Holds deepest where
  root := rfl
  entries _ hname := List.eq_of_mem_replicate hname ▸ isEntry_longWord (by decide) (by decide)
  directories q hq := by
    by_cases hnil : q.names = []
    · simp [hnil]
    · rw [Tree.get?, if_neg hnil, farView, List.lookup_append,
        lookup_directories (List.mem_map_of_mem hq)]
      rfl

theorem get?_farView : farView.tree.get? [".dev"] = some (.link "s/xxxxxxxxxxxxxxx/back") ∧
    farView.tree.get? ["s"] = some (.link deepest.text) ∧
    farView.tree.get? ["Dockerfile"] = some (.file []) ∧
    farView.tree.get? ["reth-build.toml"] = none ∧
    farView.tree.get? (deepest.names ++ [farName]) = some .directory ∧
    farView.tree.get? (deepest.names ++ [farName] ++ ["back"]) = some (.link "/") := by
  refine ⟨?_, ?_, ?_, ?_, ?_, ?_⟩ <;> decide +kernel

theorem rooted_farView : isRooted deepest.text = true ∧ isRooted "/" = true ∧
    isRooted "s/xxxxxxxxxxxxxxx/back" = false :=
  ⟨Path.isRooted_text holds_deepest.isAbsolute, by decide +kernel, by decide +kernel⟩

theorem steps_farView : steps deepest.text.toList = deepest.names ∧ steps "/".toList = [] ∧
    steps "s/xxxxxxxxxxxxxxx/back".toList = ["s", farName, "back"] :=
  ⟨Path.steps_text holds_deepest.root, by decide +kernel, by decide +kernel⟩

theorem walk_spine (links : Nat) (more : List String) :
    walk farView.tree true (links + 1) [] ("s" :: more) =
      walk farView.tree true links deepest.names more := by
  have hlink : farView.tree.get? ([] ++ ["s"]) = some (.link deepest.text) := get?_farView.2.1
  rw [walk_follow (by decide) (by decide) hlink, if_pos rooted_farView.1, steps_farView.1]
  exact holds_deepest.walk_child true links more

theorem walk_back (links : Nat) (more : List String) :
    walk farView.tree true (links + 1) deepest.names (farName :: "back" :: more) =
      walk farView.tree true links [] more := by
  obtain ⟨-, -, -, -, hdown, hback⟩ := get?_farView
  rw [walk_enter (by decide) (by decide) hdown, walk_follow (by decide) (by decide) hback,
    if_pos rooted_farView.2.1, steps_farView.2.1]
  rfl

/-- For the system the launcher directory is the root. -/
theorem walk_dev (links : Nat) (more : List String) :
    walk farView.tree true (links + 3) [] (".dev" :: more) = walk farView.tree true links [] more := by
  have hlink : farView.tree.get? ([] ++ [".dev"]) = some (.link "s/xxxxxxxxxxxxxxx/back") :=
    get?_farView.1
  rw [walk_follow (by decide) (by decide) hlink, if_neg (by simp [rooted_farView.2.2]),
    steps_farView.2.2]
  exact (walk_spine _ _).trans (walk_back links more)

theorem noDangling_farView : farView.tree.NoDangling := by
  intro location target hlink vacant
  have hmem : (location, Node.link target) ∈ farView.tree.entries :=
    Tree.mem_of_get? hlink fun hnil => by simp [hnil] at hlink
  obtain hmem | hmem := List.mem_append.mp hmem
  · simp at hmem
  simp only [List.mem_cons, List.not_mem_nil, or_false, Prod.mk.injEq, reduceCtorEq, and_false,
    false_or] at hmem
  obtain ⟨rfl, -⟩ | ⟨rfl, -⟩ | ⟨rfl, -⟩ := hmem
  · rw [linkLimit, walk_dev, walk_done rfl]
    simp
  · rw [linkLimit, walk_spine, walk_done rfl]
    simp
  · rw [linkLimit, List.append_assoc, holds_deepest.walk_child, List.singleton_append, walk_back,
      walk_done rfl]
    simp

/-- What is looked for in the launcher directory is looked for at the root. -/
theorem find_farView {p : Path} {more : List String} (hroot : p.anchor = .root)
    (hnames : p.names = ".dev" :: more) (hroom : p.text.utf8ByteSize < textLimit) :
    farView.find true p.text = walk farView.tree true 37 [] more := by
  have hlimit : linkLimit = 37 + 3 := rfl
  rw [View.find_text hroot hroom, hnames, hlimit, walk_dev]

theorem isFile_farView : farView.isFile (Path.root.join configName) = .ok false ∧
    farView.isFile ((Path.root.join launcherName).join configName) = .ok false ∧
    farView.isFile ((Path.root.join launcherName).join dockerfileName) = .ok true := by
  obtain ⟨-, -, hdockerfile, hconfig, -, -⟩ := get?_farView
  have habsent : advance farView.tree true [] ["reth-build.toml"] =
      .ok (.done (.vacant ["reth-build.toml"])) := by
    rw [advance_name (by decide) (by decide) (by decide), List.nil_append, hconfig, if_pos rfl]
  have hthere : advance farView.tree true [] ["Dockerfile"] =
      .ok (.done (.node ["Dockerfile"] (.file []))) := by
    rw [advance_name (by decide) (by decide) (by decide), List.nil_append, hdockerfile]
    exact if_pos rfl
  have hvacant : farView.find true ((Path.root.join launcherName).join configName).text =
      .ok (.vacant ["reth-build.toml"]) :=
    (find_farView rfl (by decide +kernel) (by decide +kernel)).trans (walk_done habsent 37)
  have hfile : farView.find true ((Path.root.join launcherName).join dockerfileName).text =
      .ok (.node ["Dockerfile"] (.file [])) :=
    (find_farView rfl (by decide +kernel) (by decide +kernel)).trans (walk_done hthere 37)
  have hentry : IsEntry "reth-build.toml" := by decide
  refine ⟨Tree.Holds.isFile_absent .of_root (by decide) names_configName hentry hconfig
    (by decide +kernel), ?_, View.isFile_iff.mpr ⟨by decide +kernel, _, _,
      View.node?_eq_ok.mpr hfile, rfl⟩⟩
  rw [View.isFile, View.test, View.node?, hvacant]
  rfl

theorem unsettled_farView : Unsettled farView [] .root (Path.root.join launcherName) [] where
  clean e he := by
    have hdeepest : ∀ name ∈ deepest.names, View.hasNul name = false :=
      fun name hname => (holds_deepest.entries name hname).clean
    have hfar : View.hasNul farName = false := by decide
    obtain he | he := List.mem_append.mp he
    · obtain ⟨p, hp, rfl⟩ := List.mem_map.mp he
      exact fun name hname => hdeepest name ((Path.mem_ancestors.mp hp).2.subset hname)
    · simp only [List.mem_cons, List.not_mem_nil, or_false] at he
      obtain rfl | rfl | rfl | rfl | rfl := he
      · decide
      · decide
      · decide
      · exact List.forall_mem_append.mpr ⟨hdeepest, by decide⟩
      · exact List.forall_mem_append.mpr ⟨List.forall_mem_append.mpr ⟨hdeepest, by decide⟩, by decide⟩
  held := .of_root
  seen := rfl
  unset := rfl
  unnamed := rfl
  missed := by
    have hcandidates : configCandidates Path.root.ancestors =
        [Path.root.join configName, (Path.root.join launcherName).join configName] := rfl
    rw [findConfig_seen .of_root rfl rfl, hcandidates, firstAccepted_cons_of_not isFile_farView.1,
      firstAccepted_cons_of_not isFile_farView.2.1, firstAccepted]
  found := by
    have hcandidates : Path.root.ancestors.map (·.join launcherName) =
        [Path.root.join launcherName] := rfl
    rw [findLauncherDir_seen .of_root rfl, hcandidates]
    have haccepted : (fun p => farView.isFile (p.join dockerfileName))
        (Path.root.join launcherName) = .ok true := isFile_farView.2.2
    exact firstAccepted_cons_of_accepted haccepted
  leads := by
    have hnames : (Path.root.join launcherName).names = ".dev" :: [] := by decide +kernel
    rw [View.node?_eq_ok, find_farView rfl hnames (by decide +kernel), walk_done rfl]
  free := get?_farView.2.2.2.1

/-- Where the launcher directory is looked for once all links are expanded. -/
def farEnd : Path := (deepest.child farName (by decide)).child "back" (by decide)

theorem entries_farEnd : ∀ name ∈ farEnd.names, IsEntry name := by
  have hnames : farEnd.names = deepest.names ++ [farName, "back"] := by
    simp [farEnd, Path.child]
  rw [hnames]
  exact List.forall_mem_append.mpr ⟨holds_deepest.entries, by decide⟩

theorem utf8ByteSize_deepest_child (hname : IsName farName) :
    (deepest.child farName hname).text.utf8ByteSize = textLimit := by
  rw [Path.text_of_root rfl, String.utf8ByteSize_append, Path.utf8ByteSize_intercalate, deepest,
    Path.child, deepDirectory]
  simp only [List.map_append, List.map_replicate, utf8ByteSize_longWord, List.sum_append,
    List.sum_replicate_nat, List.length_append, List.length_replicate]
  rfl

theorem utf8ByteSize_farEnd : textLimit ≤ farEnd.text.utf8ByteSize :=
  (utf8ByteSize_deepest_child (by decide)).ge.trans (Path.utf8ByteSize_parent_le (p := farEnd) rfl)

/-- Below the deepest directory nothing is asked for, and so the link back is not seen. -/
theorem leads_farView : Leads farView CleanEnd .root [".dev"] 2 farEnd := by
  have hlink {name target : String} (hname : IsName name) (hentry : IsEntry name)
      (hroom : (Path.root.child name hname).text.utf8ByteSize < textLimit)
      (hget : farView.tree.get? [name] = some (.link target)) :
      farView.linkTarget? (Path.root.child name hname) = some target := by
    rw [linkTarget?_child unsettled_farView.sound .of_root (.fromRoot rfl nofun) hentry.proper
      (Nat.not_lt.mpr hentry.short) hroom, Path.root, List.nil_append, hget]
  have hdeepest : ∀ p ∈ deepest.ancestors, CleanEnd p := fun p hp name hname =>
    (holds_deepest.entries name
      ((Path.mem_ancestors.mp hp).2.subset (List.mem_of_getLast? hname))).clean
  have hparts : Path.parts deepest.text.toList = "" :: deepest.names := by
    rw [Path.toList_text_of_root rfl, Path.parts_slash,
      Path.parts_intercalate deepest.isName (by simp [deepest, deepDirectory])]
  have hend : Leads farView CleanEnd deepest [farName, "back"] 0 farEnd :=
    .enter (by decide) (by decide) (.child (by decide))
      (View.linkTarget?_long (utf8ByteSize_deepest_child (by decide)).ge)
      (.enter (by decide) (by decide) (.child (by decide))
        (View.linkTarget?_long utf8ByteSize_farEnd) (.done farEnd))
  have hspine : Leads farView CleanEnd .root ["s", farName, "back"] 1 farEnd := by
    refine .follow (by decide) (by decide) (.child (by decide))
      (hlink (by decide) (by decide) (by decide +kernel) get?_farView.2.1) ?_
    rw [targetStart, if_pos rooted_farView.1, hparts]
    exact .skip (by decide) (holds_deepest.leads hdeepest rfl (List.nil_append _) hend)
  refine .follow (by decide) (by decide) (.child (by decide))
    (hlink (by decide) (by decide) (by decide +kernel) get?_farView.1) ?_
  have hnames : Path.parts "s/xxxxxxxxxxxxxxx/back".toList ++ [] = ["s", farName, "back"] := by
    decide +kernel
  rw [targetStart, if_neg (by simp [rooted_farView.2.2]), hnames]
  exact hspine

/-- There is a launcher directory, and there are settings with a file in it, but none without. -/
theorem assemble_withFile_far :
    Unsettled farView [] .root (Path.root.join launcherName) [] ∧ farView.tree.NoDangling ∧
      assemble farView [] ⟨none, none, []⟩ = .error (.files (longName farEnd)) ∧
      (assemble (farView.withFile ["reth-build.toml"] []) [] ⟨none, none, []⟩).toOption.map
        (·.baseDir) = some .root := by
  refine ⟨unsettled_farView, noDangling_farView, ?_, by decide +kernel⟩
  have henvironment : environmentFields [] = .ok [] := rfl
  have hspelled : argument? (SettingsRequest.mk none none []).given "base_dir" = none := rfl
  have hdirectory : launcherDir farView [] (Path.root.join launcherName) = .error (longName farEnd) :=
    launcherDir_of_far [] unsettled_farView.sound rfl leads_farView (by decide) rfl entries_farEnd
      utf8ByteSize_farEnd
  have hcheck (culprit : Culprit) : checkBaseDir farView [] (Path.root.join launcherName) culprit =
      .error (.files (longName farEnd)) := by
    rw [checkBaseDir, follow_standard, ok_bind, hdirectory]
    rfl
  rw [assemble_eq_of_chosen ⟨rfl, unsettled_farView.chooseConfig_eq [],
      unsettled_farView.chooseBaseDir_eq []⟩, readDocument?, ok_bind, henvironment, ok_bind,
    follow_standard, ok_bind, baseDirOf_of_chosen hspelled, hcheck, error_bind]

end Far

end Settings
end BuildLauncher
