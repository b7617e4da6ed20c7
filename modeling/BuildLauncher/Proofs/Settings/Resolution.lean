import BuildLauncher.Proofs.Files.Arrival
import BuildLauncher.Proofs.Settings.Directory

/-!
# The launcher directory of a path that exists

The launcher directory is the directory that the system comes to, or the one that the file lies in to
which it comes, as long as all that is asked for on the way is within reach (`launcherDir_canonical`).
-/
namespace BuildLauncher

open Files

section Canonical

variable {v : View} {env : Environment} {path start directory : Path} {location : Location}
  {node : Node}

/-- The folder of a node: its own location if it is a directory, and the one above otherwise. -/
def folderOf (location : Location) (node : Node) : Location :=
  if node.isDirectory then location else location.dropLast

theorem names_of_lies (h : Lies v.tree directory location node) :
    v.tree.Holds directory ∧ directory.names = folderOf location node := by
  cases h with
  | itself hheld => exact ⟨hheld, rfl⟩
  | within hheld _ _ _ hfile =>
    refine ⟨hheld, ?_⟩
    cases node <;> simp_all [folderOf, Node.isDirectory, Node.isFile]

theorem launcherDir_of_locates (hsound : v.Sound)
    (hstart : expandHome (env.get? "HOME") path = .ok start) (h : v.Locates start location node) :
    ∃ directory, launcherDir v env path = .ok directory ∧ Lies v.tree directory location node := by
  obtain ⟨canonical, directory, hresolve, hroot, hnames, hlies, hnode⟩ :=
    View.resolve_of_locates hsound h
  have hnul : View.hasNul canonical.text = false := (View.askable_of_resolve hresolve).1
  have htest : v.isFile canonical = .ok node.isFile := by
    simp [View.isFile, View.test, hnul, hnode]
  refine ⟨directory, ?_, hlies⟩
  simp only [launcherDir, hstart, ok_bind, hresolve, htest]
  cases hlies with
  | itself hheld =>
    obtain rfl : canonical = directory := Files.Path.ext (hroot.trans hheld.root.symm) hnames
    rfl
  | @within name _ hheld _ _ _ hfile =>
    have hparent : canonical.parent = directory := by
      refine Files.Path.ext (hroot.trans hheld.root.symm) ?_
      simp [Path.parent, hnames]
    rw [hfile, ← hparent]
    rfl

/-- The launcher directory of a path is the directory that it leads to, or that the file lies in to
which it leads, under its own path. So all paths that lead there, or to files there, have the same
one. -/
theorem launcherDir_canonical (hsound : v.Sound)
    (hstart : expandHome (env.get? "HOME") path = .ok start) (h : v.Locates start location node) :
    ∃ directory, launcherDir v env path = .ok directory ∧ v.tree.Holds directory ∧
      directory.names = folderOf location node ∧
      ∀ (other : Environment) (path' start' : Path) (location' : Location) (node' : Node),
        expandHome (other.get? "HOME") path' = .ok start' → v.Locates start' location' node' →
          folderOf location' node' = folderOf location node →
            launcherDir v other path' = .ok directory := by
  obtain ⟨directory, hdirectory, hlies⟩ := launcherDir_of_locates hsound hstart h
  obtain ⟨hheld, hnames⟩ := names_of_lies hlies
  refine ⟨directory, hdirectory, hheld, hnames, ?_⟩
  intro other path' start' location' node' hstart' h' hfolder
  obtain ⟨directory', hdirectory', hlies'⟩ := launcherDir_of_locates hsound hstart' h'
  obtain ⟨hheld', hnames'⟩ := names_of_lies hlies'
  obtain rfl : directory' = directory :=
    Files.Path.ext (hheld'.root.trans hheld.root.symm) (by rw [hnames', hfolder, hnames])
  exact hdirectory'

theorem sound_launcherView : Settings.launcherView.Sound where
  clean := by decide +kernel
  held base hbase := by
    obtain rfl := Option.mem_some_iff.mp hbase
    exact ⟨Path.ofText "/srv", by decide +kernel, by decide +kernel⟩

theorem launcherDir_canonical_linked : ∃ directory,
    launcherDir Settings.launcherView [] (Path.ofText "../home/reth/../recipe") = .ok directory ∧
      directory.names = ["home", ".dev"] ∧
      launcherDir Settings.launcherView [("HOME", "/home")] (Path.ofText "~/.dev/") =
        .ok directory := by
  have hfile : Settings.launcherView.Locates (Path.ofText "../home/reth/../recipe")
      ["home", ".dev", "Dockerfile"] (.file []) := by
    decide +kernel
  have hdirectory : Settings.launcherView.Locates (Path.ofText "/home/.dev") ["home", ".dev"]
      .directory := by
    decide +kernel
  have hstart : expandHome (Environment.get? [] "HOME") (Path.ofText "../home/reth/../recipe") =
      .ok (Path.ofText "../home/reth/../recipe") := by
    decide +kernel
  obtain ⟨directory, h, -, hnames, hother⟩ :=
    launcherDir_canonical sound_launcherView hstart hfile
  exact ⟨directory, h, hnames, hother [("HOME", "/home")] _ _ _ _ (by decide +kernel) hdirectory rfl⟩

/-- A path that climbs so often before it goes down to `e`. -/
def climbing (n : Nat) : Path where
  anchor := .here
  names := List.replicate n ".." ++ ["e"]
  isName name hname := by
    obtain hname | hname := List.mem_append.mp hname
    · exact List.eq_of_mem_replicate hname ▸ isName_up
    · exact List.mem_singleton.mp hname ▸ by decide

/-- A link to a link, whose target climbs so often, seen from another directory. -/
def climbingView (n : Nat) : View :=
  ⟨⟨[(["sub"], .directory), (["real"], .directory), (["e"], .link "real"),
    (["l"], .link (climbing n).text)]⟩, some ["sub"]⟩

theorem leads_climbs {good : Path → Prop} {p q : Path} {k m : Nat} {rest : List String}
    (hhere : p.anchor = .here) (hnames : p.names = List.replicate k "..") (n : Nat)
    (h : ∀ next : Path, next.anchor = .here → next.names = List.replicate (k + n) ".." →
      Leads v good next rest m q) : Leads v good p (List.replicate n ".." ++ rest) m q := by
  induction n generalizing p k with
  | zero => exact h p hhere hnames
  | succ n ih =>
    have hclimb : p.climb.names = List.replicate (k + 1) ".." := by
      rw [Path.names_climb, hnames, Path.isAbsolute, hhere]
      exact Path.settle_climb k
    refine .up (ih ((Path.anchor_climb p).trans hhere) hclimb fun next hnext hup => h next hnext ?_)
    rw [hup]
    congr 1
    omega

theorem text_climbing (n : Nat) : (climbing n).text = "/".intercalate (climbing n).names := by
  simp [Path.text, climbing, Anchor.text]

theorem utf8ByteSize_climbing (n : Nat) : (climbing n).text.utf8ByteSize = 3 * n + 1 := by
  have hup : "..".utf8ByteSize = 2 := rfl
  have hdown : "e".utf8ByteSize = 1 := rfl
  rw [text_climbing, Path.utf8ByteSize_intercalate]
  simp only [climbing, List.map_append, List.map_replicate, List.map_cons, List.map_nil,
    List.sum_append, List.sum_replicate_nat, List.sum_cons, List.sum_nil, List.length_append,
    List.length_replicate, List.length_singleton, hup, hdown]
  omega

theorem sound_climbingView (n : Nat) : (climbingView n).Sound where
  clean := by
    simp only [climbingView, List.forall_mem_cons]
    decide +kernel
  held base hbase := by
    obtain rfl : ["sub"] = base := Option.some.inj hbase
    refine ⟨Path.ofText "/sub", ⟨rfl, by decide +kernel, ?_⟩, by decide +kernel⟩
    have hancestors : (Path.ofText "/sub").ancestors = [Path.ofText "/sub", .root] := by
      decide +kernel
    rw [hancestors]
    simp only [List.forall_mem_cons]
    exact ⟨rfl, rfl, nofun⟩

/-- After the link the system climbs to the root and goes down to what the other link leads to. -/
theorem node?_climbingView (n : Nat) :
    (climbingView n).node? "../l" = .ok (["real"], .directory) := by
  obtain ⟨hrooted, -, hsteps⟩ := Path.steps_text_of_here (p := climbing n) rfl (by simp [climbing])
  have hlink : advance (climbingView n).tree true ["sub"] ["..", "l"] =
      .ok (.link [] (climbing n).text []) := rfl
  have hfar : walk (climbingView n).tree true 39 [] (climbing n).names =
      .ok (.node ["real"] .directory) := by
    refine (walk_eq_of_advance (advance_climbs _ true [] n ["e"]) 39).trans ?_
    rw [List.take_nil]
    rfl
  have hwalk : walk (climbingView n).tree true linkLimit ["sub"] ["..", "l"] =
      .ok (.node ["real"] .directory) := by
    rw [walk.eq_def, hlink]
    simpa only [linkLimit, hrooted, Bool.false_eq_true, if_false, hsteps, List.append_nil] using hfar
  have hfind : (climbingView n).find true "../l" =
      walk (climbingView n).tree true linkLimit ["sub"] ["..", "l"] := by
    have hsteps : steps "../l".toList = ["..", "l"] := by decide +kernel
    simp only [View.find, hsteps]
    rfl
  exact View.node?_eq_ok.mpr (hfind.trans hwalk)

/-- Where the path is too long to be asked for at the end of the climb, what is there counts as no
link. -/
theorem expand_climbingView {n : Nat} (hfar : textLimit ≤ 3 * (n + 1) + 1) :
    expand (climbingView n) (climbingView n).expansionLimit [] .here [⟨none, ["..", "l"]⟩] =
      .ok (climbing (n + 1)) := by
  have hup : Path.here.climb.anchor = .here ∧ Path.here.climb.names = [".."] := by
    constructor <;> rfl
  have hparts : Path.parts (climbing n).text.toList = (climbing n).names := by
    rw [text_climbing, Path.parts_intercalate (climbing n).isName (by simp [climbing])]
  have hnext : CleanEnd (Path.here.climb.child "l" (by decide)) ∧
      (Path.here.climb.child "l" (by decide)).text.utf8ByteSize < textLimit := by
    constructor
    · unfold CleanEnd
      decide +kernel
    · decide +kernel
  have hlink : (climbingView n).linkTarget? (Path.here.climb.child "l" (by decide)) =
      some (climbing n).text := by
    have hhere : Stands (climbingView n) .here ["sub"] := Stands.origin (p := .here) rfl
    have hstands : Stands (climbingView n) Path.here.climb [] :=
      hhere.climb (sound_climbingView n)
    rw [linkTarget?_child (sound_climbingView n) .of_root hstands (by decide) (by decide) hnext.2]
    rfl
  have hrooted : isRooted (climbing n).text = false :=
    (Path.steps_text_of_here (p := climbing n) rfl (by simp [climbing])).1
  have hleads : Leads (climbingView n) CleanEnd .here ["..", "l"] 1 (climbing (n + 1)) := by
    refine .up (.follow (by decide) (by decide) hnext.1 hlink ?_)
    rw [targetStart, hrooted, if_neg Bool.false_ne_true, hparts, List.append_nil]
    refine leads_climbs (k := 1) hup.1 hup.2 n fun next hhere hnames => ?_
    have hend : next.child "e" (by decide) = climbing (n + 1) := by
      refine Files.Path.ext hhere ?_
      simp [Path.child, climbing, hnames, Nat.add_comm]
    refine .enter (by decide) (by decide) ?_ ?_ (by rw [hend]; exact .done _)
    · simp only [hend, CleanEnd, climbing, List.getLast?_concat, Option.mem_some_iff, forall_eq']
      decide
    · rw [hend]
      exact View.linkTarget?_long (by rw [utf8ByteSize_climbing]; exact hfar)
  exact expand_of_cleanEnd hleads (Nat.mul_pos (by decide) (Nat.succ_pos _))

/-- So the other link is taken for the launcher directory. -/
theorem launcherDir_climbingView {n : Nat} (hfar : textLimit ≤ 3 * (n + 1) + 1) :
    launcherDir (climbingView n) [] (Path.ofText "../l") = .ok (Path.ofText "/e") := by
  have hstands : Stands (climbingView n) (climbing (n + 1)) ["e"] := by
    have hclimbs : ["sub"].length - (n + 1) = 0 := Nat.sub_eq_zero_of_le (Nat.succ_le_succ n.zero_le)
    have hnames : (climbing (n + 1)).names = List.replicate (n + 1) ".." ++ ["e"] := rfl
    have hend := Stands.fromHere (v := climbingView n) rfl rfl hnames (by decide)
    rwa [hclimbs] at hend
  have hnode : (climbingView n).node? (Path.ofText "/e").text = .ok (["real"], .directory) := rfl
  have hresolve : (climbingView n).resolve (Path.ofText "../l") = .ok (Path.ofText "/e") :=
    View.resolve_of_expand (sound_climbingView n) (expand_climbingView hfar) hstands
      (by decide +kernel) (by decide +kernel) (by decide +kernel) (by simp [hnode])
  have hhome : expandHome (Environment.get? [] "HOME") (Path.ofText "../l") =
      .ok (Path.ofText "../l") := by
    decide +kernel
  have hfile : (climbingView n).isFile (Path.ofText "/e") = .ok false := rfl
  rw [launcherDir, hhome, ok_bind, hresolve, ok_bind, hfile]
  rfl

/-- A view where the target of the link is just short enough to be one. -/
def farView : View := climbingView 1364

/-- Two spellings lead to one directory, all texts that are given are short, and they have two launcher
directories. One of these is a link to the other. -/
theorem launcherDir_far :
    farView.Sound ∧ (climbing 1364).text.utf8ByteSize < textLimit ∧
      farView.node? (Path.ofText "../l").text = .ok (["real"], .directory) ∧
      farView.node? (Path.ofText "/real").text = .ok (["real"], .directory) ∧
      launcherDir farView [] (Path.ofText "../l") = .ok (Path.ofText "/e") ∧
      launcherDir farView [] (Path.ofText "/real") = .ok (Path.ofText "/real") ∧
      farView.linkTarget? (Path.ofText "/e") = some "real" := by
  refine ⟨sound_climbingView 1364, ?_, node?_climbingView 1364, rfl,
    launcherDir_climbingView (by decide), rfl, rfl⟩
  rw [utf8ByteSize_climbing]
  decide

end Canonical

end BuildLauncher
