import BuildLauncher.Proofs.Files.Absolute
import BuildLauncher.Proofs.Launch.Processes

/-!
# Looking up and starting

A command is looked up where the launcher is, and started where it is to run. It leaves no trace, or
is run exactly once (`runCommand_once`). The file that is started is the one that was found, if the
command means the same in both places and that file can be started (`runCommand_located`).
-/
namespace BuildLauncher

open Files

section Starting

variable {v : View} {env : Environment} {text command : String} {texts arguments : List String}
  {cwd : Option Path} {directory : Location} {program : Program} {ending : Ending}
  {interrupted : Bool} {p : Process}

theorem startAt_eq_ok :
    startAt v text = .ok (program, ending, interrupted) ↔
      (∃ location, v.node? text = .ok (location, .program program)) ∧
        program.start = .runs ending interrupted := by
  unfold startAt
  cases hnode : v.node? text with
  | error fault => simp
  | ok found =>
    obtain ⟨location, node⟩ := found
    cases node with
    | directory | file | link => simp
    | program other =>
      have hplaced : (∃ place, (Except.ok (location, .program other) : Except Fault (Location × Node)) =
          .ok (place, .program program)) ↔ other = program := by
        simp
      rw [hplaced]
      constructor
      · intro h
        dsimp only at h
        split at h
        · rename_i hruns
          obtain ⟨rfl, rfl, rfl⟩ := by simpa using h
          exact ⟨rfl, hruns⟩
        · contradiction
      · rintro ⟨rfl, hruns⟩
        simp only [hruns]

/-- Is there something at a text that can be started? -/
def Startable (v : View) (text : String) : Prop := ∃ started, startAt v text = .ok started

/-- The first text at which something can be started, with what is started there. -/
structure FirstStart (v : View) (texts : List String) (text : String)
    (started : Program × Ending × Bool) : Prop where
  starts : startAt v text = .ok started
  first : ∃ before after, texts = before ++ text :: after ∧ ∀ other ∈ before, ¬Startable v other

theorem FirstStart.mem {started : Program × Ending × Bool} (h : FirstStart v texts text started) :
    text ∈ texts := by
  obtain ⟨before, after, rfl, -⟩ := h.first
  simp

/-- A text before which nothing can be started comes no later than the first start. -/
theorem FirstStart.eq_of_startable {started : Program × Ending × Bool} {found : String}
    (h : FirstStart v texts text started) (hfound : Startable v found)
    (hfirst : ∃ before after, texts = before ++ found :: after ∧
      ∀ other ∈ before, ¬Startable v other) : text = found := by
  obtain ⟨before, after, rfl, hbefore⟩ := h.first
  obtain ⟨skipped, rest, hsplit, hskipped⟩ := hfirst
  have htext : Startable v text := ⟨started, h.starts⟩
  -- Were one of the two lists of texts before longer, it would hold the other's startable text.
  obtain ⟨more, hmore, hrest⟩ | ⟨more, hmore, hrest⟩ := List.append_eq_append_iff.mp hsplit
  · cases more with
    | nil => simp_all
    | cons first more =>
      obtain ⟨rfl, -⟩ := List.cons.inj hrest
      exact absurd htext (hskipped text (by simp [hmore]))
  · cases more with
    | nil => simp_all
    | cons first more =>
      obtain ⟨rfl, -⟩ := List.cons.inj hrest
      exact absurd hfound (hbefore found (by simp [hmore]))

theorem startFirst_eq_ok {first : Option Fault} {last : Fault} {started : Program × Ending × Bool}
    (h : startFirst v first last texts = .ok started) : ∃ text, FirstStart v texts text started := by
  induction texts generalizing first last with
  | nil => contradiction
  | cons text rest ih =>
    unfold startFirst at h
    cases hstart : startAt v text with
    | ok found =>
      rw [hstart] at h
      obtain rfl := Except.ok.inj h
      exact ⟨text, hstart, [], rest, rfl, by simp⟩
    | error fault =>
      rw [hstart] at h
      obtain ⟨later, hlater, before, after, rfl, hbefore⟩ := ih h
      have hnone : ¬Startable v text := by
        rintro ⟨found, hfound⟩
        rw [hstart] at hfound
        contradiction
      exact ⟨later, hlater, text :: before, after, rfl, List.forall_mem_cons.mpr ⟨hnone, hbefore⟩⟩

/-- A process is the first start among the texts of its command, in the directory that it runs in. -/
theorem startCommand_first (h : startCommand v env command arguments cwd = .ok p) :
    ∃ directory text program ending interrupted, directoryFor v cwd = .ok directory ∧
      FirstStart (v.seenFrom (some directory)) (candidates env command) text
        (program, ending, interrupted) ∧
      p = ⟨⟨program.name, directory, arguments⟩, ending, interrupted⟩ := by
  simp only [startCommand] at h
  split at h
  · contradiction
  · obtain ⟨directory, hdirectory, h⟩ := bind_eq_ok h
    split at h
    · rename_i program ending interrupted hstarted
      obtain ⟨text, hfirst⟩ := startFirst_eq_ok hstarted
      exact ⟨directory, text, program, ending, interrupted, hdirectory, hfirst,
        (Except.ok.inj h).symm⟩
    · contradiction

end Starting

section Once

variable {h k : Host} {command : String} {arguments : List String} {cwd : Option Path}

/-- A program that is run once for a command: in the directory that a path leads to, or where the
launcher is. -/
structure RanOnce (h k : Host) (command : String) (arguments : List String) (cwd : Option Path)
    (directory : Location) (program : Program) (ending : Ending) (interrupted : Bool)
    (o : CommandOutcome) : Prop where
  given : ∀ path ∈ cwd, h.view.node? path.text = .ok (directory, .directory)
  own : cwd = none → h.view.workingDir = some directory
  placed : ∃ text ∈ candidates h.environment command, ∃ location,
    (h.view.seenFrom (some directory)).node? text = .ok (location, .program program)
  runs : program.start = .runs ending interrupted
  executions : k.executions = h.executions ++ [⟨program.name, directory, arguments⟩]
  argv : o.argv = command :: arguments
  cwd : o.cwd = cwd.map Path.text
  returncode : o.returncode =
    if interrupted then 130
    else
      match ending with
      | .exits status => ((status % 256 : Nat) : Int)
      | .killed signal _ => -(signal : Int)
  ok : o.ok = true ↔ o.returncode = 0

/-- Without a directory to name nothing is there to start in either. -/
theorem eq_none_of_nowhere {v : View} {e : Error} (h : cwd.elim v.currentPath .ok = .error e) :
    cwd = none ∧ v.workingDir = none ∧ e = .refused .notFound .nothing := by
  cases cwd with
  | some path => simp at h
  | none =>
    simp only [Option.elim_none, View.currentPath] at h
    split at h
    · rename_i hnone
      exact ⟨rfl, hnone, (Except.error.inj h).symm⟩
    · contradiction

open Launching in
/-- A command that is not found or cannot be started has run nothing, and every other one has run
one program. Only of a command that is found where no directory is left to run in something else is
told. -/
theorem runCommand_once (h : Host) (command : String) (arguments : List String) (cwd : Option Path)
    (hclean : (command :: arguments ++ cwd.toList.map Path.text).any View.hasNul = false) :
    (∃ reason, (on (runCommand (command :: arguments) cwd) h).1 =
        .error (.commandNotFound command reason) ∧
      (on (runCommand (command :: arguments) cwd) h).2.executions = h.executions) ∨
    (∃ outcome directory program ending interrupted,
      (on (runCommand (command :: arguments) cwd) h).1 = .ok outcome ∧
      RanOnce h (on (runCommand (command :: arguments) cwd) h).2 command arguments cwd directory
        program ending interrupted outcome) ∨
    cwd = none ∧ h.view.workingDir = none ∧
      (lookUp h.view h.environment command).isSome = true ∧
      (on (runCommand (command :: arguments) cwd) h).1 =
        .error (.files (.refused .notFound .nothing)) ∧
      (on (runCommand (command :: arguments) cwd) h).2.executions = h.executions := by
  obtain ⟨calls, hleft, hrun⟩ := commandRun_runCommand command arguments cwd h
  generalize on (runCommand (command :: arguments) cwd) h = run at hleft hrun ⊢
  obtain ⟨result, k⟩ := run
  have hnone (hcalls : calls = []) : k.executions = h.executions := by
    rw [hleft.executions, hcalls, List.append_nil]
  cases hrun with
  | absent hl => exact .inl ⟨_, rfl, hnone rfl⟩
  | nowhere hl hc =>
    obtain ⟨hcwd, hplace, rfl⟩ := eq_none_of_nowhere hc
    exact .inr (.inr ⟨hcwd, hplace, by simp [hl], rfl, hnone rfl⟩)
  | nul hl hc hs =>
    rw [startCommand_eq_nulCharacter.mp hs] at hclean
    contradiction
  | refused hl hc hs he => exact .inl ⟨_, rfl, hnone rfl⟩
  | finished hl hs =>
    obtain ⟨directory, text, program, ending, interrupted, hdirectory, hfirst, rfl⟩ :=
      startCommand_first hs
    obtain ⟨hplaced, hruns⟩ := startAt_eq_ok.mp hfirst.starts
    refine .inr (.inl ⟨_, directory, program, ending, interrupted, rfl, ?_⟩)
    exact {
      given := by
        rintro path rfl
        exact directoryFor_some hdirectory
      own := by
        rintro rfl
        exact directoryFor_none hdirectory
      placed := ⟨text, hfirst.mem, hplaced⟩
      runs := hruns
      executions := hleft.executions
      argv := rfl
      cwd := rfl
      returncode := by
        cases interrupted with
        | true => rfl
        | false => cases ending <;> rfl
      ok := by simp [CommandOutcome.ok] }

/-- A host with programs of one name at the root, in a working directory and on the path. -/
def toolHost : Host where
  view := ⟨⟨[(["tool"], .program ⟨"/tool", .runs (.exits 0) false⟩), (["work"], .directory),
    (["work", "tool"], .program ⟨"/work/tool", .runs (.killed 9 (by decide)) false⟩),
    (["work", "own"], .program ⟨"/work/own", .runs (.exits 0) false⟩), (["bin"], .directory),
    (["bin", "tool"], .program ⟨"/bin/tool", .runs (.exits 3) true⟩)]⟩, some []⟩
  environment := [("PATH", "/none:/bin")]
  clock := ⟨.whole 0, []⟩
  executions := []
  records := []

open Launching in
/-- An interruption counts and not the status of the program. -/
theorem runCommand_once_interrupted :
    ∃ outcome directory program ending interrupted,
      (on (runCommand ["tool", "x"] (some (Path.ofText "work"))) toolHost).1 = .ok outcome ∧
      RanOnce toolHost (on (runCommand ["tool", "x"] (some (Path.ofText "work"))) toolHost).2 "tool"
        ["x"] (some (Path.ofText "work")) directory program ending interrupted outcome ∧
      outcome.returncode = 130 := by
  have hstatus : (on (runCommand ["tool", "x"] (some (Path.ofText "work"))) toolHost).1.toOption.map
      CommandOutcome.returncode = some 130 := by
    decide +kernel
  obtain ⟨reason, hresult, -⟩ | ⟨outcome, directory, program, ending, interrupted, hresult, hran⟩ |
    ⟨hcwd, -⟩ := runCommand_once toolHost "tool" ["x"] (some (Path.ofText "work")) (by decide +kernel)
  · rw [hresult] at hstatus
    contradiction
  · rw [hresult] at hstatus
    exact ⟨outcome, directory, program, ending, interrupted, hresult, hran, Option.some.inj hstatus⟩
  · contradiction

/-- A host whose working directory was removed, with a program that the system cannot start. -/
def goneHost : Host :=
  { toolHost with view := ⟨⟨[(["tool"], .program ⟨"/tool", .refused .badFormat⟩)]⟩, none⟩ }

open Launching in
/-- In a directory that was removed a command is neither run nor refused. -/
theorem runCommand_gone :
    ["/tool"].any View.hasNul = false ∧
      (on (runCommand ["/tool"] none) goneHost).1 = .error (.files (.refused .notFound .nothing)) := by
  exact ⟨by decide +kernel, rfl⟩

end Once

section Located

variable {v w : View} {env : Environment} {command text : String} {directory : Location}

/-- The texts that starting a command tries. An empty list of directories stands for the one in which
it is started. -/
def startTexts (env : Environment) (command : String) : List String :=
  if env.get? "PATH" = some "" then [command] else candidates env command

/-- Could a command be started in a directory, whether it is found or not? -/
def CouldStart (v : View) (env : Environment) (command : String) (directory : Location) : Prop :=
  ∃ text ∈ startTexts env command, Startable (v.seenFrom (some directory)) text

/-- A command that means the same in a directory as where the launcher is. -/
structure MeansAlike (v : View) (env : Environment) (command : String) (directory : Location) :
    Prop where
  searched : startTexts env command = candidates env command
  alike : ∀ text ∈ candidates env command,
    (v.seenFrom (some directory)).node? text = v.node? text

/-- Paths from the root mean the same everywhere. -/
theorem meansAlike_of_isRooted (hpath : env.get? "PATH" ≠ some "")
    (h : ∀ text ∈ candidates env command, isRooted text = true) :
    MeansAlike v env command directory where
  searched := if_neg hpath
  alike text htext := View.node?_of_isRooted (h text htext)

theorem isProgram_iff :
    isProgram v text = true ↔ View.hasNul text = false ∧
      ∃ location program, v.node? text = .ok (location, .program program) := by
  unfold isProgram
  cases v.node? text with
  | error fault => simp
  | ok found =>
    obtain ⟨location, node⟩ := found
    cases node <;> simp

theorem Startable.isProgram (h : Startable v text) (hnul : View.hasNul text = false) :
    isProgram v text = true := by
  obtain ⟨⟨program, ending, interrupted⟩, hstart⟩ := h
  obtain ⟨⟨location, hplaced⟩, -⟩ := startAt_eq_ok.mp hstart
  exact isProgram_iff.mpr ⟨hnul, location, program, hplaced⟩

theorem startAt_congr (h : w.node? text = v.node? text) : startAt w text = startAt v text := by
  simp only [startAt, h]

theorem startable_congr (h : w.node? text = v.node? text) : Startable w text ↔ Startable v text := by
  simp only [Startable, startAt_congr h]

section Clean

theorem mem_of_mem_splitOn {separator : Char} {s part : List Char}
    (h : part ∈ s.splitOn separator) : ∀ c ∈ part, c ∈ s := by
  induction s generalizing part with
  | nil => simp_all
  | cons first rest ih =>
    rw [List.splitOn_cons_eq_if_modifyHead] at h
    split at h
    · obtain rfl | hmem := List.mem_cons.mp h
      · simp
      · exact fun c hc => List.mem_cons_of_mem _ (ih hmem c hc)
    · obtain ⟨head, tail, hparts⟩ := List.exists_cons_of_ne_nil (List.splitOn_ne_nil separator rest)
      rw [hparts, List.modifyHead_cons] at h
      rw [hparts] at ih
      obtain rfl | hmem := List.mem_cons.mp h
      · intro c hc
        obtain rfl | hc := List.mem_cons.mp hc
        · exact List.mem_cons_self
        · exact List.mem_cons_of_mem _ (ih List.mem_cons_self c hc)
      · exact fun c hc => List.mem_cons_of_mem _ (ih (List.mem_cons_of_mem _ hmem) c hc)

theorem hasNul_append (s t : String) : View.hasNul (s ++ t) = (View.hasNul s || View.hasNul t) := by
  simp [View.hasNul]

theorem hasNul_searchPath (hpath : ∀ path ∈ env.get? "PATH", View.hasNul path = false) :
    ∀ d ∈ searchPath env, View.hasNul d = false := by
  have hparts (path : String) (hclean : View.hasNul path = false) :
      ∀ d ∈ (path.toList.splitOn ':').map String.ofList, View.hasNul d = false := by
    intro d hd
    obtain ⟨part, hpart, rfl⟩ := List.mem_map.mp hd
    simp only [View.hasNul, List.contains_eq_mem, decide_eq_false_iff_not, String.toList_ofList]
      at hclean ⊢
    exact fun hnul => hclean (mem_of_mem_splitOn hpart _ hnul)
  unfold searchPath
  split
  · exact hparts defaultPath (by decide)
  · simp
  · rename_i path _ hfound
    exact hparts path (hpath path hfound)

/-- A clean command is looked up and started by clean texts. -/
theorem hasNul_candidates (hcommand : View.hasNul command = false)
    (hpath : ∀ path ∈ env.get? "PATH", View.hasNul path = false) :
    ∀ text ∈ candidates env command, View.hasNul text = false := by
  unfold candidates
  split
  · exact List.forall_mem_singleton.mpr hcommand
  · intro text htext
    obtain ⟨d, hd, rfl⟩ := List.mem_map.mp htext
    have hclean := hasNul_searchPath hpath d hd
    have hslash : View.hasNul "/" = false := by decide
    unfold inDirectory
    split <;> simp [hasNul_append, hclean, hcommand, hslash]

end Clean

/-- What is not found cannot be started in a directory where the command means the same. -/
theorem MeansAlike.not_couldStart (h : MeansAlike v env command directory)
    (hclean : ∀ text ∈ candidates env command, View.hasNul text = false)
    (hl : lookUp v env command = none) : ¬CouldStart v env command directory := by
  rintro ⟨text, htext, hstart⟩
  rw [h.searched] at htext
  have hhere : Startable v text := (startable_congr (h.alike text htext)).mp hstart
  have hnone := List.find?_eq_none.mp hl text htext
  exact hnone (hhere.isProgram (hclean text htext))

/-- What is found and can be started is the first that can be started in a directory where the
command means the same. -/
theorem MeansAlike.eq_of_lookUp (h : MeansAlike v env command directory)
    (hclean : ∀ text ∈ candidates env command, View.hasNul text = false) {found : String}
    (hl : lookUp v env command = some found) (hfound : Startable v found)
    {started : Program × Ending × Bool}
    (hfirst : FirstStart (v.seenFrom (some directory)) (candidates env command) text started) :
    text = found := by
  obtain ⟨-, before, after, hsplit, hbefore⟩ := List.find?_eq_some_iff_append.mp hl
  have hmem : found ∈ candidates env command := by simp [hsplit]
  refine hfirst.eq_of_startable ((startable_congr (h.alike found hmem)).mpr hfound)
    ⟨before, after, hsplit, fun other hother hstart => ?_⟩
  have hother' : other ∈ candidates env command := by simp [hsplit, hother]
  have hhere : Startable v other := (startable_congr (h.alike other hother')).mp hstart
  have habsent : isProgram v other = false := by simpa using hbefore other hother
  rw [hhere.isProgram (hclean other hother')] at habsent
  contradiction

/-- No fault reads as if nothing had been found. -/
theorem message_ne_notOnPath (e : Error) : e.message ≠ notOnPath := by
  have hhead : notOnPath.toList.head? = some 'n' := by decide
  have hother : e.message.toList.head? ≠ some 'n' := by
    unfold Error.message
    cases e with
    | refused fault subject => simp [String.append_assoc]
    | linkLoop path => simp
    | nulCharacter | noHome => decide
  exact fun heq => hother (heq ▸ hhead)

open Launching in
/-- A command counts as not found exactly if the look-up from where the launcher is finds nothing.
Where it means the same in the directory that it is to run in, it could not have been started there
either. What is executed is the first file that can be started there, and that is the file that was
found, if this one can be started. -/
theorem runCommand_located (h : Host) (command : String) (arguments : List String)
    (cwd : Option Path) {directory : Location}
    (hclean : (command :: arguments ++ cwd.toList.map Path.text).any View.hasNul = false)
    (hpath : ∀ path ∈ h.environment.get? "PATH", View.hasNul path = false)
    (hdirectory : directoryFor h.view cwd = .ok directory) :
    ((on (runCommand (command :: arguments) cwd) h).1 =
        .error (.commandNotFound command notOnPath) ↔
      lookUp h.view h.environment command = none) ∧
    (MeansAlike h.view h.environment command directory →
      (on (runCommand (command :: arguments) cwd) h).1 =
        .error (.commandNotFound command notOnPath) →
      ¬CouldStart h.view h.environment command directory) ∧
    ∀ e, (on (runCommand (command :: arguments) cwd) h).2.executions = h.executions ++ [e] →
      ∃ found text program ending interrupted,
        lookUp h.view h.environment command = some found ∧
        FirstStart (h.view.seenFrom (some directory)) (candidates h.environment command) text
          (program, ending, interrupted) ∧
        e = ⟨program.name, directory, arguments⟩ ∧
        (MeansAlike h.view h.environment command directory → Startable h.view found →
          text = found ∧ ∃ location, h.view.node? found = .ok (location, .program program)) := by
  have htexts : ∀ text ∈ candidates h.environment command, View.hasNul text = false := by
    refine hasNul_candidates ?_ hpath
    simp only [List.cons_append, List.any_cons, Bool.or_eq_false_iff] at hclean
    exact hclean.1
  obtain ⟨calls, hleft, hrun⟩ := commandRun_runCommand command arguments cwd h
  generalize on (runCommand (command :: arguments) cwd) h = run at hleft hrun ⊢
  obtain ⟨result, k⟩ := run
  have hlook : result = .error (.commandNotFound command notOnPath) ↔
      lookUp h.view h.environment command = none := by
    cases hrun with
    | absent hl => exact iff_of_true rfl hl
    | nowhere hl | nul hl | finished hl => simp [hl]
    | refused hl _ _ _ => simp [hl, message_ne_notOnPath]
  refine ⟨hlook, fun halike hresult => halike.not_couldStart htexts (hlook.mp hresult),
    fun e he => ?_⟩
  obtain rfl : calls = [e] := List.append_cancel_left (hleft.executions.symm.trans he)
  cases hrun with
  | @finished found p hl hs =>
    obtain ⟨place, text, program, ending, interrupted, hplace, hfirst, rfl⟩ := startCommand_first hs
    obtain rfl : place = directory := Except.ok.inj (hplace.symm.trans hdirectory)
    refine ⟨found, text, program, ending, interrupted, hl, hfirst, rfl, fun halike hfound => ?_⟩
    have htext : text = found := halike.eq_of_lookUp htexts hl hfound hfirst
    obtain ⟨⟨location, hplaced⟩, -⟩ := startAt_eq_ok.mp hfirst.starts
    rw [halike.alike text hfirst.mem, htext] at hplaced
    exact ⟨htext, location, hplaced⟩

open Launching in
/-- On the path, the program that was found is run, whatever is in the directory it runs in. -/
theorem runCommand_located_onPath : ∃ e found location program,
    (on (runCommand ["tool", "x"] (some (Path.ofText "work"))) toolHost).2.executions = [e] ∧
      lookUp toolHost.view toolHost.environment "tool" = some found ∧
      toolHost.view.node? found = .ok (location, .program program) ∧ e.program = program.name := by
  have hdirectory : directoryFor toolHost.view (some (Path.ofText "work")) = .ok ["work"] := by
    decide +kernel
  have hrooted : ∀ text ∈ candidates toolHost.environment "tool", isRooted text = true := by
    decide +kernel
  have halike : MeansAlike toolHost.view toolHost.environment "tool" ["work"] :=
    meansAlike_of_isRooted (by decide +kernel) hrooted
  have hfound : lookUp toolHost.view toolHost.environment "tool" = some "/bin/tool" := by
    decide +kernel
  have hstartable : Startable toolHost.view "/bin/tool" := ⟨_, rfl⟩
  have hran : (on (runCommand ["tool", "x"] (some (Path.ofText "work"))) toolHost).2.executions =
      toolHost.executions ++ [⟨"/bin/tool", ["work"], ["x"]⟩] := by
    decide +kernel
  obtain ⟨-, -, hexecution⟩ := runCommand_located toolHost "tool" ["x"] (some (Path.ofText "work"))
    (by decide +kernel) (by decide +kernel) hdirectory
  obtain ⟨found, text, program, ending, interrupted, hlook, -, he, hsame⟩ := hexecution _ hran
  obtain rfl : "/bin/tool" = found := Option.some.inj (hfound.symm.trans hlook)
  obtain ⟨-, location, hplaced⟩ := hsame halike hstartable
  exact ⟨_, _, location, program, hran, hlook, hplaced, by rw [he]⟩

open Launching in
/-- A relative command is missed where it could be started, and another program of its name is
started than the one that was found. -/
theorem runCommand_elsewhere :
    directoryFor toolHost.view (some (Path.ofText "work")) = .ok ["work"] ∧
      (on (runCommand ["./own"] (some (Path.ofText "work"))) toolHost).1 =
        .error (.commandNotFound "./own" notOnPath) ∧
      CouldStart toolHost.view toolHost.environment "./own" ["work"] ∧
      (lookUp toolHost.view toolHost.environment "./tool").map toolHost.view.node? =
        some (.ok (["tool"], .program ⟨"/tool", .runs (.exits 0) false⟩)) ∧
      (on (runCommand ["./tool"] (some (Path.ofText "work"))) toolHost).2.executions =
        [⟨"/work/tool", ["work"], []⟩] := by
  refine ⟨by decide +kernel, rfl, ⟨"./own", by decide +kernel, _, rfl⟩, by decide +kernel,
    by decide +kernel⟩

end Located
end BuildLauncher
