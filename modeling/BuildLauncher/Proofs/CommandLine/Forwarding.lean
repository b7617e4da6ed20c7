import BuildLauncher.Proofs.CommandLine.Payloads
import BuildLauncher.Proofs.Launch.Agreement
import BuildLauncher.Proofs.Launch.Escapes
import BuildLauncher.Proofs.Launch.Forwarding

/-!
# Words after two hyphens

What stands after two hyphens is for the runner, whatever it looks like. It reaches the runner as it
is and stands last in the command that a plan reports. It does not change what is asked for, nor how
the program ends if the runner can be started with it (`forwards_extra`).
-/
namespace BuildLauncher

open Report (OutputMode Output)

section Emission

variable {r : Report} {mode : OutputMode}

theorem Report.mountLines_retell (line : String) (r : Report) :
    (r.retell line).mountLines = r.mountLines := by
  simp [mountLines, retell, Fields.get?_retell]

/-- Whether a report can be shown does not depend on the command of the runner. -/
theorem Report.render_retell (line : String) (r : Report) (verbose : Bool) :
    ((r.retell line).render verbose).map (fun _ => ()) =
      (r.render verbose).map fun _ => () := by
  have hmounts := mountLines_retell line r
  have hinfo : (r.retell line).infoLines = r.infoLines := by simp only [infoLines, retell]
  have herror : (r.retell line).renderError verbose = r.renderError verbose := by
    simp only [renderError, errorMessage, retell]
  have hop : (r.retell line).op = r.op := rfl
  have hok : (r.retell line).ok = r.ok := rfl
  simp only [render, herror, hop, hok]
  split_ifs <;> simp only [map_const_bind_pure]
  · cases verbose <;> simp only [renderBuild, hinfo, Bool.false_eq_true, if_false, if_true,
      map_const_pure, map_const_bind_pure]
  · cases verbose with
    | false => simp only [renderLaunch, Bool.false_eq_true, if_false, map_const_pure]
    | true =>
      simp only [renderLaunch, hinfo, hmounts, if_true]
      cases r.mountLines <;> simp only [ok_bind, error_bind, map_error, map_const_bind_pure]
  · simp only [renderPlan, hmounts, map_const_bind_pure]
  · cases verbose <;> simp only [renderOther, hinfo, Bool.false_eq_true, if_false, if_true,
      map_const_pure, map_const_bind_pure]

theorem Report.status_written (text : String) : (r.written mode text).status = r.exitCode := by
  cases hok : r.ok <;> simp [written, exitCode, hok]

/-- Neither the status nor the failure to write a report depends on the command of the runner. -/
theorem Report.emit_retell (line : String) (r : Report) (mode : OutputMode) :
    ((r.retell line).emit mode).map Output.status = (r.emit mode).map Output.status := by
  have hformat : ((r.retell line).format mode).map (fun _ => ()) =
      (r.format mode).map fun _ => () := by
    have hrender := r.render_retell line mode.verbose
    simp only [format]
    split_ifs
    · simp only [map_ok]
    · simp only [map_ok]
    · exact hrender
  generalize hretold : (r.retell line).format mode = retold at hformat
  generalize hplain : r.format mode = plain at hformat
  cases retold with
  | error e =>
    obtain rfl : plain = .error e := map_eq_error.mp (hformat.symm.trans (map_error _ e))
    rw [emit_eq_error.mpr hretold, emit_eq_error.mpr hplain]
  | ok retold =>
    obtain ⟨text, rfl, -⟩ := map_eq_ok (hformat.symm.trans (map_ok _ retold))
    rw [emit_of_format hretold, emit_of_format hplain, map_ok, map_ok, status_written,
      status_written]
    rfl

end Emission

namespace CommandLine

open Files Launching

section Reading

variable {options : List OptionSpec} {globals : List String} {given : List Given} {c : Command}

theorem isOption_name (c : Command) : isOption c.name = false ∧ c.name ≠ "--" := by
  cases c <;> decide

/-- Options that are read to their end are read alike before a command. -/
theorem readArguments_append (h : readArguments options false globals = .ok ⟨given, []⟩)
    (c : Command) (rest : List String) :
    readArguments options false (globals ++ c.name :: rest) = .ok ⟨given, c.name :: rest⟩ := by
  obtain ⟨hoption, hend⟩ := isOption_name c
  fun_induction readArguments options false globals generalizing given with
  | case1 =>
    obtain rfl : [] = given := (Arguments.mk.inj (Except.ok.inj h)).1
    simp [readArguments, hoption, hend]
  | case2 more =>
    obtain ⟨rfl, rfl⟩ := Arguments.mk.inj (Except.ok.inj h)
    simp [readArguments]
  | case3 => contradiction
  | case4 argument more hsep hyphen first hread ih =>
    obtain ⟨⟨others, _⟩, hmore, hgiven⟩ := map_eq_ok h
    obtain ⟨rfl, rfl⟩ := Arguments.mk.inj hgiven
    simp [readArguments, hsep, hyphen, hread, ih hmore]
  | case5 => contradiction
  | case6 argument hsep hyphen first long name hread value more ih =>
    obtain ⟨⟨others, _⟩, hmore, hgiven⟩ := map_eq_ok h
    obtain ⟨rfl, rfl⟩ := Arguments.mk.inj hgiven
    simp [readArguments, hsep, hyphen, hread, ih hmore]
  | case7 => contradiction
  | case8 => simp at h

/-- The words before a command decide what is asked for before it. -/
theorem readGlobal_append (path : String)
    (h : readArguments programSpec.options false globals = .ok ⟨given, []⟩) (c : Command)
    (rest : List String) :
    readGlobal path (globals ++ c.name :: rest) =
      (readGlobal path globals).map fun a => { a with rest := c.name :: rest } := by
  have heager : (⟨given, c.name :: rest⟩ : Arguments).eager? programSpec.options =
      (⟨given, []⟩ : Arguments).eager? programSpec.options := rfl
  have hdirectory : (⟨given, c.name :: rest⟩ : Arguments).valueOf "--base-dir" =
      (⟨given, []⟩ : Arguments).valueOf "--base-dir" := rfl
  simp only [readGlobal, readFor, h, readArguments_append h c rest, heager]
  split <;> try rfl
  simp only [ok_bind, hdirectory]
  split <;> rfl

/-- The settings that the words before a command ask for. -/
def globalSettings (path : String) (globals : List String) (h : Host) : Except Result Settings := do
  settingsFor (← readGlobal path globals) h

/-- What a command is given is read apart from what stands before it. -/
theorem interpret_append (path : String)
    (hglobals : readArguments programSpec.options false globals = .ok ⟨given, []⟩) (c : Command)
    (rest : List String) (h : Host) :
    interpret path (globals ++ c.name :: rest) h = do
      let s ← globalSettings path globals h
      let a ← readCommand path c rest
      return ⟨c, s, a⟩ := by
  simp only [interpret, globalSettings, readGlobal_append path hglobals]
  cases readGlobal path globals with
  | error e => rfl
  | ok a =>
    have hsettings : settingsFor { a with rest := c.name :: rest } h = settingsFor a h := rfl
    simp only [map_ok, ok_bind, resolveCommand, Command.ofName?_name, hsettings]
    rfl

/-- The options of a run. -/
def skipWords (skip : Bool) : List String := if skip then ["--skip-build"] else []

/-- What the options of a run give. -/
def skipGiven (skip : Bool) : List Given := if skip then [⟨"--skip-build", none⟩] else []

theorem has_skipGiven (skip : Bool) (extra : List String) :
    (⟨skipGiven skip, extra⟩ : Arguments).has "--skip-build" = skip := by
  cases skip <;> rfl

/-- The call for a run with words for the runner. -/
def runWords (globals : List String) (skip : Bool) (extra : List String) : List String :=
  globals ++ Command.run.name :: (skipWords skip ++ "--" :: extra)

/-- The call for a plan with words for the runner. -/
def planWords (globals extra : List String) : List String :=
  globals ++ Command.plan.name :: "--" :: extra

theorem readCommand_run (path : String) (skip : Bool) (extra : List String) :
    readCommand path .run (skipWords skip ++ "--" :: extra) = .ok ⟨skipGiven skip, extra⟩ := by
  cases skip <;> rfl

theorem readCommand_plan (path : String) (extra : List String) :
    readCommand path .plan ("--" :: extra) = .ok ⟨[], extra⟩ := rfl

theorem interpret_runWords (path : String)
    (hglobals : readArguments programSpec.options false globals = .ok ⟨given, []⟩) (skip : Bool)
    (extra : List String) (h : Host) :
    interpret path (runWords globals skip extra) h =
      (globalSettings path globals h).map fun s => ⟨.run, s, ⟨skipGiven skip, extra⟩⟩ := by
  rw [runWords, interpret_append path hglobals, readCommand_run]
  rfl

theorem interpret_planWords (path : String)
    (hglobals : readArguments programSpec.options false globals = .ok ⟨given, []⟩)
    (extra : List String) (h : Host) :
    interpret path (planWords globals extra) h =
      (globalSettings path globals h).map fun s => ⟨.plan, s, ⟨[], extra⟩⟩ := by
  rw [planWords, interpret_append path hglobals, readCommand_plan]
  rfl

end Reading

section Ending

variable {i j : Invocation} {h : Host} {path line : String} {words : List String}

/-- How carrying out a command ends: with a failure or a status. -/
def Invocation.ending (i : Invocation) (h : Host) : Except Failure Int := do
  ((← (on i.report h).1).emit (outputMode i.settings)).map Output.status

/-- The failure and the status that a run of the program ends with. -/
def endsWith : Except Failure Int → Option Failure × Int
  | .error f => (some f, 1)
  | .ok status => (none, status)

theorem runProgram_ending (hi : interpret path words h = .ok i) (timestamp : String) :
    let result := (runProgram path timestamp words h).1
    (result.failure, result.output.status) = endsWith (i.ending h) := by
  simp only [runProgram, hi, performLogged_eq, Invocation.ending]
  generalize on i.report h = run
  obtain ⟨f | r, k⟩ := run
  · rfl
  · simp only [ok_bind]
    generalize r.emit (outputMode i.settings) = written
    cases written <;> rfl

/-- Commands that differ in the command of the runner that they report end alike. -/
theorem ending_of_retell (hsettings : j.settings = i.settings)
    (hreport : (on j.report h).1 = (on i.report h).1.map (·.retell line)) :
    j.ending h = i.ending h := by
  simp only [Invocation.ending, hreport, hsettings]
  generalize (on i.report h).1 = result
  cases result with
  | error f => rfl
  | ok r => exact r.emit_retell line (outputMode i.settings)

theorem runProgram_host (hi : interpret path words h = .ok i) (timestamp : String) :
    (runProgram path timestamp words h).2 = (on i.report h).2 := by
  simp only [runProgram, hi, performLogged_eq]
  generalize on i.report h = run
  obtain ⟨f | r, k⟩ := run
  · rfl
  · dsimp only
    generalize r.emit (outputMode i.settings) = written
    cases written <;> rfl

/-- Calls for the same settings whose reports differ in the command of the runner end alike. -/
theorem runProgram_ends_alike {others : List String} {asked : Except Result Settings}
    {i j : Settings → Invocation} (hwords : interpret path words h = asked.map i)
    (hothers : interpret path others h = asked.map j)
    (hsettings : ∀ s, (j s).settings = (i s).settings)
    (hreport : ∀ s, ∃ line, (on (j s).report h).1 = (on (i s).report h).1.map (·.retell line))
    (timestamp : String) :
    (runProgram path timestamp others h).1.failure = (runProgram path timestamp words h).1.failure ∧
      (runProgram path timestamp others h).1.output.status =
        (runProgram path timestamp words h).1.output.status := by
  cases asked with
  | error r => simp only [runProgram, hwords, hothers, map_error, and_self]
  | ok s =>
    obtain ⟨line, hline⟩ := hreport s
    have hending := ending_of_retell (hsettings s) hline
    exact Prod.mk.inj ((runProgram_ending hothers timestamp).trans
      ((congrArg endsWith hending).trans (runProgram_ending hwords timestamp).symm))

end Ending

/-- The bytes that a text takes among the arguments and variables of a program, with the one that ends
it and its place in the list. -/
def startSize (s : String) : Nat := s.utf8ByteSize + 9

/-- Half of the room that every system has for the arguments and variables of a program. -/
def startRoom : Nat := 65536

/-- Is there room enough to start a program, on every system? -/
def fits (env : Environment) (argv : List String) : Bool :=
  let entries := env.map fun (name, value) => name ++ "=" ++ value
  Text.total ((argv ++ entries).map startSize) ≤ startRoom

/-- The runner can be started with the words. -/
def RunFits (path : String) (globals extra : List String) (h : Host) : Prop :=
  ∀ s l, globalSettings path globals h = .ok s →
    Launcher.ofSettings h.view h.environment s = .ok l → fits h.environment (l.runArgv extra) = true

/-- A run with words for the runner ends as it ends without them, and the runner has got them last. -/
structure RunsAlike (path timestamp : String) (globals : List String) (skip : Bool)
    (extra : List String) (h : Host) : Prop where
  failure : (runProgram path timestamp (runWords globals skip extra) h).1.failure =
    (runProgram path timestamp (runWords globals skip []) h).1.failure
  status : (runProgram path timestamp (runWords globals skip extra) h).1.output.status =
    (runProgram path timestamp (runWords globals skip []) h).1.output.status
  executions : ∀ s l, globalSettings path globals h = .ok s →
    Launcher.ofSettings h.view h.environment s = .ok l →
    h.Forwarded ["build", "-t", s.image, l.directory.text]
      (["--image", s.image, "--name", s.runner.name] ++ l.mountOptions) extra
      (runProgram path timestamp (runWords globals skip []) h).2
      (runProgram path timestamp (runWords globals skip extra) h).2
  report : ∀ s l, globalSettings path globals h = .ok s →
    Launcher.ofSettings h.view h.environment s = .ok l →
    (on (l.launch skip extra) h).1 =
      (on (l.launch skip []) h).1.map (·.retell (Text.shellJoin (l.runArgv extra)))

/-- What words for the runner do to a run and to a plan, beside the run and the plan without any. -/
structure Forwards (path timestamp : String) (globals : List String) (skip : Bool)
    (extra : List String) (h : Host) : Prop where
  /-- What is asked for does not depend on the words. -/
  asks_run : interpret path (runWords globals skip extra) h =
    (globalSettings path globals h).map fun s => ⟨.run, s, ⟨skipGiven skip, extra⟩⟩
  asks_plan : interpret path (planWords globals extra) h =
    (globalSettings path globals h).map fun s => ⟨.plan, s, ⟨[], extra⟩⟩
  /-- The same is built, and the runner is started with the words last or not at all. -/
  run_started : ∀ s l, globalSettings path globals h = .ok s →
    Launcher.ofSettings h.view h.environment s = .ok l →
    ∃ builds bare runs,
      (runProgram path timestamp (runWords globals skip []) h).2.executions =
        h.executions ++ builds ++ bare ∧
      (runProgram path timestamp (runWords globals skip extra) h).2.executions =
        h.executions ++ builds ++ runs ∧
      (∀ e ∈ builds, e.arguments = ["build", "-t", s.image, l.directory.text]) ∧
      (∀ e ∈ bare, e.arguments =
        ["--image", s.image, "--name", s.runner.name] ++ l.mountOptions) ∧
      ∀ e ∈ runs, e.arguments =
        ["--image", s.image, "--name", s.runner.name] ++ l.mountOptions ++ extra
  run_alike : RunFits path globals extra h → RunsAlike path timestamp globals skip extra h
  plan_failure : (runProgram path timestamp (planWords globals extra) h).1.failure =
    (runProgram path timestamp (planWords globals []) h).1.failure
  plan_status : (runProgram path timestamp (planWords globals extra) h).1.output.status =
    (runProgram path timestamp (planWords globals []) h).1.output.status
  /-- Unless a name is too long for the files, a plan reports a command that ends in the words. It is
  otherwise the plan without them. -/
  plan_report : ∀ s l, globalSettings path globals h = .ok s →
    Launcher.ofSettings h.view h.environment s = .ok l →
    ((∀ looked ∈ l.layout.dockerfile :: l.layout.targetDir :: l.layout.readonlyDirs,
      h.view.tooLong looked = false) → ∃ r, (on (l.plan extra) h).1 = .ok r) ∧
    ∃ line, Text.shellSplit line = some (l.runArgv [] ++ extra) ∧
      (on (l.plan extra) h).1 = (on (l.plan []) h).1.map (·.retell line) ∧
      ∀ r, (on (l.plan extra) h).1 = .ok r → r.data.get? "run_command" = some (.text line) ∧
        (s.jsonOutput = true →
          (runProgram path timestamp (planWords globals extra) h).1.output.stdout =
            r.indented ++ "\n")

section

variable {s : Settings} {l : Launcher} {h : Host} {skip : Bool} {extra : List String}

theorem report_run (hl : Launcher.ofSettings h.view h.environment s = .ok l) :
    on (Invocation.mk .run s ⟨skipGiven skip, extra⟩).report h = on (l.launch skip extra) h := by
  simp only [Invocation.report, on_bind, on_get, on_ofFiles, hl, has_skipGiven]

theorem report_plan (hl : Launcher.ofSettings h.view h.environment s = .ok l) :
    on (Invocation.mk .plan s ⟨[], extra⟩).report h = on (l.plan extra) h := by
  simp only [Invocation.report, on_bind, on_get, on_ofFiles, hl]

theorem report_error {i : Invocation} {e : Files.Error}
    (hl : Launcher.ofSettings h.view h.environment i.settings = .error e) :
    on i.report h = (.error (.files e), h) := by
  simp only [Invocation.report, on_bind, on_get, on_ofFiles, hl]

theorem plan_retell (l : Launcher) (extra : List String) (h : Host) :
    (on (l.plan extra) h).1 =
      (on (l.plan []) h).1.map (·.retell (Text.shellJoin (l.runArgv extra))) := by
  simp only [Launcher.plan, on_ofFiles, l.planIn_forward h.view extra]
  cases l.planIn h.view [] <;> rfl

theorem runArgv_forward (l : Launcher) (extra : List String) :
    l.runArgv extra = l.runArgv [] ++ extra := by
  simp [Launcher.runArgv, runnerCommand, Launcher.runnerArguments_forward _ _ _ extra]

theorem report_run_retell (hextra : ∀ x ∈ extra, View.hasNul x = false) (s : Settings) :
    ∃ line, (on (Invocation.mk .run s ⟨skipGiven skip, extra⟩).report h).1 =
      (on (Invocation.mk .run s ⟨skipGiven skip, []⟩).report h).1.map (·.retell line) := by
  cases hl : Launcher.ofSettings h.view h.environment s with
  | error e => exact ⟨"", by rw [report_error hl, report_error hl, map_error]⟩
  | ok l =>
    refine ⟨Text.shellJoin (l.runArgv extra), ?_⟩
    rw [report_run hl, report_run hl]
    exact (l.forwarded_launch hextra skip h).1

theorem report_plan_retell (s : Settings) :
    ∃ line, (on (Invocation.mk .plan s ⟨[], extra⟩).report h).1 =
      (on (Invocation.mk .plan s ⟨[], []⟩).report h).1.map (·.retell line) := by
  cases hl : Launcher.ofSettings h.view h.environment s with
  | error e => exact ⟨"", by rw [report_error hl, report_error hl, map_error]⟩
  | ok l =>
    refine ⟨Text.shellJoin (l.runArgv extra), ?_⟩
    rw [report_plan hl, report_plan hl]
    exact plan_retell l extra h

end

/-- A plan returns if it comes to no path with a name that is too long. -/
theorem exists_plan (l : Launcher) (extra : List String)
    (hshort : ∀ looked ∈ l.layout.dockerfile :: l.layout.targetDir :: l.layout.readonlyDirs,
      h.view.tooLong looked = false) : ∃ r, (on (l.plan extra) h).1 = .ok r := by
  cases hplan : (on (l.plan extra) h).1 with
  | ok r => exact ⟨r, rfl⟩
  | error f =>
    obtain ⟨path, hpath, -⟩ := Launcher.on_plan_eq_error.mp hplan
    have hlong := List.find?_some hpath
    rw [hshort path (List.mem_of_find?_eq_some hpath)] at hlong
    contradiction

/-- Words after two hyphens reach the runner as they are and change nothing else. -/
theorem forwards_extra {globals extra : List String} {given : List Given}
    (hglobals : readArguments programSpec.options false globals = .ok ⟨given, []⟩)
    (hextra : ∀ x ∈ extra, View.hasNul x = false) (path timestamp : String) (skip : Bool)
    (h : Host) : Forwards path timestamp globals skip extra h := by
  have hrun (extra : List String) := interpret_runWords path hglobals skip extra h
  have hplan (extra : List String) := interpret_planWords path hglobals extra h
  obtain ⟨hrunFailure, hrunStatus⟩ := runProgram_ends_alike (hrun []) (hrun extra) (fun _ => rfl)
    (report_run_retell hextra) timestamp
  obtain ⟨hplanFailure, hplanStatus⟩ := runProgram_ends_alike (hplan []) (hplan extra)
    (fun _ => rfl) report_plan_retell timestamp
  have hforwarded (s : Settings) (l : Launcher) (hs : globalSettings path globals h = .ok s)
      (hl : Launcher.ofSettings h.view h.environment s = .ok l) :
      h.Forwarded ["build", "-t", s.image, l.directory.text]
        (["--image", s.image, "--name", s.runner.name] ++ l.mountOptions) extra
        (runProgram path timestamp (runWords globals skip []) h).2
        (runProgram path timestamp (runWords globals skip extra) h).2 := by
    have hasked (extra : List String) := (hrun extra).trans (congrArg _ hs)
    have hlaunch := (l.forwarded_launch hextra skip h).2
    rw [Launcher.ownArguments, l.runnerArguments_eq, List.append_nil] at hlaunch
    rw [runProgram_host (hasked []), runProgram_host (hasked extra), report_run hl, report_run hl]
    obtain ⟨directory, -, rfl⟩ := map_eq_ok hl
    exact hlaunch
  refine ⟨hrun extra, hplan extra, fun s l hs hl => (hforwarded s l hs hl).started, fun _ =>
    ⟨hrunFailure, hrunStatus, hforwarded, fun s l _ _ => (l.forwarded_launch hextra skip h).1⟩,
    hplanFailure, hplanStatus, fun s l hs hl => ⟨exists_plan l extra, ?_⟩⟩
  refine ⟨Text.shellJoin (l.runArgv extra), ?_, plan_retell l extra h, fun r hr => ⟨?_, ?_⟩⟩
  · rw [Text.shellSplit_shellJoin, runArgv_forward]
  · rw [Launcher.plan_data hr]
    exact (l.tells_planData extra).run
  · intro hjson
    have hasked := (hplan extra).trans (congrArg _ hs)
    have hreport : on (Invocation.mk .plan s ⟨[], extra⟩).report h =
        (.ok r, (on (l.plan extra) h).2) := by
      rw [report_plan hl, ← hr]
    obtain ⟨warnings, rfl⟩ := Launcher.plan_eq_ok hr
    rw [runProgram_of_report hjson hasked hreport]
    rfl

/-- A host with an engine and a runner. -/
def readyHost : Host where
  view := ⟨⟨[(["Dockerfile"], .file []), (["reth"], .directory), (["bin"], .directory),
    (["bin", "docker"], .program ⟨"/bin/docker", .runs (.exits 0) false⟩),
    (["bin", "in-docker"], .program ⟨"/bin/in-docker", .runs (.exits 0) false⟩)]⟩, some []⟩
  environment := [("PATH", "/bin")]
  clock := ⟨.whole 0, []⟩
  executions := []
  records := []

/-- Words that look like options, and the one that ends options. -/
def optionLikeWords : List String := ["--help", "--", "", "--skip-build", "-v", "--json"]

/-- Options before the command: JSON is asked for, whatever else is. -/
def jsonWords : List String := ["-q", "--json", "--image=x", "--"]

theorem forwards_optionLikeWords :
    Forwards "reth-build" "now" jsonWords true optionLikeWords readyHost ∧
      RunFits "reth-build" jsonWords optionLikeWords readyHost ∧
      (runProgram "reth-build" "now" (runWords jsonWords true optionLikeWords)
        readyHost).2.executions.map (·.arguments) =
        [["--image", "x", "--name", "build-reth", "-v", "/cargo-git:/usr/local/cargo/git:rw", "-v",
          "/cargo-registry:/usr/local/cargo/registry:rw", "-v",
          "build-reth_target_dir:/reth/target:rw", "-v", "/alloy:/alloy:ro"] ++ optionLikeWords] ∧
      ∃ (r : Report) (line : String) (words : List String),
        (runProgram "reth-build" "now" (planWords jsonWords optionLikeWords)
          readyHost).1.output.stdout = r.indented ++ "\n" ∧
        r.data.get? "run_command" = some (.text line) ∧
        Text.shellSplit line = some (words ++ optionLikeWords) := by
  have hglobals : readArguments programSpec.options false jsonWords =
      .ok ⟨[⟨"--quiet", none⟩, ⟨"--json", none⟩, ⟨"--image", some "x"⟩], []⟩ := rfl
  have hextra : ∀ x ∈ optionLikeWords, View.hasNul x = false := by decide
  have hforwards := forwards_extra hglobals hextra "reth-build" "now" true readyHost
  have hready : (globalSettings "reth-build" jsonWords readyHost).toOption.map (fun s =>
      (s.jsonOutput, (Launcher.ofSettings readyHost.view readyHost.environment s).toOption.map
        fun l => (fits readyHost.environment (l.runArgv optionLikeWords),
          (l.layout.dockerfile :: l.layout.targetDir :: l.layout.readonlyDirs).any
            readyHost.view.tooLong))) = some (true, some (true, false)) := by
    decide +kernel
  obtain ⟨s, hs, hsettings⟩ := toOption_map_eq_some hready
  obtain ⟨hjson, hlauncher⟩ := Prod.mk.inj hsettings
  obtain ⟨l, hl, hpaths⟩ := toOption_map_eq_some hlauncher
  obtain ⟨hfits, hshort⟩ := Prod.mk.inj hpaths
  have hrunFits : RunFits "reth-build" jsonWords optionLikeWords readyHost := by
    intro s' l' hs' hl'
    obtain rfl := Except.ok.inj (hs.symm.trans hs')
    obtain rfl := Except.ok.inj (hl.symm.trans hl')
    exact hfits
  obtain ⟨hreturns, line, hsplit, -, htells⟩ := hforwards.plan_report s l hs hl
  obtain ⟨r, hr⟩ := hreturns (by simpa using hshort)
  obtain ⟨hcommand, hstdout⟩ := htells r hr
  exact ⟨hforwards, hrunFits, by decide +kernel, r, line, l.runArgv [], hstdout hjson, hcommand,
    hsplit⟩

end CommandLine
end BuildLauncher
