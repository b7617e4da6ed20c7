import BuildLauncher.Proofs.CommandLine.Forwarding

/-!
# Help

The options of the program that only show a text show it in every world. Those of a command show it
where there are settings: these are assembled before a command is read, though no text needs them
(`runProgram_help`).
-/
namespace BuildLauncher.CommandLine

open Files Launching

/-- The options of the program that show a text, with their texts. -/
def programTexts (path : String) : List (String × String) := [
  ("--version", versionText), ("--examples", examplesText path programSpec),
  ("--help", programHelp path)]

/-- The options of a command that show a text, with their texts. -/
def Command.texts (path : String) (c : Command) : List (String × String) := [
  ("--examples", examplesText (path ++ " " ++ c.name) c.spec),
  ("--help", helpText (path ++ " " ++ c.name) c.spec [])]

/-- A call that writes a text and nothing else, that ends well and that leaves the host as it is. -/
def Shows (path timestamp : String) (words : List String) (text : String) (h : Host) : Prop :=
  runProgram path timestamp words h = ((Result.shown text).withNewlines, h)

/-- The settings of a call without options. -/
def plainSettings (h : Host) : Except Failure Settings :=
  Settings.assemble h.view h.environment (requestFor ⟨[], []⟩)

section Texts

variable {path option text : String} {globals : List String} {given : List Given} {c : Command}
  {result : Result} {f : Failure} {s : Settings}

theorem runProgram_of_error {words : List String} {h : Host}
    (hi : interpret path words h = .error result) (timestamp : String) :
    runProgram path timestamp words h = (result.withNewlines, h) := by
  rw [runProgram, hi]

/-- Before anything is looked up in the world, the program has shown its texts. -/
theorem interpret_programText (ho : (option, text) ∈ programTexts path) (h : Host) :
    interpret path [option] h = .error (.shown text) := by
  simp only [programTexts, List.mem_cons, Prod.mk.injEq, List.not_mem_nil, or_false] at ho
  obtain ⟨rfl, rfl⟩ | ⟨rfl, rfl⟩ | ⟨rfl, rfl⟩ := ho
  all_goals rfl

theorem readCommand_text (ho : (option, text) ∈ c.texts path) :
    readCommand path c [option] = .error (.shown text) := by
  simp only [Command.texts, List.mem_cons, Prod.mk.injEq, List.not_mem_nil, or_false] at ho
  obtain ⟨rfl, rfl⟩ | ⟨rfl, rfl⟩ := ho
  all_goals
    cases c
    all_goals rfl

/-- A text of a command is shown once there are settings for the words before the command. -/
theorem interpret_text
    (hglobals : readArguments programSpec.options false globals = .ok ⟨given, []⟩)
    (ho : (option, text) ∈ c.texts path) (h : Host) :
    interpret path (globals ++ [c.name, option]) h =
      (globalSettings path globals h).bind fun _ => .error (.shown text) := by
  rw [interpret_append path hglobals, readCommand_text ho]
  rfl

theorem globalSettings_nil (path : String) (h : Host) :
    globalSettings path [] h = (plainSettings h).mapError Result.ofFailure := rfl

/-- With settings a command shows its texts. -/
theorem shows_of_settings {h : Host} (hs : plainSettings h = .ok s)
    (ho : (option, text) ∈ c.texts path) (timestamp : String) :
    Shows path timestamp [c.name, option] text h := by
  have hnone : readArguments programSpec.options false [] = .ok ⟨[], []⟩ := rfl
  have hi := interpret_text hnone ho h
  rw [globalSettings_nil, hs, mapError_ok] at hi
  exact runProgram_of_error hi timestamp

/-- Without settings a command tells why there are none, whatever it is called for. -/
theorem runProgram_of_no_settings {h : Host} (hf : plainSettings h = .error f)
    (ho : (option, text) ∈ c.texts path) (timestamp : String) :
    runProgram path timestamp [c.name, option] h = ((Result.ofFailure f).withNewlines, h) := by
  have hnone : readArguments programSpec.options false [] = .ok ⟨[], []⟩ := rfl
  have hi := interpret_text hnone ho h
  rw [globalSettings_nil, hf, mapError_error] at hi
  exact runProgram_of_error hi timestamp

theorem status_ofFailure (f : Failure) : (Result.ofFailure f).withNewlines.output.status = 1 := by
  rw [Result.ofFailure]
  split <;> rfl

theorem not_shows_of_no_settings {h : Host} (hf : plainSettings h = .error f)
    (ho : (option, text) ∈ c.texts path) (timestamp : String) :
    ¬Shows path timestamp [c.name, option] text h := by
  intro hshows
  have hresults := (runProgram_of_no_settings hf ho timestamp).symm.trans hshows
  have hstatus := congrArg (fun r : Result × Host => r.1.output.status) hresults
  rw [status_ofFailure] at hstatus
  exact absurd hstatus (by decide : (1 : Int) ≠ 0)

/-- The texts of the program are shown in every world. Those of a command are shown where there is
nothing, and in every world in which there are settings, and in no other: there the call fails, as
every call of a command would. Nothing is changed and no program is run by any of these calls. -/
theorem runProgram_help (path timestamp : String) (h : Host) :
    (∀ option text, (option, text) ∈ programTexts path → Shows path timestamp [option] text h) ∧
    ∀ c option text, (option, text) ∈ Command.texts path c →
      Shows path timestamp [c.name, option] text Launcher.bareHost ∧
      (Shows path timestamp [c.name, option] text h ↔ ∃ s, plainSettings h = .ok s) ∧
      ∀ f, plainSettings h = .error f →
        runProgram path timestamp [c.name, option] h = ((Result.ofFailure f).withNewlines, h) ∧
          (Result.ofFailure f).withNewlines.output.status = 1 := by
  refine ⟨fun option text ho => runProgram_of_error (interpret_programText ho h) timestamp,
    fun c option text ho => ⟨?_, ⟨fun hshows => ?_, ?_⟩, fun f hf => ?_⟩⟩
  · obtain ⟨s, hs, -⟩ : ∃ s, plainSettings Launcher.bareHost = .ok s ∧ s.dryRun = false :=
      toOption_map_eq_some (by decide +kernel)
    exact shows_of_settings hs ho timestamp
  · cases hs : plainSettings h with
    | ok s => exact ⟨s, rfl⟩
    | error f => exact absurd hshows (not_shows_of_no_settings hs ho timestamp)
  · rintro ⟨s, hs⟩
    exact shows_of_settings hs ho timestamp
  · exact ⟨runProgram_of_no_settings hf ho timestamp, status_ofFailure f⟩

/-- A host with a file with settings that cannot be read. -/
def misspelledHost : Host :=
  ⟨⟨⟨[(["reth-build.toml"], .file "=".toUTF8.toList)]⟩, some []⟩, [], ⟨.whole 0, []⟩, [], []⟩

theorem exists_failure_misspelled : ∃ f, plainSettings misspelledHost = .error f := by
  have hnone : (plainSettings misspelledHost).toOption.isSome = false := by decide +kernel
  cases hs : plainSettings misspelledHost with
  | ok s => simp [hs, Except.toOption] at hnone
  | error f => exact ⟨f, rfl⟩

theorem runProgram_help_misspelled :
    Shows "reth-build" "now" ["--help"] (programHelp "reth-build") misspelledHost ∧
    ∃ f, plainSettings misspelledHost = .error f ∧
      runProgram "reth-build" "now" ["plan", "--help"] misspelledHost =
        ((Result.ofFailure f).withNewlines, misspelledHost) := by
  obtain ⟨hprogram, hcommands⟩ := runProgram_help "reth-build" "now" misspelledHost
  obtain ⟨f, hf⟩ := exists_failure_misspelled
  obtain ⟨-, -, hfails⟩ := hcommands .plan _ _ (.tail _ (.head _))
  exact ⟨hprogram _ _ (.tail _ (.tail _ (.head _))), f, hf, (hfails f hf).1⟩

/-- With such a file there is no help for a command. -/
theorem not_shows_misspelled :
    ¬Shows "reth-build" "now" ["build", "--help"]
        (helpText "reth-build build" Command.build.spec []) misspelledHost ∧
      (runProgram "reth-build" "now" ["build", "--help"] misspelledHost).1.output.status = 1 := by
  have hmem : ("--help", helpText "reth-build build" Command.build.spec []) ∈
      Command.build.texts "reth-build" := .tail _ (.head _)
  obtain ⟨f, hf⟩ := exists_failure_misspelled
  refine ⟨not_shows_of_no_settings hf hmem "now", ?_⟩
  have hresult := runProgram_of_no_settings hf hmem "now"
  rw [show ["build", "--help"] = [Command.build.name, "--help"] from rfl, hresult, status_ofFailure]

end Texts
end BuildLauncher.CommandLine
