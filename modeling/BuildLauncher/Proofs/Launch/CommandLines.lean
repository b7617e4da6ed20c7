import BuildLauncher.Proofs.Launch.Agreement
import BuildLauncher.Proofs.Launch.Outcomes
import BuildLauncher.Proofs.Log.Events
import BuildLauncher.Proofs.Report.Fields
import BuildLauncher.Proofs.Report.ReadingBack

/-!
# Commands are shown apart

A command is shown as one text, in the reports of plans and in what running it writes to a log. The
words are read back from that text, so what is shown of two commands differs where the commands do
(`commands_shown_apart`). People are shown the text without the characters that never reach a
screen, and to them commands that differ only in these look alike (`render_plan_alike`).
-/
namespace BuildLauncher
open Checking Files Launching

/-- The event that a command is run, with the directory that is shown for it. -/
def startRecord (argv : List String) (shown : Path) : Log.Record :=
  ⟨commandLogger, .info, "exec " ++ Text.shellJoin argv ++ " (cwd=" ++ shown.text ++ ")", []⟩

theorem startRecord_event (argv : List String) (shown : Path) : ∃ rest,
    (startRecord argv shown).event.toList =
      "exec ".toList ++ ((Text.shellJoin argv).toList ++ ' ' :: '(' :: rest) := by
  refine ⟨"cwd=".toList ++ shown.text.toList ++ [')'], ?_⟩
  simp [startRecord]

/-- In a line for people the command stands between the level and the bracket of the directory. -/
theorem consoleLine_startRecord (l : Log.Logging) (timestamp : String) (argv : List String)
    (shown : Path) : ∃ rest, (Log.consoleLine l timestamp (startRecord argv shown)).toList =
      (Log.lead timestamp .info).toList ++
        ("exec ".toList ++ ((Text.shellJoin argv).toList ++ ' ' :: '(' :: rest)) := by
  obtain ⟨rest, hevent⟩ := startRecord_event argv shown
  obtain ⟨more, hmore⟩ := Log.exists_consoleLine l timestamp (startRecord argv shown)
  have hlevel : (startRecord argv shown).level = .info := rfl
  rw [hmore, Log.opening, Log.padRight, hlevel]
  simp only [String.toList_append, hevent, List.append_assoc, List.cons_append]
  exact ⟨_, rfl⟩

/-- What running a command reports starts with the event that it is run, if it reports anything. -/
theorem records_runCommand (command : String) (arguments : List String) (cwd : Option Path)
    (h : Host) :
    (on (runCommand (command :: arguments) cwd) h).2.records = h.records ∨
      ∃ shown later, (on (runCommand (command :: arguments) cwd) h).2.records =
        h.records ++ startRecord (command :: arguments) shown :: later := by
  cases hl : lookUp h.view h.environment command with
  | none => exact .inl (by simp only [runCommand, on_bind, on_get, hl]; rfl)
  | some found =>
    simp only [runCommand, on_bind, on_get, hl, Option.isNone_some, Bool.false_eq_true, if_false,
      on_ofFiles]
    cases cwd.elim h.view.currentPath .ok with
    | error e => exact .inl rfl
    | ok shown =>
      refine .inr ⟨shown, ?_⟩
      simp only [on_log]
      cases startCommand h.view h.environment command arguments cwd with
      | error e => cases e <;> exact ⟨[], rfl⟩
      | ok p =>
        cases hi : p.interrupted with
        | false =>
          simp only [on_bind, on_modify, on_log, on_pure, hi, Bool.false_eq_true, if_false]
          exact ⟨_, List.append_assoc _ _ _⟩
        | true =>
          simp only [on_bind, on_modify, on_log, on_pure, hi, if_true, List.append_assoc]
          exact ⟨_, rfl⟩

/-- What running a command writes to a log. -/
def commandLog (l : Log.Logging) (timestamp : String) (argv : List String) (cwd : Option Path)
    (h : Host) : String :=
  l.write timestamp ((on (runCommand argv cwd) h).2.records.drop h.records.length)

section Logs

variable {json : Bool} {image image' baseDir baseDir' timestamp : String} {argv argv' : List String}
  {cwd cwd' : Option Path} {h h' : Host}

/-- What is written of a command starts with the line that it is run. -/
theorem commandLog_start
    (hne : commandLog (Log.detailed json image baseDir) timestamp argv cwd h ≠ "") :
    argv ≠ [] ∧ ∃ shown later,
      (commandLog (Log.detailed json image baseDir) timestamp argv cwd h).toList =
        ((Log.detailed json image baseDir).lineOf json timestamp (startRecord argv shown)).toList ++
          '\n' :: later := by
  cases argv with
  | nil => exact absurd (by simp [commandLog, runCommand, Log.Logging.write]) hne
  | cons command arguments =>
    refine ⟨List.cons_ne_nil _ _, ?_⟩
    unfold commandLog at hne ⊢
    obtain hrecords | ⟨shown, later, hrecords⟩ := records_runCommand command arguments cwd h
    · rw [hrecords, List.drop_length] at hne
      exact absurd rfl hne
    · have hwritten : (Log.detailed json image baseDir).isWritten
          (startRecord (command :: arguments) shown) = true := by
        have hlevel : (Log.detailed json image baseDir).threshold commandLogger = .debug := rfl
        simp [Log.Logging.isWritten, startRecord, hlevel, Log.Level.rank]
      refine ⟨shown, ?_⟩
      rw [hrecords, List.drop_left, Log.write_eq rfl, List.filter_cons_of_pos hwritten,
        List.map_cons, String.join_cons, String.toList_append, String.toList_append,
        List.append_assoc]
      exact ⟨_, rfl⟩

/-- Of two commands that are run the same log is written only if they are the same. -/
theorem argv_eq_of_commandLog
    (hsame : commandLog (Log.detailed json image baseDir) timestamp argv cwd h =
      commandLog (Log.detailed json image' baseDir') timestamp argv' cwd' h')
    (hne : commandLog (Log.detailed json image baseDir) timestamp argv cwd h ≠ "") :
    argv = argv' := by
  obtain ⟨hwords, shown, later, hlog⟩ := commandLog_start hne
  obtain ⟨hwords', shown', later', hlog'⟩ := commandLog_start (hsame ▸ hne)
  have htext := hlog.symm.trans ((congrArg String.toList hsame).trans hlog')
  obtain ⟨rest, hevent⟩ := startRecord_event argv shown
  obtain ⟨rest', hevent'⟩ := startRecord_event argv' shown'
  cases json with
  | true =>
    have hline := Log.eq_of_append_newline (Log.newline_not_mem_jsonLine _ _ _)
      (Log.newline_not_mem_jsonLine _ _ _) htext
    have hevents := congrArg String.toList (Log.event_eq_of_jsonLine rfl rfl hline)
    rw [hevent, hevent'] at hevents
    exact Text.shellJoin_append_inj hwords hwords' (List.append_cancel_left hevents)
  | false =>
    obtain ⟨more, hmore⟩ :=
      consoleLine_startRecord (Log.detailed false image baseDir) timestamp argv shown
    obtain ⟨more', hmore'⟩ :=
      consoleLine_startRecord (Log.detailed false image' baseDir') timestamp argv' shown'
    simp only [Log.Logging.lineOf, Bool.false_eq_true, if_false, hmore, hmore', List.append_assoc,
      List.append_cancel_left_eq, List.cons_append] at htext
    exact Text.shellJoin_append_inj hwords hwords' htext

end Logs

section Plans

variable {l l' : Launcher} {extra extra' : List String} {r r' : Report} {limit : Option Nat}

/-- No two reports have the same payload. -/
theorem Report.IsJson.eq_of_indented (hr : r.IsJson limit) (hr' : r'.IsJson limit)
    (h : r.indented = r'.indented) : r = r' := by
  have hread : Json.readWithin limit r.indented = some r.toValue :=
    Json.readWithin_indented hr.toValue
  have hread' : Json.readWithin limit r'.indented = some r'.toValue :=
    Json.readWithin_indented hr'.toValue
  rw [h, hread', Option.some.injEq, Report.toValue_eq, Report.toValue_eq,
    Value.object.injEq] at hread
  have hvalid := r.ofFields_fields
  rw [← hread, r'.ofFields_fields, Checked.valid.injEq] at hvalid
  exact hvalid.symm

/-- What a plan tells is written in JSON as it is. -/
theorem isJson_plan (limit : Option Nat) (hr : (on (l.plan extra) h).1 = .ok r) :
    r.IsJson limit := by
  obtain ⟨warnings, rfl⟩ := Launcher.plan_eq_ok hr
  refine ⟨?_, nofun, nofun⟩
  have hmounts : itemsJson limit (l.mounts.map fun m => .text m.spec) = true := by
    simpa [Function.comp_def] using Report.itemsJson_texts (l.mounts.map Mount.spec)
  simp [Launcher.planData, Launcher.mountSpecs, Value.isJson, fieldsJson, hmounts]

/-- Two plans tell the same command if and only if it is the same command. -/
theorem plan_commands_iff (hr : (on (l.plan extra) h).1 = .ok r)
    (hr' : (on (l'.plan extra') h').1 = .ok r') :
    (r.data.get? "build_command" = r'.data.get? "build_command" ↔ l.buildArgv = l'.buildArgv) ∧
      (r.data.get? "run_command" = r'.data.get? "run_command" ↔
        l.runArgv extra = l'.runArgv extra') := by
  have htells := l.tells_planData extra
  have htells' := l'.tells_planData extra'
  rw [Launcher.plan_data hr, Launcher.plan_data hr', htells.build, htells'.build, htells.run,
    htells'.run]
  simp only [Option.some.injEq, Value.text.injEq, Text.shellJoin_injective.eq_iff, and_self]

end Plans

section Printed

open Report Text

variable {l : Launcher} {extra extra' : List String} {h h' : Host} {r r' : Report}
  {verbose verbose' : Bool}

/-- What a plan shows for people: the command of the runner between texts that it has no part in. -/
theorem exists_render_plan (l : Launcher) :
    ∃ (before : List Char) (after : Except Failure (List Char)),
    ∀ (extra : List String) (h : Host) (r : Report) (verbose : Bool),
      (on (l.plan extra) h).1 = .ok r → r.render verbose = after.map fun mounts =>
        String.ofList (dropEndWhile (· = '\n')
          (before ++ fieldLine "run_command" (.text (shellJoin (l.runArgv extra))) ++ mounts)) := by
  let bare : Report := ⟨true, "plan", l.planData [], [], none, none⟩
  let config := dataOr bare "config_path" ""
  refine ⟨statusLine bare ++
    ["image", "volume", "docker", "launcher_dir", "projects_dir", "target_dir"].flatMap
      (dataLine bare) ++ (if config.isTrue then fieldLine "config_path" config else []) ++
    dataLine bare "build_command", mountLines bare, fun extra h r verbose hr => ?_⟩
  obtain ⟨warnings, hplan⟩ := Launcher.plan_eq_ok hr
  have hdata (name : String) (hname : name ≠ "run_command") :
      r.data.get? name = bare.data.get? name := by
    simp only [hplan, bare, Launcher.planData, Fields.get?_cons, if_neg hname]
  have hshown (name : String) (hname : name ≠ "run_command") :
      dataOr r name "" = dataOr bare name "" := by
    rw [dataOr, dataOr, hdata name hname]
  have hcommand : dataOr r "run_command" "" = .text (shellJoin (l.runArgv extra)) := by
    simp [hplan, dataOr, (l.tells_planData extra).run]
  have hmounts : mountLines r = mountLines bare := by
    rw [mountLines, mountLines, hdata "mounts" (by decide)]
  have hstatus : statusLine r = statusLine bare := by
    rw [hplan]
    rfl
  have hplanned : r.render verbose = r.renderPlan.map fun shown =>
      String.ofList (dropEndWhile (· = '\n') shown) := by
    rw [hplan]
    rfl
  rw [hplanned, renderPlan]
  simp (disch := decide) only [hmounts, hstatus, dataLine, hcommand, hshown, List.flatMap_cons,
    List.flatMap_nil, List.append_nil]
  cases mountLines bare with
  | error e => simp only [error_bind, map_error]
  | ok mounts => simp only [config, List.append_assoc, ok_bind, pure, Except.pure, map_ok]

theorem fieldLine_congr {name a b : String} (h : dropControls a.toList = dropControls b.toList) :
    fieldLine name (.text a) = fieldLine name (.text b) := by
  simp only [fieldLine, Value.display, styled, literal, h]

/-- Commands that differ only in characters that never reach a screen are shown alike to people. -/
theorem render_plan_alike (hr : (on (l.plan extra) h).1 = .ok r)
    (hr' : (on (l.plan extra') h').1 = .ok r')
    (hsame : dropControls (shellJoin (l.runArgv extra)).toList =
      dropControls (shellJoin (l.runArgv extra')).toList) :
    r.render verbose = r'.render verbose' := by
  obtain ⟨before, after, hrender⟩ := exists_render_plan l
  rw [hrender extra h r verbose hr, hrender extra' h' r' verbose' hr', fieldLine_congr hsame]

/-- A plan is printed as the text that it is shown as, if no mount has markup. -/
theorem exists_emit_plan (hclean : ∀ text ∈ l.mounts.map Mount.spec, '[' ∉ text.toList)
    (hr : (on (l.plan extra) h).1 = .ok r) : ∃ text output, r.render false = .ok text ∧
      r.emit ⟨false, false, false⟩ = .ok output ∧ output.stdout = line text := by
  have hreported := Launcher.returns_plan l extra h r hr
  obtain ⟨warnings, rfl⟩ := Launcher.plan_eq_ok hr
  obtain ⟨output, houtput⟩ : ∃ output, Report.emit _ ⟨false, false, false⟩ = .ok output :=
    Launcher.emit_ok hreported hclean
  obtain ⟨text, htext, rfl⟩ := emit_eq_ok.mp houtput
  exact ⟨text, _, htext, houtput, rfl⟩

theorem dropControls_intercalate (texts : List (List Char)) :
    dropControls ([' '].intercalate texts) = [' '].intercalate (texts.map dropControls) := by
  have hblank : dropControls [' '] = [' '] := by decide
  induction texts with
  | nil => rfl
  | cons text rest ih =>
    cases rest with
    | nil => simp
    | cons next more =>
      rw [List.intercalate_cons_cons, dropControls_append, dropControls_append, ih, hblank,
        List.map_cons, List.map_cons, List.map_cons, List.intercalate_cons_cons]

/-- So are commands whose last words differ only in such characters. -/
theorem dropControls_shellJoin_concat {w w' : String} (words : List String)
    (h : dropControls (shellQuote w.toList) = dropControls (shellQuote w'.toList)) :
    dropControls (shellJoin (words ++ [w])).toList =
      dropControls (shellJoin (words ++ [w'])).toList := by
  simp only [toList_shellJoin, dropControls_intercalate, List.map_append, List.map_cons,
    List.map_nil, h]

/-- What is shown to people of two commands of a launcher is the same only if the same is seen of
the commands. -/
theorem seen_eq_of_render_plan (hr : (on (l.plan extra) h).1 = .ok r)
    (hr' : (on (l.plan extra') h').1 = .ok r') {text : String}
    (ht : r.render verbose = .ok text) (ht' : r'.render verbose' = .ok text)
    (hwords : Composed (dropControls (shellJoin (l.runArgv extra)).toList))
    (hwords' : Composed (dropControls (shellJoin (l.runArgv extra')).toList)) :
    seen (shellJoin (l.runArgv extra)) = seen (shellJoin (l.runArgv extra')) := by
  obtain ⟨before, after, hrender⟩ := exists_render_plan l
  rw [hrender extra h r verbose hr] at ht
  rw [hrender extra' h' r' verbose' hr'] at ht'
  cases after with
  | error e => contradiction
  | ok mounts =>
    have hname : Composed (dropControls "run_command".toList) := by decide
    have hline {extra : List String}
        (hwords : Composed (dropControls (shellJoin (l.runArgv extra)).toList)) :=
      visible_fieldLine (v := .text (shellJoin (l.runArgv extra))) hname hwords
    have hbreaks (s : List Char) : visible (dropEndWhile (· = '\n') s) = visible s :=
      visible_dropEndWhile_of (fun c hc => by
        obtain rfl : c = '\n' := by simpa using hc
        decide) s
    have htexts := (Except.ok.inj ht).trans (Except.ok.inj ht').symm
    have hseen := congrArg visible (String.ofList_injective htexts)
    simp only [hbreaks, visible_append, List.append_cancel_right_eq,
      List.append_cancel_left_eq, hline hwords, hline hwords', fieldText, seen_append] at hseen
    exact hseen

end Printed

/-- A command is read back from the text that it is shown as. So no two commands are shown alike,
not in the reports of plans or in the payloads of these, and not in what running them writes to a
log. What is shown to people of two commands of a launcher is the same only if they are the same up
to blanks and characters that never reach a screen. -/
theorem commands_shown_apart :
    (∀ argv, Text.shellSplit (Text.shellJoin argv) = some argv) ∧
    Function.Injective Text.shellJoin ∧
    (∀ (l l' : Launcher) (extra extra' : List String) (h h' : Host) (r r' : Report),
      (on (l.plan extra) h).1 = .ok r → (on (l'.plan extra') h').1 = .ok r' →
      (r.data.get? "build_command" = r'.data.get? "build_command" ↔ l.buildArgv = l'.buildArgv) ∧
      (r.data.get? "run_command" = r'.data.get? "run_command" ↔
        l.runArgv extra = l'.runArgv extra') ∧
      (r.indented = r'.indented →
        l.buildArgv = l'.buildArgv ∧ l.runArgv extra = l'.runArgv extra')) ∧
    (∀ (l : Launcher) (extra extra' : List String) (h h' : Host) (r r' : Report)
      (verbose verbose' : Bool) (text : String),
      (on (l.plan extra) h).1 = .ok r → (on (l.plan extra') h').1 = .ok r' →
      r.render verbose = .ok text → r'.render verbose' = .ok text →
      Text.Composed (Text.dropControls (Text.shellJoin (l.runArgv extra)).toList) →
      Text.Composed (Text.dropControls (Text.shellJoin (l.runArgv extra')).toList) →
      Report.seen (Text.shellJoin (l.runArgv extra)) =
        Report.seen (Text.shellJoin (l.runArgv extra'))) ∧
    ∀ (json : Bool) (image image' baseDir baseDir' timestamp : String) (argv argv' : List String)
      (cwd cwd' : Option Path) (h h' : Host),
      commandLog (Log.detailed json image baseDir) timestamp argv cwd h =
        commandLog (Log.detailed json image' baseDir') timestamp argv' cwd' h' →
      commandLog (Log.detailed json image baseDir) timestamp argv cwd h ≠ "" → argv = argv' := by
  refine ⟨Text.shellSplit_shellJoin, Text.shellJoin_injective, ?_, ?_, ?_⟩
  · intro l l' extra extra' h h' r r' hr hr'
    obtain ⟨hbuild, hrun⟩ := plan_commands_iff hr hr'
    refine ⟨hbuild, hrun, fun hpayload => ?_⟩
    have hsame : r = r' := (isJson_plan none hr).eq_of_indented (isJson_plan none hr') hpayload
    exact ⟨hbuild.mp (hsame ▸ rfl), hrun.mp (hsame ▸ rfl)⟩
  · intro l extra extra' h h' r r' verbose verbose' text hr hr' ht ht' hwords hwords'
    exact seen_eq_of_render_plan hr hr' ht ht' hwords hwords'
  · intro json image image' baseDir baseDir' timestamp argv argv' cwd cwd' h h' hsame hne
    exact argv_eq_of_commandLog hsame hne

/-- A host with one program that ends well. -/
def echoHost : Host where
  view := ⟨⟨[(["echo"], .program ⟨"/echo", .runs (.exits 0) false⟩)]⟩, some []⟩
  environment := []
  clock := ⟨.whole 0, []⟩
  executions := []
  records := []

/-- The plan of a launcher whose words need quotes, on a host without files. -/
theorem exists_plan_quoted (extra : List String) :
    ∃ r, (on (Launcher.quotedLauncher.plan extra) Launcher.bareHost).1 = .ok r :=
  ⟨_, rfl⟩

/-- Two words and one word with a blank. -/
theorem commands_shown_apart_blank :
    (∃ r r', (on (Launcher.quotedLauncher.plan ["a b"]) Launcher.bareHost).1 = .ok r ∧
      (on (Launcher.quotedLauncher.plan ["a", "b"]) Launcher.bareHost).1 = .ok r' ∧
      r.data.get? "run_command" ≠ r'.data.get? "run_command" ∧ r.indented ≠ r'.indented ∧
      ∀ text, r.render false = .ok text → r'.render false ≠ .ok text) ∧
    commandLog (Log.detailed false "" "/") "now" ["/echo", "a b"] none echoHost ≠
      commandLog (Log.detailed false "" "/") "now" ["/echo", "a", "b"] none echoHost := by
  obtain ⟨-, -, hplans, hprinted, hlogs⟩ := commands_shown_apart
  have hargv : Launcher.quotedLauncher.runArgv ["a b"] ≠
      Launcher.quotedLauncher.runArgv ["a", "b"] := by
    decide +kernel
  have hseen : Report.seen (Text.shellJoin (Launcher.quotedLauncher.runArgv ["a b"])) ≠
      Report.seen (Text.shellJoin (Launcher.quotedLauncher.runArgv ["a", "b"])) := by
    rw [Report.seen, Report.seen, Text.toList_shellJoin, Text.toList_shellJoin]
    decide +kernel
  obtain ⟨r, hr⟩ := exists_plan_quoted ["a b"]
  obtain ⟨r', hr'⟩ := exists_plan_quoted ["a", "b"]
  obtain ⟨-, hrun, hpayload⟩ := hplans _ _ _ _ _ _ _ _ hr hr'
  refine ⟨⟨r, r', hr, hr', mt hrun.mp hargv, fun hsame => hargv (hpayload hsame).2,
    fun text ht ht' => hseen ?_⟩, fun hsame => ?_⟩
  · refine hprinted _ _ _ _ _ _ _ _ _ _ hr hr' ht ht' ?_ ?_
    all_goals
      rw [Text.toList_shellJoin]
      decide +kernel
  · have hargs := hlogs _ _ _ _ _ _ _ _ _ _ _ _ hsame (by decide +kernel)
    simp at hargs

/-- A bell in a word is not shown to people. -/
theorem commands_shown_alike :
    Launcher.quotedLauncher.runArgv ["a b"] ≠ Launcher.quotedLauncher.runArgv ["a \x07b"] ∧
    ∃ r r', (on (Launcher.quotedLauncher.plan ["a b"]) Launcher.bareHost).1 = .ok r ∧
      (on (Launcher.quotedLauncher.plan ["a \x07b"]) Launcher.bareHost).1 = .ok r' ∧
      ∃ output output', r.emit ⟨false, false, false⟩ = .ok output ∧
        r'.emit ⟨false, false, false⟩ = .ok output' ∧ output.stdout = output'.stdout := by
  have hclean : ∀ text ∈ Launcher.quotedLauncher.mounts.map Mount.spec, '[' ∉ text.toList := by
    decide +kernel
  have hargv : Launcher.quotedLauncher.runArgv ["a b"] ≠
      Launcher.quotedLauncher.runArgv ["a \x07b"] := by
    decide +kernel
  obtain ⟨r, hr⟩ := exists_plan_quoted ["a b"]
  obtain ⟨r', hr'⟩ := exists_plan_quoted ["a \x07b"]
  have hwords (word : String) : Launcher.quotedLauncher.runArgv [word] =
      Launcher.quotedLauncher.runArgv [] ++ [word] := by
    simp [Launcher.runArgv, runnerCommand, runnerArguments]
  have hsame : r.render false = r'.render false := render_plan_alike hr hr' (by
    rw [hwords, hwords]
    exact dropControls_shellJoin_concat _ (by decide +kernel))
  obtain ⟨text, output, ht, houtput, hstdout⟩ := exists_emit_plan hclean hr
  obtain ⟨text', output', ht', houtput', hstdout'⟩ := exists_emit_plan hclean hr'
  obtain rfl : text = text' := Except.ok.inj (ht.symm.trans (hsame.trans ht'))
  exact ⟨hargv, r, r', hr, hr', output, output', houtput, houtput', hstdout.trans hstdout'.symm⟩

end BuildLauncher
