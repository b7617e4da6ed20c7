import BuildLauncher.Proofs.CommandLine.Requests
import BuildLauncher.Proofs.Launch.ErrorTable
import BuildLauncher.Proofs.Launch.Notices
import BuildLauncher.Proofs.Report.Emission

/-!
# Output for machines

With JSON asked for, and detail not, a command that comes to a report writes its payload and nothing
else, unless a process was interrupted on the way (`runProgram_json`).
-/
namespace BuildLauncher.CommandLine

open Checking Files Launching Settings
open Report (Output)

section LineEnds

variable {s t : List Char}

theorem unifyLineEnds_of_no_return (h : '\r' ∉ s) : unifyLineEnds s = s := by
  fun_induction unifyLineEnds s with
  | case1 => rfl
  | case2 rest ih => simp at h
  | case3 c rest hne ih => rw [ih (List.not_mem_of_not_mem_cons h)]

/-- A line end is not made up of the end of one text and the start of another that starts otherwise. -/
theorem unifyLineEnds_append (h : t.head? ≠ some '\n') :
    unifyLineEnds (s ++ t) = unifyLineEnds s ++ unifyLineEnds t := by
  fun_induction unifyLineEnds s with
  | case1 => rfl
  | case2 rest ih => simp [unifyLineEnds, ih]
  | case3 c rest hne ih =>
    rw [List.cons_append, unifyLineEnds, ih, List.cons_append]
    intro more hc hrest
    obtain ⟨rest', rfl, -⟩ | ⟨rfl, htext⟩ : (∃ rest', rest = '\n' :: rest' ∧ more = rest' ++ t) ∨
        (rest = [] ∧ t = '\n' :: more) := by
      cases rest <;> simp_all
    · exact hne rest' hc rfl
    · simp [htext] at h

end LineEnds

section Logging

/-- Without detail only grave events are written. -/
theorem write_eq_of_not_verbose {l : Log.Logging} (hroot : l.rootLevel = .warning)
    (happ : l.appLevel = .warning) (timestamp : String) (events : List Log.Record) :
    l.write timestamp events = l.write timestamp (events.filter Log.Record.isGrave) := by
  have hwritten : l.isWritten = Log.Record.isGrave := by
    funext r
    have hthreshold : l.threshold r.logger = .warning := by
      simp [Log.Logging.threshold, hroot, happ]
    rw [Log.Logging.isWritten, hthreshold, Log.Record.isGrave]
  simp only [Log.Logging.write, hwritten, List.filter_filter, Bool.and_self]

/-- An event that is written leaves a line. -/
theorem write_ne_empty {l : Log.Logging} {json : Bool} (hhandlers : l.handlers = [.lines json])
    (timestamp : String) {events : List Log.Record} {r : Log.Record} (hr : r ∈ events)
    (hwritten : l.isWritten r = true) : l.write timestamp events ≠ "" := by
  intro hempty
  have hlines := congrArg String.toList hempty
  simp only [Log.Logging.write, hhandlers, List.map_singleton, String.toList_join,
    List.flatMap_assoc, List.flatMap_singleton, String.toList_empty, List.flatMap_eq_nil_iff] at hlines
  have hline := hlines r (List.mem_filter.mpr ⟨hr, hwritten⟩)
  simp [Log.Handler.entry] at hline

end Logging

/-- The operation that a command stands for. -/
def Invocation.report (i : Invocation) : Launching Report := do
  let env := (← get).environment
  let launcher ← Launching.ofFiles fun v => Launcher.ofSettings v env i.settings
  match i.command with
  | .build => launcher.buildImage
  | .plan => launcher.plan i.arguments.rest
  | .run => launcher.launch (i.arguments.has "--skip-build") i.arguments.rest

section Performing

variable {path timestamp : String} {arguments : List String} {a : Arguments} {i : Invocation}
  {h : Host} {r : Report}

/-- To write the report of an operation is to carry it out and to write what it comes to. -/
theorem on_bind_emit (op : Launching Report) (mode : Report.OutputMode) (h : Host) :
    on (op >>= fun r => match r.emit mode with
      | .ok output => pure output
      | .error f => throw f) h =
    match on op h with
    | (.ok r, k) => (r.emit mode, k)
    | (.error f, k) => (.error f, k) := by
  rw [on_bind]
  rcases on op h with ⟨f | r, k⟩
  · rfl
  · dsimp only
    cases r.emit mode <;> rfl

/-- To carry out a command is to come to its report and to write that. -/
theorem on_perform (i : Invocation) (h : Host) :
    on (perform i.command i.settings i.arguments) h =
      match on i.report h with
      | (.ok r, k) => (r.emit (outputMode i.settings), k)
      | (.error f, k) => (.error f, k) := by
  simp only [perform, Invocation.report, on_bind, on_get, on_ofFiles]
  cases Launcher.ofSettings h.view h.environment i.settings with
  | error e => rfl
  | ok l => cases i.command <;> exact on_bind_emit _ _ h

theorem account_report (hr : (on i.report h).1 = .ok r) : ∃ l started,
    Launcher.ofSettings h.view h.environment i.settings = .ok l ∧
      l.Account i.arguments.rest h started (on i.report h) := by
  simp only [Invocation.report, on_bind, on_get, on_ofFiles] at hr ⊢
  cases hl : Launcher.ofSettings h.view h.environment i.settings with
  | error e => simp [hl] at hr
  | ok l =>
    dsimp only
    cases i.command with
    | build =>
      obtain ⟨started, account⟩ := Launcher.account_buildImage l i.arguments.rest h
      exact ⟨l, started, rfl, account⟩
    | plan =>
      refine ⟨l, [], rfl, .silent ?_⟩
      simp only [Launcher.plan, on_ofFiles]
      cases l.planIn h.view i.arguments.rest <;> exact .refl h
    | run =>
      obtain ⟨started, account⟩ :=
        Launcher.account_launch l (i.arguments.has "--skip-build") i.arguments.rest h
      exact ⟨l, started, rfl, account⟩

/-- A flag is on if and only if it is given. -/
theorem flags_of_interpret (hread : readGlobal path arguments = .ok a)
    (hi : interpret path arguments h = .ok i) :
    i.settings.jsonOutput = a.has "--json" ∧ i.settings.verbose = a.has "--verbose" := by
  obtain ⟨b, hb, hassemble⟩ := interpret_ok hi
  obtain rfl := Except.ok.inj (hread.symm.trans hb)
  obtain ⟨config, _, document, _, _, gathered, -, made⟩ := assemble_eq_ok.mp hassemble
  have fields := made.fieldsFromFirst gathered.environmentRead
  have flag {name option : String} (ho : (name, option) ∈ flagOptions) {b : Bool}
      (hb : Gives asBool false
        (((requestFor a).sources h.environment document).field? name) b) : b = a.has option := by
    rw [Sources.field?, SettingsRequest.sources, argument?_flag a ho] at hb
    exact (Checked.valid.inj hb).symm
  exact ⟨flag (by decide) fields.jsonOutput, flag (by decide) fields.verbose⟩

/-- The log of a run that is about the settings of an invocation. -/
def Invocation.logging (i : Invocation) : Log.Logging :=
  (Log.Logging.initial.configure ⟨i.settings.verbose, i.settings.logJson⟩).bindLaunch
    i.settings.image i.settings.baseDir.text

/-- A text as it is written, with line ends of two characters as newlines. -/
def unified (s : String) : String := String.ofList (unifyLineEnds s.toList)

theorem unified_eq_empty {s : String} : unified s = "" ↔ s = "" := by
  have hlist : unifyLineEnds s.toList = [] ↔ s.toList = [] := by
    fun_cases unifyLineEnds s.toList <;> simp_all
  rw [unified, String.ofList_eq_empty_iff, hlist, String.toList_eq_nil_iff]

/-- What is told of the processes that were interrupted. -/
def Invocation.notices (i : Invocation) (timestamp : String) (started : List Started) : String :=
  unified (i.logging.write timestamp
    ((started.filter (·.process.interrupted)).map Started.interruption))

/-- Something is told if and only if a process was interrupted. -/
theorem notices_eq_empty {started : List Started} : i.notices timestamp started = "" ↔
    ∀ s ∈ started, s.process.interrupted = false := by
  have hnone : started.filter (·.process.interrupted) = [] ↔
      ∀ s ∈ started, s.process.interrupted = false := by
    simp [List.filter_eq_nil_iff]
  rw [← hnone]
  constructor
  · intro hempty
    by_contra hsome
    obtain ⟨s, hs⟩ := List.exists_mem_of_ne_nil _ hsome
    have hwritten : i.logging.isWritten s.interruption = true := by
      have hlevel : (i.logging.threshold commandLogger).rank ≤ Log.Level.warning.rank := by
        rw [Log.Logging.threshold]
        split
        · change (if i.settings.verbose then Log.Level.debug else .warning).rank ≤ _
          split <;> decide
        · exact Nat.le_refl _
      exact decide_eq_true hlevel
    exact write_ne_empty rfl timestamp (List.mem_map_of_mem hs) hwritten (unified_eq_empty.mp hempty)
  · intro hfilter
    rw [Invocation.notices, hfilter]
    rfl

/-- The log of an operation tells of the interruptions and of nothing else. -/
theorem unified_write_of_noted {started : List Started} {k : Host}
    (hverbose : i.settings.verbose = false) (hnoted : h.Noted started k) (timestamp : String) :
    unified (i.logging.write timestamp (k.records.drop h.records.length)) =
      i.notices timestamp started := by
  obtain ⟨events, hrecords, hgrave⟩ := hnoted.records
  have happ : i.logging.appLevel = .warning := if_neg (by simp [hverbose])
  have hlight := write_eq_of_not_verbose (l := i.logging) rfl happ timestamp
  rw [hrecords, List.drop_left, hlight, hgrave]
  rfl

theorem unified_payload (r : Report) : unified (r.indented ++ "\n") = r.indented ++ "\n" := by
  have hbody : Json.Body (r.indented ++ "\n") :=
    (Json.body_indented r.toValue).append (by decide)
  have hreturn : '\r' ∉ (r.indented ++ "\n").toList := fun hmem =>
    absurd (hbody _ hmem) (by decide)
  rw [unified, unifyLineEnds_of_no_return hreturn, String.ofList_toList]

/-- A payload is written as it is after other text too. -/
theorem unified_append_payload (s : String) (r : Report) :
    unified (s ++ (r.indented ++ "\n")) = unified s ++ (r.indented ++ "\n") := by
  have hhead : (r.indented ++ "\n").toList.head? ≠ some '\n' := by
    have hbrace : ∃ rest, r.indented = "\x7b" ++ rest := by
      simp only [Report.indented, Report.toValue, Json.indented, Json.indentedAt,
        Json.indentedFields, Json.bracketed, List.isEmpty_cons, Bool.false_eq_true, if_false,
        String.append_assoc]
      exact ⟨_, rfl⟩
    obtain ⟨rest, hrest⟩ := hbrace
    simp [hrest]
  rw [unified, String.toList_append, unifyLineEnds_append hhead, String.ofList_append]
  exact congrArg (unified s ++ ·) (unified_payload r)

/-- A command is carried out in the way of its report, with its log before its output. -/
theorem performLogged_eq (i : Invocation) (timestamp : String) (h : Host) :
    performLogged timestamp i.command i.settings i.arguments h =
      let log (k : Host) := i.logging.write timestamp (k.records.drop h.records.length)
      match on i.report h with
      | (.error f, k) => (.broken (log k) f, k)
      | (.ok r, k) =>
        match r.emit (outputMode i.settings) with
        | .error f => (.broken (log k) f, k)
        | .ok output => (⟨{ output with stderr := log k ++ output.stderr }, none⟩, k) := by
  have hperform : (perform i.command i.settings i.arguments).run h = _ := on_perform i h
  simp only [performLogged, hperform]
  rcases on i.report h with ⟨f | r, k⟩
  · rfl
  · dsimp only
    cases r.emit (outputMode i.settings) <;> rfl

/-- A run in JSON that comes to a report leaves its log and its payload. -/
theorem runProgram_of_report {k : Host} (hjson : i.settings.jsonOutput = true)
    (hi : interpret path arguments h = .ok i) (hr : on i.report h = (.ok r, k)) :
    runProgram path timestamp arguments h =
      let log := unified (i.logging.write timestamp (k.records.drop h.records.length))
      (⟨if r.ok then ⟨r.indented ++ "\n", log, 0⟩ else ⟨"", log ++ (r.indented ++ "\n"), r.exitCode⟩,
        none⟩, k) := by
  have hmode : (outputMode i.settings).json = true := hjson
  simp only [runProgram, hi, performLogged_eq, hr, Report.emit_json hmode]
  cases r.ok with
  | true =>
    simp only [Result.withNewlines, if_true, String.append_empty]
    change (Result.mk ⟨unified _, unified _, 0⟩ none, k) = _
    rw [unified_payload]
  | false =>
    simp only [Result.withNewlines, Bool.false_eq_true, if_false]
    change (Result.mk ⟨unified "", unified _, r.exitCode⟩ none, k) = _
    rw [unified_append_payload]
    rfl

/-- A run that does not come to a report is broken off. -/
theorem failure_of_no_report {f : Failure} {k : Host} (hi : interpret path arguments h = .ok i)
    (hf : on i.report h = (.error f, k)) :
    (runProgram path timestamp arguments h).1.failure = some f := by
  simp only [runProgram, hi, performLogged_eq, hf]
  rfl

/-- A run that comes to a report writes its payload, and before the one of a failure a line for each
process that was interrupted. -/
theorem runProgram_json (hread : readGlobal path arguments = .ok a) (hjson : a.has "--json" = true)
    (hverbose : a.has "--verbose" = false) (hi : interpret path arguments h = .ok i)
    (hreach : (runProgram path timestamp arguments h).1.failure = none) :
    ∃ r l started, (on i.report h).1 = .ok r ∧
      Launcher.ofSettings h.view h.environment i.settings = .ok l ∧
      (∀ s ∈ started, l.Starts h.environment i.arguments.rest s) ∧
      (runProgram path timestamp arguments h).2.executions =
        h.executions ++ started.map (·.process.execution) ∧
      (runProgram path timestamp arguments h).1.output =
        (if r.ok then ⟨r.indented ++ "\n", "", 0⟩
        else ⟨"", i.notices timestamp started ++ (r.indented ++ "\n"), r.exitCode⟩) ∧
      (r.ok = true → ∀ s ∈ started, s.process.interrupted = false) ∧
      (i.notices timestamp started = "" ↔ ∀ s ∈ started, s.process.interrupted = false) := by
  obtain ⟨hjsonSetting, hverboseSetting⟩ := flags_of_interpret hread hi
  rw [hjson] at hjsonSetting
  rw [hverbose] at hverboseSetting
  rcases hresult : on i.report h with ⟨f | r, k⟩
  · simp [failure_of_no_report hi hresult] at hreach
  · obtain ⟨l, started, hl, account⟩ := account_report (congrArg Prod.fst hresult)
    rw [hresult] at account
    have hundisturbed := account.undisturbed r rfl
    have hlog := unified_write_of_noted hverboseSetting account.noted timestamp
    rw [runProgram_of_report hjsonSetting hi hresult]
    refine ⟨r, l, started, rfl, hl, account.starts, account.noted.executions, ?_, hundisturbed,
      notices_eq_empty⟩
    dsimp only
    rw [hlog]
    cases hok : r.ok with
    | true => rw [notices_eq_empty.mpr (hundisturbed hok)]
    | false => simp only [Bool.false_eq_true, if_false]

end Performing

/-- A call for a build with an engine that is interrupted. -/
def interruptedCall : List String := ["--json", "--docker", "/engine", "build"]

def interruptedResult : Result :=
  (runProgram "reth-build" "now" interruptedCall Launcher.interruptedHost).1

theorem interruptedResult_failure : interruptedResult.failure = none := by
  have hnone : interruptedResult.failure.isNone = true := by decide +kernel
  exact Option.isNone_iff_eq_none.mp hnone

/-- The build is asked for in JSON, it fails, and of its log something is written. -/
theorem exists_interruptedInvocation : ∃ i,
    interpret "reth-build" interruptedCall Launcher.interruptedHost = .ok i ∧
      ((on i.report Launcher.interruptedHost).1.toOption.map Report.ok, i.settings.jsonOutput,
        (on i.report Launcher.interruptedHost).2.records.any i.logging.isWritten) =
      (some false, true, true) :=
  toOption_map_eq_some (by decide +kernel)

theorem runProgram_json_build : ∃ (i : Invocation) (r : Report) (started : List Started),
    interpret "reth-build" interruptedCall Launcher.interruptedHost = .ok i ∧
      interruptedResult.output =
        if r.ok then ⟨r.indented ++ "\n", "", 0⟩
        else ⟨"", i.notices "now" started ++ (r.indented ++ "\n"), r.exitCode⟩ := by
  have hread : ((readGlobal "reth-build" interruptedCall).toOption.map fun a =>
      (a.has "--json", a.has "--verbose")) = some (true, false) := by
    decide +kernel
  obtain ⟨a, ha, hflags⟩ := toOption_map_eq_some hread
  obtain ⟨hjson, hverbose⟩ := Prod.ext_iff.mp hflags
  obtain ⟨i, hi, -⟩ := exists_interruptedInvocation
  have hreach := interruptedResult_failure
  unfold interruptedResult at hreach ⊢
  obtain ⟨r, -, started, -, -, -, -, houtput, -⟩ := runProgram_json ha hjson hverbose hi hreach
  exact ⟨i, r, started, hi, houtput⟩

/-- An interruption is told before the payload. -/
theorem runProgram_json_interrupted : ∃ (i : Invocation) (r : Report),
    interpret "reth-build" interruptedCall Launcher.interruptedHost = .ok i ∧
      (on i.report Launcher.interruptedHost).1 = .ok r ∧ r.ok = false ∧
      interruptedResult.failure = none ∧ interruptedResult.output.stderr ≠ r.indented ++ "\n" := by
  obtain ⟨i, hi, hshape⟩ := exists_interruptedInvocation
  obtain ⟨hreport, hsettings⟩ := Prod.ext_iff.mp hshape
  obtain ⟨hjson, hrecords⟩ := Prod.ext_iff.mp hsettings
  obtain ⟨r, hr, hbad⟩ := toOption_map_eq_some hreport
  obtain ⟨event, hevent, hwritten⟩ := List.any_eq_true.mp hrecords
  have hlog : unified (i.logging.write "now" (on i.report Launcher.interruptedHost).2.records) ≠ "" :=
    mt unified_eq_empty.mp (write_ne_empty rfl "now" hevent hwritten)
  have hresult : on i.report Launcher.interruptedHost =
      (.ok r, (on i.report Launcher.interruptedHost).2) := Prod.ext hr rfl
  have hstderr : interruptedResult.output.stderr =
      unified (i.logging.write "now" (on i.report Launcher.interruptedHost).2.records) ++
        (r.indented ++ "\n") := by
    rw [interruptedResult, runProgram_of_report hjson hi hresult]
    simp [hbad, Launcher.interruptedHost]
  refine ⟨i, r, hi, hr, hbad, interruptedResult_failure, ?_⟩
  rw [hstderr]
  intro hsame
  have hlength := congrArg String.length hsame
  rw [String.length_append] at hlength
  exact hlog (String.length_eq_zero_iff.mp (by omega))

end BuildLauncher.CommandLine
