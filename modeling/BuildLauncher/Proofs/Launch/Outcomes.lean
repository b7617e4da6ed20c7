import BuildLauncher.Proofs.Launch.ErrorTable
import BuildLauncher.Proofs.Number.Numerals
import BuildLauncher.Proofs.Report.Rendering
import BuildLauncher.Proofs.Settings.Merging

/-!
# The outcome of an operation as it is written

The report of a plan, a build or a launch is written in each mode with the same status, and the
message of a failure is shown whole, unless a text that is read as markup holds a tag or a code
(`emit_outcome`).
-/
namespace BuildLauncher

open Files

namespace Launching

variable {α β : Type} {op : Launching α} {next : α → Launching β} {good : α → Prop}
  {result : β → Prop} {a : α}

/-- Whatever an operation comes to is good. -/
def Returns (op : Launching α) (good : α → Prop) : Prop := ∀ h a, (on op h).1 = .ok a → good a

theorem returns_pure (h : good a) : Returns (pure a) good := by
  intro host b hb
  obtain rfl := Except.ok.inj hb
  exact h

theorem Returns.bind (hop : Returns op good) (hnext : ∀ a, good a → Returns (next a) result) :
    Returns (op >>= next) result := by
  intro host b hb
  rw [on_bind] at hb
  rcases hrun : on op host with ⟨f | a, k⟩
  · rw [hrun] at hb
    nomatch hb
  · rw [hrun] at hb
    exact hnext a (hop host a (by rw [hrun])) k b hb

/-- What comes before does not matter where all that follows is good. -/
theorem returns_bind (hnext : ∀ a, Returns (next a) result) : Returns (op >>= next) result :=
  Returns.bind (fun _ _ _ => trivial) fun a (_ : True) => hnext a

end Launching

namespace Launcher

open Launching
open Report (Untagged Output OutputMode)

/-- What the reports of a launcher have in common. -/
structure Reported (l : Launcher) (r : Report) : Prop where
  op : r.op ∈ ["plan", "build_image", "launch"]
  ok_eq : r.ok = r.error.isNone
  detail : ∀ e, r.error = some e → ∃ status, e.detail = exitDetail status
  info : ∀ info, r.info = some info → Untagged info
  mounts : r.op ≠ "build_image" → r.data.get? "mounts" = some l.mountSpecs

section Reports

variable {l : Launcher} {op : String} {data detail : Fields}

theorem not_mem_numerals : '[' ∉ numerals := by decide

theorem untagged_exitDetail (status : Int) : Untagged (exitDetail status) := by
  have hname : '[' ∉ "exit_code".toList := by decide
  refine List.forall_mem_singleton.mpr ?_
  rw [String.toList_append, List.mem_append, not_or]
  exact ⟨hname, fun h => not_mem_numerals (toString_subset status h)⟩

theorem untagged_elapsed (start stop : Tick) : Untagged [("duration_ms", elapsed start stop)] := by
  have hint (n : Int) : '[' ∉ (Value.int n).display.toList := fun h =>
    not_mem_numerals (toString_subset n h)
  have hfloat (x : Binary64) : '[' ∉ (Value.float x).display.toList := by
    intro h
    have hwords : '[' ∉ shownNumber.notANumber.toList ∧ '[' ∉ shownNumber.infinite.toList ∧
        '[' ∉ shownNumber.negativeInfinite.toList := by
      decide
    obtain hnumeral | hword := Binary64.mem_text shownNumber x _ h
    · exact not_mem_numerals hnumeral
    · tauto
  have hname : '[' ∉ "duration_ms".toList := by decide
  refine List.forall_mem_singleton.mpr ?_
  rw [String.toList_append, List.mem_append, not_or]
  refine ⟨hname, ?_⟩
  unfold elapsed
  split
  · exact hint _
  · exact hfloat _

theorem untagged_dryRunInfo : ∀ info, dryRunInfo = some info → Untagged info := by
  rintro info ⟨⟩
  exact List.forall_mem_singleton.mpr (by decide)

theorem reported_ok {info : Option Fields} (hop : op ∈ ["plan", "build_image", "launch"])
    (hdata : op ≠ "build_image" → data.get? "mounts" = some l.mountSpecs)
    (hinfo : ∀ fields, info = some fields → Untagged fields) (warnings : List String) :
    l.Reported ⟨true, op, data, warnings, none, info⟩ where
  op := hop
  ok_eq := rfl
  detail := nofun
  info := hinfo
  mounts := hdata

theorem returns_fail (hop : op ∈ ["plan", "build_image", "launch"])
    (hdata : op ≠ "build_image" → data.get? "mounts" = some l.mountSpecs)
    (hdetail : ∃ status, detail = exitDetail status) (code message : String)
    (warnings : List String) : Returns (fail op code message warnings data detail) l.Reported :=
  returns_bind fun _ => returns_pure {
    op := hop
    ok_eq := rfl
    detail := by
      rintro e ⟨⟩
      exact hdetail
    info := nofun
    mounts := hdata }

theorem returns_buildImage (l : Launcher) : Returns l.buildImage l.Reported := by
  have hop : "build_image" ∈ ["plan", "build_image", "launch"] := by decide
  unfold buildImage buildImageBy
  refine returns_bind fun file => ?_
  split
  · exact returns_fail hop nofun ⟨_, rfl⟩ _ _ _
  · split
    · exact returns_pure (reported_ok hop nofun untagged_dryRunInfo _)
    · refine returns_bind fun start => returns_bind fun outcome => ?_
      split
      · exact returns_fail hop nofun ⟨_, rfl⟩ _ _ _
      · split
        · exact returns_fail hop nofun ⟨_, rfl⟩ _ _ _
        · refine returns_bind fun _ => returns_bind fun stop => returns_pure ?_
          refine reported_ok hop nofun ?_ _
          rintro info ⟨⟩
          exact untagged_elapsed start stop

theorem get?_mounts_append (h : data.get? "mounts" = some l.mountSpecs) (more : Fields) :
    Fields.get? (data ++ more) "mounts" = some l.mountSpecs := by
  rw [Fields.get?_append, h]
  rfl

theorem returns_startRunner (start : Tick) (warnings extra : List String)
    (hdata : data.get? "mounts" = some l.mountSpecs) :
    Returns (l.startRunnerBy runCommand start data warnings extra) l.Reported := by
  have hop : "launch" ∈ ["plan", "build_image", "launch"] := by decide
  unfold startRunnerBy
  refine returns_bind fun outcome => ?_
  split
  · exact returns_fail hop (fun _ => hdata) ⟨_, rfl⟩ _ _ _
  · split
    · exact returns_fail hop (fun _ => hdata) ⟨_, rfl⟩ _ _ _
    · refine returns_bind fun stop => returns_pure ?_
      refine reported_ok hop (fun _ => get?_mounts_append hdata _) ?_ _
      rintro info ⟨⟩
      exact untagged_elapsed start stop

theorem returns_runTarget (start : Tick) (extra : List String)
    (hdata : data.get? "mounts" = some l.mountSpecs) :
    Returns (l.runTargetBy runCommand start data extra) l.Reported := by
  have hop : "launch" ∈ ["plan", "build_image", "launch"] := by decide
  unfold runTargetBy
  refine returns_bind fun target => ?_
  split
  · exact returns_fail hop (fun _ => hdata) ⟨_, rfl⟩ _ _ _
  · refine returns_bind fun warnings => ?_
    split
    · exact returns_pure (reported_ok hop (fun _ => hdata) untagged_dryRunInfo _)
    · refine returns_bind fun obstacle => ?_
      split
      · exact returns_fail hop (fun _ => hdata) ⟨_, rfl⟩ _ _ _
      · exact returns_startRunner start warnings extra hdata

theorem returns_launch (l : Launcher) (skip : Bool) (extra : List String) :
    Returns (l.launch skip extra) l.Reported := by
  have hop : "launch" ∈ ["plan", "build_image", "launch"] := by decide
  have hdata (command : Value) :
      (l.launchData command extra).get? "mounts" = some l.mountSpecs := by
    simp [launchData, Fields.get?_cons]
  unfold launch launchBy
  refine returns_bind fun start => ?_
  split
  · exact returns_runTarget start extra (hdata _)
  · refine (returns_buildImage l).bind fun built hbuilt => ?_
    dsimp only
    split
    · next e _ he => exact returns_fail hop (fun _ => hdata _) (hbuilt.detail e he) _ _ _
    · exact returns_runTarget start extra (hdata _)

theorem returns_plan (l : Launcher) (extra : List String) : Returns (l.plan extra) l.Reported := by
  intro h r hr
  rw [plan, on_ofFiles] at hr
  have hplan : l.planIn h.view extra = .ok r := by
    cases hp : l.planIn h.view extra with
    | error e => simp [hp] at hr
    | ok report => simpa [hp] using hr
  obtain ⟨hasDockerfile, -, hrest⟩ := bind_eq_ok hplan
  obtain ⟨hasTarget, -, hrest⟩ := bind_eq_ok hrest
  obtain ⟨readonly, -, hreport⟩ := bind_eq_ok hrest
  obtain rfl := Except.ok.inj hreport
  have hinfo : ∀ info, (none : Option Fields) = some info → Untagged info := nofun
  have hmounts : (l.planData extra).get? "mounts" = some l.mountSpecs := by
    simp [planData, Fields.get?_cons]
  exact reported_ok (by decide) (fun _ => hmounts) hinfo _

/-- The reports that a launcher comes to on a host. -/
inductive Reports (l : Launcher) (h : Host) (r : Report) : Prop
  | plan (extra : List String) (result : (on (l.plan extra) h).1 = .ok r)
  | build (result : (on l.buildImage h).1 = .ok r)
  | launch (skip : Bool) (extra : List String) (result : (on (l.launch skip extra) h).1 = .ok r)

theorem Reports.reported {h : Host} {r : Report} (hr : l.Reports h r) : l.Reported r := by
  cases hr with
  | plan extra result => exact returns_plan l extra h r result
  | build result => exact returns_buildImage l h r result
  | launch skip extra result => exact returns_launch l skip extra h r result

end Reports

theorem legible_op {l : Launcher} {r : Report} (hr : l.Reported r) : Report.Legible r.op := by
  have hop := hr.op
  simp only [List.mem_cons, List.not_mem_nil, or_false] at hop
  obtain hop | hop | hop := hop
  all_goals
    rw [hop]
    exact ⟨by decide, by decide, by decide, by decide, by decide⟩

/-- The texts of a report that are read as markup when it is written: the message of a failure, or
the mounts of a plan, or of a launch in detail. -/
def markupTexts (l : Launcher) (r : Report) (mode : OutputMode) : List String :=
  if mode.json || mode.quiet then []
  else if !r.ok then [r.errorMessage]
  else if r.op = "plan" || (r.op = "launch" && mode.verbose) then l.mounts.map Mount.spec
  else []

section Emission

variable {l : Launcher} {h : Host} {r : Report} {mode : OutputMode}

theorem mountLines_ok (hr : l.Reported r) (hop : r.op ≠ "build_image")
    (hclean : ∀ m ∈ l.mounts, '[' ∉ m.spec.toList) : ∃ shown, r.mountLines = .ok shown := by
  rw [Report.mountLines, hr.mounts hop]
  dsimp only
  split
  · exact Report.mountTable_ok hclean
  · exact ⟨_, rfl⟩

/-- A report is written if none of its texts with markup has an opening bracket. -/
theorem emit_ok (hr : l.Reported r) (hclean : ∀ text ∈ l.markupTexts r mode, '[' ∉ text.toList) :
    ∃ output, r.emit mode = .ok output := by
  obtain ⟨text, htext⟩ : ∃ text, r.format mode = .ok text := by
    unfold Report.format
    split
    · exact ⟨_, rfl⟩
    · split
      · exact ⟨_, rfl⟩
      · next hjson hquiet =>
        simp only [markupTexts, hjson, hquiet, Bool.or_self, Bool.false_eq_true, if_false] at hclean
        refine Report.render_ok ⟨fun hbad => ?_, fun e he => ?_, hr.info, fun hgood hop => ?_⟩
        · simpa [hbad] using hclean
        · obtain ⟨status, hdetail⟩ := hr.detail e he
          rw [hdetail]
          exact untagged_exitDetail status
        · have hshown : r.op = "plan" || (r.op = "launch" && mode.verbose) := by simpa using hop
          have hbuild : r.op ≠ "build_image" := by
            rintro hbuild
            simp [hbuild] at hop
          rw [hgood, Bool.not_true, if_neg Bool.false_ne_true, if_pos hshown] at hclean
          exact mountLines_ok hr hbuild fun m hm => hclean _ (List.mem_map_of_mem hm)
  exact ⟨_, Report.emit_of_format htext⟩

theorem onlyMarkup_mountLines (hr : l.Reported r) (hop : r.op ≠ "build_image") :
    Report.OnlyMarkup r.mountLines := by
  rw [Report.mountLines, hr.mounts hop]
  dsimp only
  split
  · exact Report.onlyMarkup_mountTable l.mounts
  · exact Report.onlyMarkup_ok _

/-- If a report is not written, markup that is shown to people is at fault. -/
theorem emit_eq_error_markup (hr : l.Reported r) {f : Failure} (hf : r.emit mode = .error f) :
    mode.json = false ∧ mode.quiet = false ∧ ∃ fault, f = .markup fault := by
  obtain ⟨hjson, hquiet, hrender⟩ := Report.format_eq_error.mp (Report.emit_eq_error.mp hf)
  have honly := Report.onlyMarkup_render (onlyMarkup_mountLines hr) mode.verbose
  exact ⟨hjson, hquiet, honly f hrender⟩

/-- The report of an operation is written unless one of the texts that are read as markup has an
opening bracket, and only markup can be at fault. What is written goes to one side, with a status that
does not depend on the mode, and the message of a failure is shown whole if it is legible. -/
theorem emit_outcome (hr : l.Reports h r) (mode : OutputMode) :
    ((∀ text ∈ l.markupTexts r mode, '[' ∉ text.toList) → ∃ output, r.emit mode = .ok output) ∧
    (∀ f, r.emit mode = .error f →
      mode.json = false ∧ mode.quiet = false ∧ ∃ fault, f = .markup fault) ∧
    (∀ output, r.emit mode = .ok output → ∃ text, r.format mode = .ok text ∧
      match r.error with
      | none => r.ok = true ∧ output.stdout = Report.line text ∧ output.status = 0
      | some e => r.ok = false ∧ output.stdout = "" ∧ output.stderr = Report.line text ∧
        output.status = e.exitCode ∧ e.exitCode ≠ 0) ∧
    (∀ e output, r.error = some e → mode.json = false → mode.quiet = true →
      r.emit mode = .ok output →
      output.stderr = "ERROR: " ++ r.op ++ " — " ++ Text.plain e.message ++ "\n") ∧
    (∀ e output, r.error = some e → mode.json = false → mode.quiet = false →
      Report.Legible e.message → r.emit mode = .ok output →
      (Text.visible e.message.toList).Sublist output.stderr.toList) := by
  have hreported := hr.reported
  have hfailed (e : ReportError) (he : r.error = some e) :
      r.ok = false ∧ r.exitCode = e.exitCode ∧ r.errorMessage = e.message := by
    have hok : r.ok = false := by rw [hreported.ok_eq, he]; rfl
    exact ⟨hok, by simp [Report.exitCode, hok, he], by simp [Report.errorMessage, he]⟩
  refine ⟨emit_ok hreported, fun f => emit_eq_error_markup hreported, fun output houtput => ?_,
    fun e output he hjson hquiet houtput => ?_,
    fun e output he hjson hquiet hlegible houtput => ?_⟩
  · obtain ⟨text, htext, rfl⟩ := Report.emit_eq_ok.mp houtput
    refine ⟨text, htext, ?_⟩
    cases he : r.error with
    | none =>
      have hgood : r.ok = true := by rw [hreported.ok_eq, he]; rfl
      rw [Report.written, hgood, if_pos rfl]
      exact ⟨rfl, rfl, rfl⟩
    | some e =>
      obtain ⟨hbad, hstatus, -⟩ := hfailed e he
      rw [Report.written, hbad, if_neg Bool.false_ne_true]
      exact ⟨rfl, rfl, rfl, hstatus, e.exitCode_ne_zero⟩
  · obtain ⟨hbad, -, hmessage⟩ := hfailed e he
    obtain ⟨text, htext, rfl⟩ := Report.emit_eq_ok.mp houtput
    obtain rfl : r.renderQuiet = text := by simpa [Report.format, hjson, hquiet] using htext
    have hmark : Report.Unescaped "ERROR: ".toList := by decide
    have hseparator : Report.Unescaped " — ".toList := by decide
    have hescape : Report.Unescaped ("ERROR: " ++ r.op ++ " — ").toList := by
      rw [String.toList_append, String.toList_append]
      exact List.forall_mem_append.mpr
        ⟨List.forall_mem_append.mpr ⟨hmark, (legible_op hreported).unescaped⟩, hseparator⟩
    rw [Report.written, hbad, if_neg Bool.false_ne_true, Report.renderQuiet, hbad,
      if_neg Bool.false_ne_true, hmessage]
    exact Report.line_append hescape e.message
  · obtain ⟨hbad, -, hmessage⟩ := hfailed e he
    obtain ⟨text, htext, rfl⟩ := Report.emit_eq_ok.mp houtput
    have hrender : r.render mode.verbose = .ok text := by
      simpa [Report.format, hjson, hquiet] using htext
    rw [Report.written, hbad, if_neg Bool.false_ne_true, ← hmessage]
    exact Report.sublist_of_render hbad (legible_op hreported) (hmessage ▸ hlegible) hrender

end Emission

/-- A host with an engine that ends with status three. -/
def failingEngineHost : Host where
  view := ⟨⟨[(["Dockerfile"], .file []),
    (["engine"], .program ⟨"/engine", .runs (.exits 3) false⟩)]⟩, some []⟩
  environment := []
  clock := ⟨.whole 0, []⟩
  executions := []
  records := []

theorem emit_outcome_failed : ∃ r e output, rootLauncher.Reports failingEngineHost r ∧
    r.error = some e ∧ r.emit ⟨false, false, true⟩ = .ok output ∧ output.status = e.exitCode ∧
      (Text.visible e.message.toList).Sublist output.stderr.toList := by
  have hreport : (on rootLauncher.buildImage failingEngineHost).1.toOption.map
      (fun r => (r.ok, r.error.map ReportError.message)) =
        some (false, some "Image build for image exited with status 3") := by
    decide +kernel
  obtain ⟨r, hr, hshape⟩ := toOption_map_eq_some hreport
  obtain ⟨hbad, herror⟩ := Prod.ext_iff.mp hshape
  obtain ⟨e, he, hmessage⟩ := Option.map_eq_some_iff.mp herror
  have hreports : rootLauncher.Reports failingEngineHost r := .build hr
  have htexts : rootLauncher.markupTexts r ⟨false, false, true⟩ = [e.message] := by
    have hbad : r.ok = false := hbad
    simp [markupTexts, hbad, Report.errorMessage, he]
  have hclean : ∀ text ∈ rootLauncher.markupTexts r ⟨false, false, true⟩, '[' ∉ text.toList := by
    rw [htexts, hmessage]
    decide
  have hlegible : Report.Legible e.message := by
    rw [hmessage]
    exact ⟨by decide, by decide, by decide, by decide, by decide⟩
  obtain ⟨hwritten, -, houtcome, -, hshown⟩ := emit_outcome hreports ⟨false, false, true⟩
  obtain ⟨output, houtput⟩ := hwritten hclean
  obtain ⟨text, -, hstatus⟩ := houtcome output houtput
  rw [he] at hstatus
  exact ⟨r, e, output, hreports, he, houtput, hstatus.2.2.2.1,
    hshown e output he rfl rfl hlegible houtput⟩

/-- A name that looks like a closing tag keeps the failure from being told. -/
theorem emit_tagged : ∃ (l : Launcher) (r : Report) (e : ReportError), l.Reports failingEngineHost r ∧
    r.error = some e ∧ e.exitCode = 3 ∧
      (∃ output, r.emit ⟨false, true, false⟩ = .ok output ∧ output.status = 3) ∧
      ∀ output, r.emit ⟨false, false, false⟩ ≠ .ok output := by
  let l : Launcher := { rootLauncher with settings.image := "[/x]" }
  have hreport : (on l.buildImage failingEngineHost).1.toOption.map (fun r =>
      (r.error.map ReportError.exitCode, (r.emit ⟨false, true, false⟩).toOption.map Report.Output.status,
        (r.emit ⟨false, false, false⟩).toOption)) = some (some 3, some 3, none) := by
    decide +kernel
  obtain ⟨r, hr, hshape⟩ := toOption_map_eq_some hreport
  obtain ⟨herror, hmodes⟩ := Prod.ext_iff.mp hshape
  obtain ⟨hquiet, hhuman⟩ := Prod.ext_iff.mp hmodes
  obtain ⟨e, he, hstatus⟩ := Option.map_eq_some_iff.mp herror
  refine ⟨l, r, e, .build hr, he, hstatus, toOption_map_eq_some hquiet, fun output houtput => ?_⟩
  simp [houtput, Except.toOption] at hhuman

end Launcher
end BuildLauncher
