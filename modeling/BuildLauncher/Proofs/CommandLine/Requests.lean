import BuildLauncher.CommandLine.Program
import BuildLauncher.Proofs.Settings.Precedence

/-!
# What the command line asks for

A flag is asked for or asked not to be, whether it is given or not. The other options are asked for
where they are given, and left to lower sources where they are not.
-/
namespace BuildLauncher.CommandLine

open Checking Files Settings

variable {path : String} {arguments : List String} {h : Host} {i : Invocation}

/-- The fields that flags stand for. -/
def flagOptions : List (String × String) := [
  ("json_output", "--json"), ("quiet", "--quiet"), ("verbose", "--verbose"),
  ("log_json", "--log-json"), ("dry_run", "--dry-run")]

/-- The fields whose values options give. -/
def valueOptions : List (String × String) := [
  ("image", "--image"), ("volume", "--volume"), ("docker", "--docker")]

/-- What arguments make of the options that take a value. -/
def valueFields (a : Arguments) : Fields :=
  valueOptions.filterMap fun o => ((a.valueOf o.2).map .text).map fun v => (o.1, v)

/-- What arguments make of some flags and of the options that take a value. -/
def optionFields (flags : List (String × String)) (a : Arguments) : Fields :=
  flags.map (fun o => (o.1, .bool (a.has o.2))) ++ valueFields a

/-- The request for settings that leaves all but some flags open. -/
def requestWith (flags : List (String × String)) (a : Arguments) : SettingsRequest :=
  { requestFor a with arguments := optionFields flags a }

theorem requestFor_eq (a : Arguments) : requestFor a = requestWith flagOptions a := by
  simp [requestFor, requestWith, optionFields, valueFields, flagOptions, valueOptions,
    Option.map_map, Function.comp_def]

theorem given_requestWith (flags : List (String × String)) (a : Arguments) :
    (requestWith flags a).given = optionFields flags a := by
  refine List.filter_eq_self.mpr fun entry hentry => ?_
  rcases List.mem_append.mp hentry with hflag | hvalue
  · obtain ⟨o, -, rfl⟩ := List.mem_map.mp hflag
    rfl
  · obtain ⟨o, -, ho⟩ := List.mem_filterMap.mp hvalue
    obtain ⟨v, hv, rfl⟩ := Option.map_eq_some_iff.mp ho
    obtain ⟨text, -, rfl⟩ := Option.map_eq_some_iff.mp hv
    rfl

section Options

variable {flags : List (String × String)} {name option : String}

theorem map_fst_optionFields (hflags : flags.Sublist flagOptions) (a : Arguments) :
    ((optionFields flags a).map Prod.fst).Sublist ((flagOptions ++ valueOptions).map Prod.fst) := by
  rw [optionFields, List.map_append, List.map_append, List.map_map]
  exact (hflags.map Prod.fst).append (Fields.map_fst_filterMap _ _ _)

theorem nodup_optionFields (hflags : flags.Sublist flagOptions) (a : Arguments) :
    ((optionFields flags a).map Prod.fst).Nodup := by
  have hnodup : ((flagOptions ++ valueOptions).map Prod.fst).Nodup := by decide
  exact hnodup.sublist (map_fst_optionFields hflags a)

theorem map_fst_optionFields_subset (hflags : flags.Sublist flagOptions) (a : Arguments) :
    (optionFields flags a).map Prod.fst ⊆ scalarNames := by
  have hscalar : (flagOptions ++ valueOptions).map Prod.fst ⊆ scalarNames := by decide
  exact List.Subset.trans (map_fst_optionFields hflags a).subset hscalar

theorem argument?_flag (a : Arguments) (h : (name, option) ∈ flagOptions) :
    argument? (requestFor a).given name = some (.bool (a.has option)) := by
  have hscalar : ∀ o ∈ flagOptions, o.1 ∈ scalarNames := by decide
  have hinj : ∀ o ∈ flagOptions, ∀ p ∈ flagOptions, p.1 = o.1 → p = o := by decide
  have hflag := Fields.get?_filterMap Prod.fst (fun o => some (.bool (a.has o.2))) h (hinj _ h)
  simp only [Option.map_some, List.filterMap_eq_map'] at hflag
  rw [requestFor_eq, given_requestWith, argument?_eq_get? (nodup_optionFields (.refl _) a)
    (map_fst_optionFields_subset (.refl _) a) (hscalar _ h), optionFields, Fields.get?_append,
    hflag, Option.some_or]

theorem argument?_value (a : Arguments) (h : (name, option) ∈ valueOptions) :
    argument? (requestFor a).given name = (a.valueOf option).map .text := by
  have hscalar : ∀ o ∈ valueOptions, o.1 ∈ scalarNames := by decide
  have hinj : ∀ o ∈ valueOptions, ∀ p ∈ valueOptions, p.1 = o.1 → p = o := by decide
  have hother : ∀ o ∈ valueOptions, o.1 ∉ flagOptions.map Prod.fst := by decide
  rw [requestFor_eq, given_requestWith, argument?_eq_get? (nodup_optionFields (.refl _) a)
    (map_fst_optionFields_subset (.refl _) a) (hscalar _ h), optionFields, Fields.get?_append,
    Fields.get?_eq_none_iff.mpr, Option.none_or]
  · exact Fields.get?_filterMap Prod.fst (fun o => (a.valueOf o.2).map .text) h (hinj _ h)
  · rw [List.map_map]
    exact hother _ h

/-- What is not a flag has the same argument whichever flags are asked for. -/
theorem get?_argumentFields_of_not_flag (hflags : flags.Sublist flagOptions) (a : Arguments)
    (hname : name ∉ flagOptions.map Prod.fst) :
    (argumentFields (optionFields flags a)).get? name =
      (argumentFields (valueFields a)).get? name := by
  have hplain : ∀ o ∈ flagOptions, sourceName o.1 = o.1 := by decide
  have hnone : Fields.get? (flags.map fun o => (sourceName o.1, .bool (a.has o.2))) name = none := by
    rw [Fields.get?_eq_none_iff, List.map_map]
    intro hmem
    obtain ⟨o, ho, rfl⟩ := List.mem_map.mp hmem
    exact hname (List.mem_map.mpr ⟨o, hflags.subset ho, (hplain o (hflags.subset ho)).symm⟩)
  have hvalues : argumentFields (valueFields a) =
      ("config_path", .null) :: (valueFields a).map fun entry => (sourceName entry.1, entry.2) :=
    argumentFields_eq (nodup_optionFields (List.nil_sublist _) a)
      (map_fst_optionFields_subset (List.nil_sublist _) a)
  rw [argumentFields_eq (nodup_optionFields hflags a) (map_fst_optionFields_subset hflags a),
    hvalues, optionFields, List.map_append, List.map_map, Fields.get?_cons, Fields.get?_cons,
    Fields.get?_append]
  simp only [Function.comp_def, hnone, Option.none_or]

end Options

theorem interpret_ok (hi : interpret path arguments h = .ok i) :
    ∃ a, readGlobal path arguments = .ok a ∧
      assemble h.view h.environment (requestFor a) = .ok i.settings := by
  obtain ⟨a, ha, hi⟩ := bind_eq_ok hi
  refine ⟨a, ha, ?_⟩
  split at hi
  · obtain ⟨_, _, hi⟩ := bind_eq_ok hi
    contradiction
  · obtain ⟨_, _, hi⟩ := bind_eq_ok hi
    obtain ⟨settings, hsettings, hi⟩ := bind_eq_ok hi
    obtain ⟨_, _, hi⟩ := bind_eq_ok hi
    obtain rfl := Except.ok.inj hi
    exact mapError_eq_ok hsettings

/-- Other flags in otherwise the same fields change only the flags. -/
theorem madeOf_flags {baseDir : Checked Path} {config : Option Path} {merged others : Fields}
    {s : Settings} (made : MadeOf baseDir config merged s)
    (hothers : ∀ name, name ∉ flagOptions.map Prod.fst → others.get? name = merged.get? name)
    {flag : String → Bool}
    (hflags : ∀ o ∈ flagOptions, Gives asBool false (others.get? o.1) (flag o.2)) :
    MadeOf baseDir config others { s with
      jsonOutput := flag "--json", quiet := flag "--quiet", verbose := flag "--verbose",
      logJson := flag "--log-json", dryRun := flag "--dry-run" } := by
  have kept {name : String} (hname : name ∉ flagOptions.map Prod.fst) {α : Type}
      {check : Value → Checked α} {default a : α} (h : Gives check default (merged.get? name) a) :
      Gives check default (others.get? name) a := by
    rwa [hothers name hname]
  exact {
    baseDir := made.baseDir
    configPath := made.configPath
    image := kept (by decide) made.image
    volume := kept (by decide) made.volume
    docker := kept (by decide) made.docker
    jsonOutput := hflags ("json_output", "--json") (by decide)
    quiet := hflags ("quiet", "--quiet") (by decide)
    verbose := hflags ("verbose", "--verbose") (by decide)
    logJson := hflags ("log_json", "--log-json") (by decide)
    dryRun := hflags ("dry_run", "--dry-run") (by decide)
    layout := kept (by decide) made.layout
    runner := kept (by decide) made.runner
    surplus := surplus_eq_valid.mpr fun name hname => by
      have hfields : flagOptions.map Prod.fst ⊆ fieldNames := by decide
      rw [hothers name fun hmem => hname (hfields hmem)]
      exact surplus_eq_valid.mp made.surplus name hname }

/-- Settings for the options that are given become those of the program by setting all flags. -/
theorem assemble_requestFor {v : View} {env : Environment} {a : Arguments} {s : Settings}
    (hs : assemble v env (requestWith (flagOptions.filter (a.has ·.2)) a) = .ok s) :
    assemble v env (requestFor a) = .ok { s with
      jsonOutput := a.has "--json", quiet := a.has "--quiet", verbose := a.has "--verbose",
      logJson := a.has "--log-json", dryRun := a.has "--dry-run" } := by
  obtain ⟨config, chosen, document, environment, baseDir, gathered, hbaseDir, made⟩ :=
    assemble_eq_ok.mp hs
  have harguments (name : String) (hname : name ∉ flagOptions.map Prod.fst) :
      (argumentFields (requestFor a).given).get? name =
        (argumentFields (requestWith (flagOptions.filter (a.has ·.2)) a).given).get? name := by
    rw [requestFor_eq, given_requestWith, given_requestWith,
      get?_argumentFields_of_not_flag (.refl _) a hname,
      get?_argumentFields_of_not_flag List.filter_sublist a hname]
  have hothers (name : String) (hname : name ∉ flagOptions.map Prod.fst) :
      (((requestFor a).sources env document).merged environment).get? name =
        (((requestWith (flagOptions.filter (a.has ·.2)) a).sources env document).merged
          environment).get? name := by
    simp only [Sources.merged, SettingsRequest.sources, get?_mergeFields (nodup_argumentFields _),
      harguments name hname]
  have hflags : ∀ o ∈ flagOptions, Gives asBool false
      ((((requestFor a).sources env document).merged environment).get? o.1) (a.has o.2) := by
    intro o ho
    have hplain : ∀ o ∈ flagOptions, sourceName o.1 = o.1 ∧ o.1 ∈ scalarNames := by decide
    obtain ⟨hname, hscalar⟩ := hplain o ho
    have hargument := get?_argumentFields (requestFor a).given (sourceName_scalar o.1 hscalar).1
      (sourceName_scalar o.1 hscalar).2
    rw [hname, argument?_flag a ho] at hargument
    simp only [Sources.merged, SettingsRequest.sources, get?_mergeFields (nodup_argumentFields _),
      hargument]
    rfl
  refine assemble_eq_ok.mpr ⟨config, chosen, document, environment, baseDir,
    ⟨⟨follow_standard _, gathered.configChosen, gathered.directoryChosen⟩, gathered.documentRead,
      gathered.environmentRead, follow_standard _⟩, ?_, madeOf_flags made hothers hflags⟩
  rw [← hbaseDir]
  exact baseDirOf_congr (harguments "base_dir" (by decide)) (hothers "base_dir" (by decide))

/-- A flag is on if and only if it is given, whatever lower sources say. Other options that are not
given have what the environment, the document or the default gives. All else is as in the settings
for the options that are given. -/
theorem interpret_options (hi : interpret path arguments h = .ok i) :
    ∃ a config document, readGlobal path arguments = .ok a ∧
      chooseConfig h.view h.environment (requestFor a) = .ok config ∧
      readDocument? h.view config = .ok document ∧
      i.settings.jsonOutput = a.has "--json" ∧ i.settings.quiet = a.has "--quiet" ∧
      i.settings.verbose = a.has "--verbose" ∧ i.settings.logJson = a.has "--log-json" ∧
      i.settings.dryRun = a.has "--dry-run" ∧
      Gives asText "build-reth:dev"
        (((a.valueOf "--image").map .text).or (lower? h.environment document "image"))
        i.settings.image ∧
      Gives asText "build-reth_target_dir"
        (((a.valueOf "--volume").map .text).or (lower? h.environment document "volume"))
        i.settings.volume ∧
      Gives asText "docker"
        (((a.valueOf "--docker").map .text).or (lower? h.environment document "docker"))
        i.settings.docker ∧
      ∀ s, assemble h.view h.environment (requestWith (flagOptions.filter (a.has ·.2)) a) = .ok s →
        i.settings = { s with
          jsonOutput := a.has "--json", quiet := a.has "--quiet", verbose := a.has "--verbose",
          logJson := a.has "--log-json", dryRun := a.has "--dry-run" } := by
  obtain ⟨a, ha, hassemble⟩ := interpret_ok hi
  obtain ⟨config, _, document, _, _, gathered, -, made⟩ := assemble_eq_ok.mp hassemble
  have fields := made.fieldsFromFirst gathered.environmentRead
  have flag {name option : String} (ho : (name, option) ∈ flagOptions) {b : Bool}
      (hb : Gives asBool false
        (((requestFor a).sources h.environment document).field? name) b) : b = a.has option := by
    rw [Sources.field?, SettingsRequest.sources, argument?_flag a ho] at hb
    exact (Checked.valid.inj hb).symm
  have value {name option : String} (ho : (name, option) ∈ valueOptions) {default text : String}
      (htext : Gives asText default
        (((requestFor a).sources h.environment document).field? name) text) :
      Gives asText default
        (((a.valueOf option).map .text).or (lower? h.environment document name)) text := by
    rwa [Sources.field?, SettingsRequest.sources, argument?_value a ho] at htext
  exact ⟨a, config, document, ha, gathered.configChosen, gathered.documentRead,
    flag (by decide) fields.jsonOutput, flag (by decide) fields.quiet,
    flag (by decide) fields.verbose, flag (by decide) fields.logJson,
    flag (by decide) fields.dryRun, value (by decide) fields.image,
    value (by decide) fields.volume, value (by decide) fields.docker,
    fun s hs => Except.ok.inj (hassemble.symm.trans (assemble_requestFor hs))⟩

/-- A host on which the environment asks for little output and names an image. -/
def quietHost : Host where
  view := ⟨⟨[]⟩, some []⟩
  environment := [("RETH_BUILD_QUIET", "1"), ("BUILDER_IMAGE", "named")]
  clock := ⟨.whole 0, []⟩
  executions := []
  records := []

theorem interpret_options_quiet :
    ∃ i a config document, interpret "reth-build" ["--docker", "podman", "plan"] quietHost = .ok i ∧
      (i.settings.quiet, i.settings.image, i.settings.docker) = (false, "named", "podman") ∧
      readGlobal "reth-build" ["--docker", "podman", "plan"] = .ok a ∧
      readDocument? quietHost.view config = .ok document ∧ i.settings.quiet = a.has "--quiet" := by
  have hsome : (interpret "reth-build" ["--docker", "podman", "plan"] quietHost).toOption.map
      (fun i => (i.settings.quiet, i.settings.image, i.settings.docker)) =
      some (false, "named", "podman") := by
    decide +kernel
  cases hi : interpret "reth-build" ["--docker", "podman", "plan"] quietHost with
  | error r => simp [hi, Except.toOption] at hsome
  | ok i =>
    obtain ⟨a, config, document, ha, -, hdocument, -, hquiet, -⟩ := interpret_options hi
    rw [hi] at hsome
    exact ⟨i, a, config, document, rfl, Option.some.inj hsome, ha, hdocument, hquiet⟩

/-- A flag that the environment switches on is off, although it is not given. -/
theorem interpret_flag_overridden :
    (interpret "reth-build" ["plan"] quietHost).toOption.map (·.settings.quiet) = some false ∧
      (assemble quietHost.view quietHost.environment ⟨none, none, []⟩).toOption.map (·.quiet) =
        some true := by
  decide +kernel

end BuildLauncher.CommandLine
