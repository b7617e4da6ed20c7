import BuildLauncher.Proofs.Settings.Assembling

/-!
# The first source decides

Arguments come before the environment, the environment before the document, and the document before
the defaults, for each field and each key of a section by itself. What the first source gives is
checked and taken as a whole.
-/
namespace BuildLauncher

open Checking Files Environment

namespace Settings

/-- What the sources below the arguments give for a field that is a single value. -/
def lower? (env : Environment) (document : Fields) (name : String) : Option Value :=
  (inEnvironment? env name).or (inDocument? document name)

namespace Sources

/-- What the first source gives for a field that is a single value. -/
def field? (sources : Sources) (name : String) : Option Value :=
  (argument? sources.arguments name).or (lower? sources.environment sources.document name)

/-- What the first source gives for a key of a section. Keys of `lists` are lists. -/
def key? (sources : Sources) (area : String) (lists : List String) (key : String) : Option Value :=
  (within (argument? sources.arguments area) key).or
    ((sources.environment.inSection? area lists key).or
      (within (inDocument? sources.document area) key))

end Sources

/-- Each field that is a single value comes from the first source that gives it. -/
structure FieldsFromFirst (sources : Sources) (s : Settings) : Prop where
  image : Gives asText "build-reth:dev" (sources.field? "image") s.image
  volume : Gives asText "build-reth_target_dir" (sources.field? "volume") s.volume
  docker : Gives asText "docker" (sources.field? "docker") s.docker
  jsonOutput : Gives asBool false (sources.field? "json_output") s.jsonOutput
  quiet : Gives asBool false (sources.field? "quiet") s.quiet
  verbose : Gives asBool false (sources.field? "verbose") s.verbose
  logJson : Gives asBool false (sources.field? "log_json") s.logJson
  dryRun : Gives asBool false (sources.field? "dry_run") s.dryRun

/-- Each key of a section comes from the first source that gives it. -/
structure KeysFromFirst (sources : Sources) (s : Settings) : Prop where
  target : Gives asRelativeName ⟨"reth", by decide⟩
    (sources.key? "layout" ["readonly"] "target") ⟨s.layout.target, s.layout.target_relative⟩
  readonly : Gives asTexts ["alloy"] (sources.key? "layout" ["readonly"] "readonly")
    s.layout.readonly
  targetSubdir : Gives asRelativeName ⟨"target", by decide⟩
    (sources.key? "layout" ["readonly"] "target_subdir")
    ⟨s.layout.targetSubdir, s.layout.targetSubdir_relative⟩
  command : Gives asText "in-docker" (sources.key? "runner" [] "command") s.runner.command
  name : Gives asText "build-reth" (sources.key? "runner" [] "name") s.runner.name

section Merged

variable {sources : Sources} {environment : Fields} {area : String}

theorem orObject_merged (henv : environmentFields sources.environment = .ok environment)
    {name : String} (hname : name ∈ scalarNames) :
    OrObject (sources.field? name) ((sources.merged environment).get? (sourceName name)) := by
  have harguments := orObject_mergeFields (nodup_argumentFields sources.arguments)
    (mergeFields (underSourceNames sources.document) environment) (sourceName name)
  rw [get?_argumentFields _ (sourceName_scalar name hname).1 (sourceName_scalar name hname).2] at harguments
  have hlower := orObject_mergeFields (nodup_environmentFields henv)
    (underSourceNames sources.document) (sourceName name)
  rw [get?_environmentFields henv hname, get?_underSourceNames] at hlower
  exact (hlower.or_right _).trans harguments

theorem orObject_merged_section
    (henv : environmentFields sources.environment = .ok environment)
    (harea : sourceName area ∈ fieldNames) (hconfig : sourceName area ≠ "config_path")
    (harguments : IsSection (argument? sources.arguments area))
    (hsection : IsSection (environment.get? (sourceName area))) {lists : List String} {key : String}
    (hkey : OrObject (sources.environment.inSection? area lists key)
      (within (environment.get? (sourceName area)) key)) :
    OrObject (sources.key? area lists key)
      (within ((sources.merged environment).get? (sourceName area)) key) := by
  have hupper := orObject_within_mergeFields (nodup_argumentFields sources.arguments)
    (mergeFields (underSourceNames sources.document) environment)
    (by rwa [get?_argumentFields _ harea hconfig]) key
  rw [get?_argumentFields _ harea hconfig] at hupper
  have hlower := orObject_within_mergeFields (nodup_environmentFields henv)
    (underSourceNames sources.document) hsection key
  rw [get?_underSourceNames] at hlower
  exact (((hkey.or_left _).trans hlower).or_right _).trans hupper

/-- An argument for a section is an object, since nothing can take its place in the merged fields. -/
theorem isSection_argument (harea : sourceName area ∈ fieldNames)
    (hconfig : sourceName area ≠ "config_path")
    (hkeys : ∀ entry ∈ sources.arguments, ∀ own, entry.2 = .object own → (own.map Prod.fst).Nodup)
    (hmerged : ∀ v, (sources.merged environment).get? (sourceName area) = some v →
      ∃ own, v = .object own) : IsSection (argument? sources.arguments area) := by
  intro v hv
  have hget := get?_mergeFields (nodup_argumentFields sources.arguments)
    (mergeFields (underSourceNames sources.document) environment) (sourceName area)
  rw [get?_argumentFields _ harea hconfig, hv, Option.map_some, Option.some_or] at hget
  obtain ⟨own, hown⟩ := hmerged _ hget
  obtain ⟨key, hkey⟩ := mem_of_argument? hv
  cases v
  case object fields => exact ⟨fields, rfl, hkeys _ hkey fields rfl⟩
  all_goals contradiction

end Merged

section First

variable {sources : Sources} {environment : Fields} {baseDir : Checked Path}
  {config : Option Path} {s : Settings}

theorem MadeOf.fieldsFromFirst (h : MadeOf baseDir config (sources.merged environment) s)
    (henv : environmentFields sources.environment = .ok environment) :
    FieldsFromFirst sources s where
  image := h.image.of_orObject (orObject_merged henv (by decide)) asText_object
  volume := h.volume.of_orObject (orObject_merged henv (by decide)) asText_object
  docker := h.docker.of_orObject (orObject_merged henv (by decide)) asText_object
  jsonOutput := h.jsonOutput.of_orObject (orObject_merged henv (by decide)) asBool_object
  quiet := h.quiet.of_orObject (orObject_merged henv (by decide)) asBool_object
  verbose := h.verbose.of_orObject (orObject_merged henv (by decide)) asBool_object
  logJson := h.logJson.of_orObject (orObject_merged henv (by decide)) asBool_object
  dryRun := h.dryRun.of_orObject (orObject_merged henv (by decide)) asBool_object

/-- The keys of a section in the merged fields come from the first source that gives them. -/
theorem orObject_keys (henv : environmentFields sources.environment = .ok environment)
    {area : String} {known lists : List String} (harea : sources.environment.HoldsObject area)
    (hsource : sourceName area ∈ fieldNames) (hconfig : sourceName area ≠ "config_path")
    (hsection : sources.environment.folded.section? area known lists =
      .ok (environment.get? (sourceName area)))
    (hobject : ∀ v, (sources.merged environment).get? (sourceName area) = some v →
      ∃ own, v = .object own)
    (hkeys : ∀ entry ∈ sources.arguments, ∀ own, entry.2 = .object own → (own.map Prod.fst).Nodup)
    (hknown : Distinguished known) {key : String} (hmem : key ∈ known) (hkey : IsKey lists key) :
    OrObject (sources.key? area lists key)
      (within ((sources.merged environment).get? (sourceName area)) key) := by
  obtain ⟨hfound, horObject⟩ := section?_ok harea hsection
  exact orObject_merged_section henv hsource hconfig
    (isSection_argument hsource hconfig hkeys hobject) hfound (horObject hknown key hmem hkey)

theorem MadeOf.keysFromFirst (h : MadeOf baseDir config (sources.merged environment) s)
    (henv : environmentFields sources.environment = .ok environment)
    (hlayout : sources.environment.HoldsObject "layout")
    (hrunner : sources.environment.HoldsObject "runner")
    (hkeys : ∀ entry ∈ sources.arguments, ∀ own, entry.2 = .object own → (own.map Prod.fst).Nodup) :
    KeysFromFirst sources s := by
  obtain ⟨hlayoutSection, hrunnerSection⟩ := get?_environmentFields_section henv
  obtain ⟨hlayoutObject, layout, hlayoutMade, hlayoutOwn⟩ :=
    h.layout.section LayoutSection.ofFields_nil
  obtain ⟨hrunnerObject, runner, hrunnerMade, hrunnerOwn⟩ :=
    h.runner.section RunnerSection.ofFields_nil
  obtain ⟨target, readonly, targetSubdir⟩ := LayoutSection.ofFields_eq_valid.mp hlayoutMade
  obtain ⟨command, name⟩ := RunnerSection.ofFields_eq_valid.mp hrunnerMade
  rw [hlayoutOwn] at target readonly targetSubdir
  rw [hrunnerOwn] at command name
  have hkeysOfLayout : ∀ key ∈ LayoutSection.fieldNames, IsKey ["readonly"] key := by decide +kernel
  have hkeysOfRunner : ∀ key ∈ RunnerSection.fieldNames, IsKey [] key := by decide +kernel
  have ofLayout {key : String} (hkey : key ∈ LayoutSection.fieldNames) :
      OrObject (sources.key? "layout" ["readonly"] key)
        (within ((sources.merged environment).get? "layout") key) :=
    orObject_keys henv hlayout (by decide) (by decide) hlayoutSection hlayoutObject hkeys
      (by decide +kernel) hkey (hkeysOfLayout key hkey)
  have ofRunner {key : String} (hkey : key ∈ RunnerSection.fieldNames) :
      OrObject (sources.key? "runner" [] key)
        (within ((sources.merged environment).get? "runner") key) :=
    orObject_keys henv hrunner (by decide) (by decide) hrunnerSection hrunnerObject hkeys
      (by decide +kernel) hkey (hkeysOfRunner key hkey)
  exact {
    target := target.of_orObject (ofLayout (by decide)) asRelativeName_object
    readonly := readonly.of_orObject (ofLayout (by decide)) asTexts_object
    targetSubdir := targetSubdir.of_orObject (ofLayout (by decide)) asRelativeName_object
    command := command.of_orObject (ofRunner (by decide)) asText_object
    name := name.of_orObject (ofRunner (by decide)) asText_object }

end First

section Assembled

variable {v : View} {env : Environment} {request : SettingsRequest} {s : Settings}

/-- Each field and each key of a section has the value, once checked, of the first source that gives
it. -/
theorem assemble_fromFirst (h : assemble v env request = .ok s) (hlayout : env.HoldsObject "layout")
    (hrunner : env.HoldsObject "runner")
    (hkeys : ∀ entry ∈ request.arguments, ∀ own, entry.2 = .object own → (own.map Prod.fst).Nodup) :
    ∃ config document, chooseConfig v env request = .ok config ∧
      readDocument? v config = .ok document ∧
      FieldsFromFirst (request.sources env document) s ∧
      KeysFromFirst (request.sources env document) s := by
  obtain ⟨config, _, document, _, _, gathered, -, made⟩ := assemble_eq_ok.mp h
  exact ⟨config, document, gathered.configChosen, gathered.documentRead,
    made.fieldsFromFirst gathered.environmentRead,
    made.keysFromFirst gathered.environmentRead hlayout hrunner fun entry hentry =>
      hkeys entry (List.mem_filter.mp hentry).1⟩

/-- A working directory with a document in it. -/
def documentView : View :=
  let document := "image = 'low'\nBUILDER_IMAGE = 'own'\nvolume = 'own'\n" ++
    "[layout]\ntarget = 'low'\nreadonly = ['own']\n"
  ⟨⟨[(["reth-build.toml"], .file document.toUTF8.toList)]⟩, some []⟩

/-- A section as an object, and one of its keys by itself. -/
def keyVariables : Environment :=
  [("RETH_BUILD_LAYOUT", "\x7b\"target\": \"mid\", \"target_subdir\": \"mid\"\x7d"),
    ("RETH_BUILD_LAYOUT__TARGET", "top"), ("TARGET_DIR_VOLUME", "")]

def dockerRequest : SettingsRequest := ⟨none, none, [("docker", .text "podman"), ("quiet", .null)]⟩

theorem assemble_fromFirst_mixed :
    keyVariables.HoldsObject "layout" ∧ keyVariables.HoldsObject "runner" ∧
    ∃ s, assemble documentView keyVariables dockerRequest = .ok s ∧
      (s.image, s.volume, s.docker) = ("own", "own", "podman") ∧
      (s.layout.target, s.layout.readonly, s.layout.targetSubdir) = ("top", ["own"], "mid") ∧
      ∃ config document, chooseConfig documentView keyVariables dockerRequest = .ok config ∧
        readDocument? documentView config = .ok document ∧
        FieldsFromFirst (dockerRequest.sources keyVariables document) s ∧
        KeysFromFirst (dockerRequest.sources keyVariables document) s := by
  have hlayout : keyVariables.HoldsObject "layout" := by decide +kernel
  have hrunner : keyVariables.HoldsObject "runner" := by decide +kernel
  have hsome : (assemble documentView keyVariables dockerRequest).toOption.map (fun s =>
      ((s.image, s.volume, s.docker), s.layout.target, s.layout.readonly, s.layout.targetSubdir)) =
      some (("own", "own", "podman"), "top", ["own"], "mid") := by
    decide +kernel
  refine ⟨hlayout, hrunner, ?_⟩
  cases hs : assemble documentView keyVariables dockerRequest with
  | error f => simp [hs, Except.toOption] at hsome
  | ok s =>
    rw [hs] at hsome
    obtain ⟨hfields, hkeys⟩ := Prod.mk.inj (Option.some.inj hsome)
    exact ⟨s, rfl, hfields, hkeys,
      assemble_fromFirst hs hlayout hrunner (by simp [dockerRequest])⟩

/-- Where a section is null, the variables of its keys count for nothing. -/
def nullSection : Environment :=
  [("RETH_BUILD_LAYOUT", "null"), ("RETH_BUILD_LAYOUT__TARGET", "own")]

/-- A key that stands in the object of its section in two spellings. -/
def spelledTwice : Environment :=
  [("RETH_BUILD_LAYOUT", "\x7b\"target\": \"first\", \"TARGET\": \"last\"\x7d"),
    ("RETH_BUILD_LAYOUT__TARGET", "own")]

/-- Neither the variable of a key nor the last argument for a field has the last word always. -/
theorem assemble_hidden :
    (nullSection.HoldsObject "layout" ∧
      nullSection.value? (keyVariable "layout" "target") = some "own" ∧
      (assemble ⟨⟨[]⟩, some []⟩ nullSection ⟨none, none, []⟩).toOption.map (·.layout.target) =
        some "reth") ∧
    (spelledTwice.HoldsObject "layout" ∧
      spelledTwice.value? (keyVariable "layout" "target") = some "own" ∧
      (assemble ⟨⟨[]⟩, some []⟩ spelledTwice ⟨none, none, []⟩).toOption.map (·.layout.target) =
        some "last") ∧
    (assemble ⟨⟨[]⟩, some []⟩ []
      ⟨none, none, [("QUIET", .text "yes"), ("quiet", .text "no")]⟩).toOption.map (·.quiet) =
      some true := by
  decide +kernel

end Assembled

end Settings
end BuildLauncher
