import BuildLauncher.Proofs.Checking.Validity
import BuildLauncher.Proofs.Settings.Sources

/-!
# Assembling

Settings are assembled in steps: what the sources give is gathered first, then the launcher directory
is looked at, and then all is checked as one.
-/
namespace BuildLauncher

open Checking Files Environment

namespace Settings

/-- What settings are made of: arguments that have a value, the environment, and a document. -/
structure Sources where
  arguments : Fields
  environment : Environment
  document : Fields

/-- The fields of all sources, merged. -/
def Sources.merged (sources : Sources) (environment : Fields) : Fields :=
  mergeFields (mergeFields (underSourceNames sources.document) environment)
    (argumentFields sources.arguments)

/-- The merge of the fields of all sources. -/
def Sources.merge (sources : Sources) (environment : Fields) : Descent :=
  .merge [underSourceNames sources.document, environment, argumentFields sources.arguments]

end Settings

/-- The sources of the settings for a request. -/
def SettingsRequest.sources (r : SettingsRequest) (env : Environment) (document : Fields) :
    Settings.Sources := ⟨r.given, env, document⟩

namespace Settings

section Valid

variable {baseDir : Checked Path} {config : Option Path} {merged : Fields} {s : Settings}

/-- Valid settings are valid in each of their parts. -/
structure MadeOf (baseDir : Checked Path) (config : Option Path) (merged : Fields)
    (s : Settings) : Prop where
  baseDir : baseDir = .valid s.baseDir
  configPath : s.configPath = config
  image : Gives asText "build-reth:dev" (merged.get? (sourceName "image")) s.image
  volume : Gives asText "build-reth_target_dir" (merged.get? (sourceName "volume")) s.volume
  docker : Gives asText "docker" (merged.get? (sourceName "docker")) s.docker
  jsonOutput : Gives asBool false (merged.get? "json_output") s.jsonOutput
  quiet : Gives asBool false (merged.get? "quiet") s.quiet
  verbose : Gives asBool false (merged.get? "verbose") s.verbose
  logJson : Gives asBool false (merged.get? "log_json") s.logJson
  dryRun : Gives asBool false (merged.get? "dry_run") s.dryRun
  layout : Gives LayoutSection.ofValue LayoutSection.default (merged.get? "layout") s.layout
  runner : Gives RunnerSection.ofValue RunnerSection.default (merged.get? "runner") s.runner
  surplus : surplus merged = .valid ()

theorem ofFields_eq_valid :
    ofFields baseDir config merged = .valid s ↔ MadeOf baseDir config merged s := by
  simp only [ofFields, seqLeft_eq_valid, seq_eq_valid, map_eq_valid, field_eq_valid]
  constructor
  · rintro ⟨⟨_, ⟨_, ⟨_, ⟨_, ⟨_, ⟨_, ⟨_, ⟨_, ⟨_, ⟨_, ⟨_, ⟨_, baseDir, rfl⟩, _, configPath, rfl⟩, _, image,
      rfl⟩, _, volume, rfl⟩, _, docker, rfl⟩, _, jsonOutput, rfl⟩, _, quiet, rfl⟩, _, verbose, rfl⟩,
      _, logJson, rfl⟩, _, dryRun, rfl⟩, _, layout, rfl⟩, _, runner, rfl⟩, _, surplus⟩
    obtain rfl := Checked.valid.inj configPath
    exact { baseDir, configPath := rfl, image, volume, docker, jsonOutput, quiet, verbose, logJson,
            dryRun, layout, runner, surplus }
  · intro h
    exact ⟨⟨_, ⟨_, ⟨_, ⟨_, ⟨_, ⟨_, ⟨_, ⟨_, ⟨_, ⟨_, ⟨_, ⟨_, h.baseDir, rfl⟩, _,
      congrArg _ h.configPath.symm, rfl⟩, _, h.image, rfl⟩, _, h.volume, rfl⟩, _, h.docker, rfl⟩, _,
      h.jsonOutput, rfl⟩, _, h.quiet, rfl⟩, _, h.verbose, rfl⟩, _, h.logJson, rfl⟩, _, h.dryRun,
      rfl⟩, _, h.layout, rfl⟩, _, h.runner, rfl⟩, (), h.surplus⟩

theorem surplus_eq_valid :
    surplus merged = .valid () ↔ ∀ name, name ∉ fieldNames → merged.get? name = none := by
  have hnil : surplus merged = .valid () ↔ merged.filter (!fieldNames.contains ·.1) = [] := by
    unfold surplus
    split
    · rename_i heq
      exact iff_of_true rfl heq
    · rename_i hne
      exact ⟨nofun, fun heq => absurd heq hne⟩
  simp only [hnil, List.filter_eq_nil_iff, Fields.get?_eq_none_iff, List.mem_map]
  constructor
  · rintro h _ hname ⟨entry, hentry, rfl⟩
    simpa [hname] using h entry hentry
  · intro h entry hentry hcontains
    exact h entry.1 (by simpa using hcontains) ⟨entry, hentry, rfl⟩

/-- The launcher directory depends on two fields only. -/
theorem baseDirOf_congr [Platform] {v : View} {env : Environment} {arguments others mergedOthers : Fields}
    {chosen : Option Path} (harguments : arguments.get? "base_dir" = others.get? "base_dir")
    (hmerged : merged.get? "base_dir" = mergedOthers.get? "base_dir") :
    baseDirOf v env arguments chosen merged = baseDirOf v env others chosen mergedOthers := by
  simp only [baseDirOf, harguments, hmerged]

end Valid

section Gathering

variable [Platform] {v : View} {env : Environment} {request : SettingsRequest} {s : Settings}

/-- A file with settings and a launcher directory are chosen, or that there are none. -/
structure Chosen (v : View) (env : Environment) (request : SettingsRequest)
    (config chosen : Option Path) : Prop where
  searched : follow (.search v env request.configPath request.baseDir) = .ok ()
  configChosen : chooseConfig v env request = .ok config
  directoryChosen : chooseBaseDir v env request config = .ok chosen

/-- What is known before the launcher directory is looked at. -/
structure Gathered (v : View) (env : Environment) (request : SettingsRequest)
    (config chosen : Option Path) (document environment : Fields) : Prop
    extends Chosen v env request config chosen where
  documentRead : readDocument? v config = .ok document
  environmentRead : environmentFields env = .ok environment
  followed : follow ((request.sources env document).merge environment) = .ok ()

/-- Issues with settings are a failure. -/
def settle : Checked Settings → Except Failure Settings
  | .valid s => .ok s
  | .invalid issues => .error (.invalidSettings issues)

/-- With the choices made, document and environment are read, the launcher directory is looked at,
and all is checked. -/
theorem assemble_eq_of_chosen {config chosen : Option Path} (h : Chosen v env request config chosen) :
    assemble v env request =
      readDocument? v config >>= fun document => environmentFields env >>= fun environment =>
        follow ((request.sources env document).merge environment) >>= fun _ =>
          baseDirOf v env (argumentFields request.given) chosen
            ((request.sources env document).merged environment) >>= fun baseDir =>
              settle (ofFields baseDir config ((request.sources env document).merged environment)) := by
  simp only [assemble, h.searched, h.configChosen, h.directoryChosen, mapError_ok, ok_bind,
    readConfig?]
  cases readDocument? v config with
  | error f => rfl
  | ok document =>
    simp only [map_ok, ok_bind]
    refine bind_congr fun environment => ?_
    unfold settle Sources.merged Sources.merge argumentFields
    rfl

theorem Gathered.assemble_eq {config chosen : Option Path} {document environment : Fields}
    (h : Gathered v env request config chosen document environment) :
    assemble v env request =
      baseDirOf v env (argumentFields request.given) chosen
        ((request.sources env document).merged environment) >>= fun baseDir =>
          settle (ofFields baseDir config ((request.sources env document).merged environment)) := by
  rw [assemble_eq_of_chosen h.toChosen, h.documentRead, ok_bind,
    h.environmentRead, ok_bind, h.followed, ok_bind]

/-- Settings are assembled from what has been gathered, if the launcher directory can be looked at
and all parts are valid. -/
theorem assemble_eq_ok :
    assemble v env request = .ok s ↔ ∃ config chosen document environment baseDir,
      Gathered v env request config chosen document environment ∧
      baseDirOf v env (argumentFields request.given) chosen
        ((request.sources env document).merged environment) = .ok baseDir ∧
      MadeOf baseDir config ((request.sources env document).merged environment) s := by
  constructor
  · intro h
    obtain ⟨⟨⟩, hsearched, hrest⟩ := bind_eq_ok h
    obtain ⟨config, hconfig, hrest⟩ := bind_eq_ok hrest
    obtain ⟨chosen, hchosen, hrest⟩ := bind_eq_ok hrest
    obtain ⟨fields, hfields, hrest⟩ := bind_eq_ok hrest
    obtain ⟨environment, henv, hrest⟩ := bind_eq_ok hrest
    obtain ⟨⟨⟩, hfollowed, -⟩ := bind_eq_ok hrest
    obtain ⟨document, hdocument, rfl⟩ := map_eq_ok hfields
    have gathered : Gathered v env request config chosen document environment :=
      ⟨⟨hsearched, mapError_eq_ok hconfig, mapError_eq_ok hchosen⟩, hdocument, henv, hfollowed⟩
    rw [gathered.assemble_eq] at h
    obtain ⟨baseDir, hbaseDir, h⟩ := bind_eq_ok h
    refine ⟨config, chosen, document, environment, baseDir, gathered, hbaseDir,
      ofFields_eq_valid.mp ?_⟩
    unfold settle at h
    split at h
    · rename_i made hmade
      exact Except.ok.inj h ▸ hmade
    · contradiction
  · rintro ⟨config, chosen, document, environment, baseDir, gathered, hbaseDir, made⟩
    rw [gathered.assemble_eq, hbaseDir, ok_bind, ofFields_eq_valid.mpr made]
    rfl

end Gathering

section Choosing

variable {v w : View} {env other : Environment} {request asked : SettingsRequest}

/-- Where two requests make the same choices, it is enough to compare what comes of them. -/
theorem assemble_congr (hconfig : chooseConfig v env request = chooseConfig w other asked)
    (hdirectory : ∀ config, chooseConfig v env request = .ok config →
      chooseBaseDir v env request config = chooseBaseDir w other asked config)
    (hmade : ∀ config chosen, Chosen v env request config chosen →
      Chosen w other asked config chosen → assemble v env request = assemble w other asked) :
    assemble v env request = assemble w other asked := by
  cases hchoice : chooseConfig v env request with
  | error e =>
    simp only [assemble, follow_standard, ok_bind, ← hconfig, hchoice, mapError_error, error_bind]
  | ok config =>
    have hsame := hdirectory config hchoice
    cases hchosen : chooseBaseDir v env request config with
    | error e =>
      simp only [assemble, follow_standard, ← hconfig, hchoice, ← hsame, hchosen, mapError_ok,
        ok_bind, mapError_error, error_bind]
    | ok chosen =>
      exact hmade config chosen ⟨rfl, hchoice, hchosen⟩ ⟨rfl, hconfig ▸ hchoice, hsame ▸ hchosen⟩

end Choosing

end Settings
end BuildLauncher
