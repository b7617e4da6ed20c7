import BuildLauncher.Files.Path
import BuildLauncher.Settings.Sections
import BuildLauncher.Text.LowerCase

/-!
# Settings

All that one run of the launcher is told from outside.
-/
namespace BuildLauncher

structure Settings where
  /-- The directory with the Dockerfile and the caches. -/
  baseDir : Files.Path
  /-- The file that the settings were read from. -/
  configPath : Option Files.Path
  image : String
  volume : String
  docker : String
  jsonOutput : Bool
  quiet : Bool
  verbose : Bool
  logJson : Bool
  dryRun : Bool
  layout : LayoutSection
  runner : RunnerSection
deriving DecidableEq

namespace Settings

def toFields (s : Settings) : Fields := [
  ("base_dir", .text s.baseDir.text),
  ("config_path", (s.configPath.map fun p => Value.text p.text).getD .null),
  ("image", .text s.image), ("volume", .text s.volume), ("docker", .text s.docker),
  ("json_output", .bool s.jsonOutput), ("quiet", .bool s.quiet), ("verbose", .bool s.verbose),
  ("log_json", .bool s.logJson), ("dry_run", .bool s.dryRun),
  ("layout", .object s.layout.toFields), ("runner", .object s.runner.toFields)]

/-- The name under which sources give a field. Three of them go by the names that the builder image
has always known. -/
def sourceName (name : String) : String :=
  if name = "image" then "BUILDER_IMAGE"
  else if name = "volume" then "TARGET_DIR_VOLUME"
  else if name = "docker" then "DOCKER"
  else name

/-- The fields of a source under the names that all sources share. -/
def underSourceNames (fields : Fields) : Fields :=
  Fields.ofPairs (fields.map fun (name, value) => (sourceName name, value))

def fieldNames : List String := [
  "base_dir", "config_path", "BUILDER_IMAGE", "TARGET_DIR_VOLUME", "DOCKER", "json_output", "quiet",
  "verbose", "log_json", "dry_run", "layout", "runner"]

/-- The name of the field that an argument means. Upper and lower case make no difference. -/
def argumentName (name : String) : String :=
  (fieldNames.find? fun field => Text.lower field = Text.lower name).getD name

/-- Fields under their proper names. Of several for one name the first one counts. -/
def properFields : Fields → Fields
  | [] => []
  | (name, value) :: rest =>
    let name := argumentName name
    (name, value) :: (properFields rest).filter (·.1 ≠ name)

end Settings
end BuildLauncher
