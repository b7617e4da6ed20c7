import BuildLauncher.Failure
import BuildLauncher.Settings.Merge
import BuildLauncher.Settings.Sections
import BuildLauncher.Text.LowerCase
import BuildLauncher.Value.JsonReader

/-!
# Settings from the environment

Names of variables are taken without regard to case, and an empty variable counts as none. A section
is an object in JSON; single keys of it have variables of their own, which win over the object.
-/
namespace BuildLauncher

/-- The variables of a process in their order. -/
abbrev Environment := List (String × String)

namespace Environment

def get? (env : Environment) (name : String) : Option String := env.lookup name

/-- The value of a variable of exactly this name, unless it is empty. -/
def nonEmpty? (env : Environment) (name : String) : Option String :=
  (env.get? name).filter (· ≠ "")

/-- The variables that are not empty, under their names in lower case. -/
def folded (env : Environment) : Environment :=
  let pairs := (env.filter (·.2 ≠ "")).map fun (name, value) => (Text.lower name, value)
  pairs.foldl set []
where
  /-- A later variable takes the place of an earlier one of the same name. -/
  set (env : Environment) (entry : String × String) : Environment :=
    if (env.lookup entry.1).isSome then
      env.map fun old => if old.1 = entry.1 then entry else old
    else env ++ [entry]

/-- What the names of variables for settings start with. -/
def variableStart : String := "reth_build_"

/-- The parts of a text between pairs of underscores. -/
def splitNested : List Char → List (List Char)
  | [] => [[]]
  | '_' :: '_' :: rest => [] :: splitNested rest
  | c :: rest =>
    match splitNested rest with
    | [] => [[c]]
    | part :: parts => (c :: part) :: parts

/-- The names in a section that a variable spells, if it is one of the section's. -/
def namesIn? (area : String) (name : String) : Option (List String) :=
  let start := (variableStart ++ area ++ "__").toList
  if start.isPrefixOf name.toList then
    some ((splitNested (name.toList.drop start.length)).map String.ofList)
  else none

/-- Sets one key of a section. A key of `lists` is written in JSON. -/
def setNested (lists : List String) (fields : Fields) (names : List String) (text : String) :
    Option Fields :=
  match names.getLast? with
  | none => some fields
  | some last =>
    let inJson := names.length = 1 && (lists.any fun l => last = l || last = variableStart ++ l)
    let value := if inJson then Json.read? text else some (.text text)
    value.map (setBelow fields names.dropLast last)

/-- The fields of a section after one more variable. Variables of other names leave them alone. -/
def setVariable (area : String) (lists : List String) (fields : Fields)
    (entry : String × String) : Option Fields :=
  match namesIn? area entry.1 with
  | some names => setNested lists fields names entry.2
  | none => some fields

/-- All keys of a section that have variables of their own. -/
def nested (env : Environment) (area : String) (lists : List String) : Option Fields :=
  env.foldlM (setVariable area lists) []

/-- Keys that differ from a known one in the case of letters only stand for it. -/
def knownNames (known : List String) (fields : Fields) : Fields :=
  Fields.ofPairs (fields.map fun (name, value) =>
    ((known.find? (Text.lower · = Text.lower name)).getD name, value))

def nameKeys (known : List String) : Value → Value
  | .object fields => .object (knownNames known fields)
  | v => v

/-- A section as the folded environment gives it. -/
def section? (env : Environment) (name : String) (known lists : List String) :
    Except Failure (Option Value) :=
  let failure := Failure.unreadableVariable name
  let read? : Option (Option Value) :=
    match env.get? (variableStart ++ name) with
    | none => (nested env name lists).map fun fields =>
      if fields.isEmpty then none else some (.object fields)
    | some text =>
      match Json.read? text with
      | none => none
      | some .null => some none
      | some (.object fields) =>
        (nested env name lists).map fun own => some (.object (mergeFields fields own))
      | some value => some (some value)
  match read? with
  | none => .error failure
  | some value => .ok (value.map (nameKeys known))

end Environment
end BuildLauncher
