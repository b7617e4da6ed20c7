import BuildLauncher.Value.Shown

/-!
# Issues with an input

An input that a model refuses has one issue for each of its faults. An issue knows the place of the
fault, its kind, and the part of the input that is at fault.
-/
namespace BuildLauncher.Checking

/-- One step of the way to a part of an input. -/
inductive Step
  | name (name : String)
  | item (index : Nat)
deriving DecidableEq, Repr

/-- A name that holds a point is marked off, since points stand between the steps of a place. -/
def Step.text : Step → String
  | .name n => if n.toList.contains '.' then "\x60" ++ n ++ "\x60" else n
  | .item n => toString n

inductive Problem
  | missing
  | surplus
  | notText
  | notPath
  | notBool
  | unreadableBool
  | notInteger
  | unreadableInteger
  | hugeInteger
  | fractionalInteger
  | notFinite
  | notList
  | notObject
  | notModel (model : String)
  | notOneOf (choices : List String)
  | refused (reason : String)
deriving DecidableEq, Repr

namespace Problem

def kind : Problem → String
  | .missing => "missing"
  | .surplus => "extra_forbidden"
  | .notText => "string_type"
  | .notPath => "path_type"
  | .notBool => "bool_type"
  | .unreadableBool => "bool_parsing"
  | .notInteger => "int_type"
  | .unreadableInteger => "int_parsing"
  | .hugeInteger => "int_parsing_size"
  | .fractionalInteger => "int_from_float"
  | .notFinite => "finite_number"
  | .notList => "list_type"
  | .notObject => "dict_type"
  | .notModel _ => "model_type"
  | .notOneOf _ => "literal_error"
  | .refused _ => "value_error"

def message : Problem → String
  | .missing => "Field required"
  | .surplus => "Extra inputs are not permitted"
  | .notText => "Input should be a valid string"
  | .notPath => "Input is not a valid path"
  | .notBool => "Input should be a valid boolean"
  | .unreadableBool => "Input should be a valid boolean, unable to interpret input"
  | .notInteger => "Input should be a valid integer"
  | .unreadableInteger =>
    "Input should be a valid integer, unable to parse string as an integer"
  | .hugeInteger => "Unable to parse input string as an integer, exceeded maximum size"
  | .fractionalInteger =>
    "Input should be a valid integer, got a number with a fractional part"
  | .notFinite => "Input should be a finite number"
  | .notList => "Input should be a valid list"
  | .notObject => "Input should be a valid dictionary"
  | .notModel model => "Input should be a valid dictionary or instance of " ++ model
  | .notOneOf choices => "Input should be " ++ " or ".intercalate (choices.map Text.quoted)
  | .refused reason => "Value error, " ++ reason

end Problem

/-- What an issue tells about the input at fault: its text and its kind. -/
structure Culprit where
  shown : String
  kind : String
deriving DecidableEq, Repr

/-- A value without a text is told by its kind alone. -/
def Culprit.ofValue (v : Value) : Culprit :=
  ⟨if v.hasText then v.shown else "<unprintable " ++ v.kind ++ " object>", v.kind⟩

structure Issue where
  place : List Step
  problem : Problem
  culprit : Culprit
deriving DecidableEq, Repr

/-- The most octets of a culprit's text that are shown in full. -/
def shownLimit : Nat := 50

/-- The beginning of a text, of at most `octets` octets. -/
def takeOctets (octets : Nat) : List Char → List Char
  | [] => []
  | c :: rest => if c.utf8Size ≤ octets then c :: takeOctets (octets - c.utf8Size) rest else []

/-- A long text keeps its beginning and its end, which is one octet shorter. -/
def shorten (s : String) : String :=
  if s.utf8ByteSize ≤ shownLimit then s
  else
    let half := (shownLimit + 1) / 2
    let before := takeOctets half s.toList
    let after := (takeOctets (shownLimit - half - 1) s.toList.reverse).reverse
    String.ofList before ++ "..." ++ String.ofList after

/-- Where the kinds of problems are explained. -/
def explanation (kind : String) : String := "https://errors.pydantic.dev/2.14/v/" ++ kind

def Issue.text (issue : Issue) : String :=
  ".".intercalate (issue.place.map Step.text) ++ "\n  " ++ issue.problem.message ++
    " [type=" ++ issue.problem.kind ++ ", input_value=" ++ shorten issue.culprit.shown ++
    ", input_type=" ++ issue.culprit.kind ++ "]\n    For further information visit " ++
    explanation issue.problem.kind

/-- All issues with the input of a model. -/
def summary (model : String) (issues : List Issue) : String :=
  toString issues.length ++ " validation error" ++ (if issues.length = 1 then "" else "s") ++
    " for " ++ model ++ String.join (issues.map fun issue => "\n" ++ issue.text)

end BuildLauncher.Checking
