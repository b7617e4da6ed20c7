import BuildLauncher.CommandLine.Resemblance
import BuildLauncher.Text.Quoted

/-!
# Options

Arguments are read from left to right. An option is a flag or takes a value, which is attached to it
or is the next argument. Two hyphens end the options.
-/
namespace BuildLauncher.CommandLine

/-- An option of a command. `eager` ones are looked at before all others. -/
structure OptionSpec where
  long : String
  short : Option Char
  metavar : Option String
  help : String
  eager : Bool
deriving DecidableEq, Repr

/-- What a user has got wrong. -/
inductive UsageFault
  | noSuchOption (name : String) (alike : List String)
  | needsValue (name : String)
  | takesNoValue (name : String)
  | noSuchCommand (name : String) (alike : List String)
  | surplus (arguments : List String)
deriving DecidableEq, Repr

namespace UsageFault

def suggestion : List String → String
  | [] => ""
  | [name] => " Did you mean " ++ Text.quoted name ++ "?"
  | names => " (Did you mean one of: " ++ ", ".intercalate (names.map Text.quoted) ++ "?)"

def message : UsageFault → String
  | .noSuchOption name alike => "No such option " ++ Text.quoted name ++ "." ++ suggestion alike
  | .needsValue name => "Option " ++ Text.quoted name ++ " requires an argument."
  | .takesNoValue name => "Option " ++ Text.quoted name ++ " does not take a value."
  | .noSuchCommand name alike => "No such command " ++ Text.quoted name ++ "." ++ suggestion alike
  | .surplus arguments =>
    "Got unexpected extra argument" ++ (if arguments.length = 1 then "" else "s") ++ " (" ++
      " ".intercalate arguments ++ ")"

/-- Is the usage of the command shown with the fault? A fault in the form of one option speaks for
itself. -/
def showsUsage : UsageFault → Bool
  | .needsValue _ | .takesNoValue _ => false
  | _ => true

end UsageFault

/-- An option as it was given. -/
structure Given where
  name : String
  value : Option String
deriving DecidableEq, Repr

/-- What one argument gives, and the option that is still to get its value, under the name by which
it was called. -/
structure Step where
  given : List Given
  open? : Option (String × String)
deriving DecidableEq, Repr

def takesValue (o : OptionSpec) : Bool := o.metavar.isSome

/-- The options of one hyphen. What follows an option with a value is the value. -/
def readShorts (options : List OptionSpec) : List Char → Except UsageFault Step
  | [] => .ok ⟨[], none⟩
  | c :: rest =>
    let name := String.ofList ['-', c]
    match options.find? (·.short = some c) with
    | none => .error (.noSuchOption name [])
    | some o =>
      if takesValue o then
        if rest.isEmpty then .ok ⟨[], some (o.long, name)⟩
        else .ok ⟨[⟨o.long, some (String.ofList rest)⟩], none⟩
      else
        (readShorts options rest).map fun step =>
          { step with given := ⟨o.long, none⟩ :: step.given }

/-- The value that is attached to an option after an equals sign. -/
def attached? (s : List Char) : Option String :=
  match s.dropWhile (· ≠ '=') with
  | [] => none
  | _ :: value => some (String.ofList value)

/-- One argument that starts with a hyphen. -/
def readOption (options : List OptionSpec) (argument : String) : Except UsageFault Step :=
  let s := argument.toList
  let name := String.ofList (s.takeWhile (· ≠ '='))
  match options.find? (·.long = name) with
  | some o =>
    match takesValue o, attached? s with
    | true, some value => .ok ⟨[⟨o.long, some value⟩], none⟩
    | true, none => .ok ⟨[], some (o.long, name)⟩
    | false, none => .ok ⟨[⟨o.long, none⟩], none⟩
    | false, some _ => .error (.takesNoValue name)
  | none =>
    if "--".toList.isPrefixOf s then
      .error (.noSuchOption name (suggestions name (options.map (·.long))))
    else readShorts options s.tail

/-- Arguments in two parts: the options, and what is left. -/
structure Arguments where
  given : List Given
  rest : List String
deriving DecidableEq, Repr

def isOption (argument : String) : Bool :=
  argument.toList.head? = some '-' && argument ≠ "-"

/-- Reads arguments. With `mixed`, options may follow other arguments; otherwise the first argument
that is no option ends them. -/
def readArguments (options : List OptionSpec) (mixed : Bool) :
    List String → Except UsageFault Arguments
  | [] => .ok ⟨[], []⟩
  | argument :: rest =>
    if argument = "--" then .ok ⟨[], rest⟩
    else if isOption argument then
      match readOption options argument with
      | .error fault => .error fault
      | .ok ⟨given, none⟩ =>
        (readArguments options mixed rest).map fun a => { a with given := given ++ a.given }
      | .ok ⟨given, some (long, name)⟩ =>
        match rest with
        | [] => .error (.needsValue name)
        | value :: rest =>
          (readArguments options mixed rest).map fun a =>
            { a with given := given ++ ⟨long, some value⟩ :: a.given }
    else if mixed then
      (readArguments options mixed rest).map fun a => { a with rest := argument :: a.rest }
    else .ok ⟨[], argument :: rest⟩

namespace Arguments

def has (a : Arguments) (name : String) : Bool := a.given.any (·.name = name)

/-- The value of an option; of several the last one counts. -/
def valueOf (a : Arguments) (name : String) : Option String :=
  (a.given.reverse.find? (·.name = name)).bind Given.value

/-- The first eager option that was given. -/
def eager? (a : Arguments) (options : List OptionSpec) : Option String :=
  (a.given.find? fun g => options.any fun o => o.eager && o.long = g.name).map Given.name

end Arguments
end BuildLauncher.CommandLine
