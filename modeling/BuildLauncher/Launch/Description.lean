import BuildLauncher.Files.Changes
import BuildLauncher.Launch.Host
import BuildLauncher.Number.Digits
import BuildLauncher.Text.Utf8

/-!
# Described hosts

A host can be given as data: nodes that are put in place one after the other, the environment, the
working directory and the readings of the clock. What a description leaves out is empty, and what it
gives in the wrong form counts as left out.
-/
namespace BuildLauncher

open Files

namespace Fields

def textAt (fields : Fields) (name : String) : String :=
  match fields.get? name with
  | some (.text s) => s
  | _ => ""

def intAt (fields : Fields) (name : String) : Int :=
  match fields.get? name with
  | some (.int n) => n
  | _ => 0

def objectAt (fields : Fields) (name : String) : Fields :=
  match fields.get? name with
  | some (.object inner) => inner
  | _ => []

def listAt (fields : Fields) (name : String) : List Value :=
  match fields.get? name with
  | some (.list items) => items
  | _ => []

def isTrueAt (fields : Fields) (name : String) : Bool := (fields.get? name).any Value.isTrue

end Fields

/-- The octets that pairs of hexadecimal digits stand for. -/
def octetsOfDigits : List Char → List UInt8
  | a :: b :: rest => (ofDigits 16 [a, b]).toUInt8 :: octetsOfDigits rest
  | _ => []

/-- A program that a signal or a status ends, named for where it was put. There is no signal zero.
-/
def Files.Program.ofDescription (name : String) (fields : Fields) : Program :=
  let signal := (fields.intAt "signal").natAbs
  let ending : Ending :=
    if h : 0 < signal then .killed signal h else .exits (fields.intAt "exit" % 256).toNat
  ⟨name, .runs ending (fields.isTrueAt "interrupt")⟩

/-- One change of the files: a node put at a path, or what stands there taken away. -/
def Files.View.applyDescription (v : View) : Value → View
  | .list (.text kind :: .text path :: rest) =>
    let put (node : Node) : View := { v with tree := v.tree.place (Path.ofText path) node }
    match kind, rest with
    | "dir", _ => put .directory
    | "file", [.text content] => put (.file (Text.encode content))
    | "bytes", [.text digits] => put (.file (octetsOfDigits digits.toList))
    | "link", [.text target] => put (.link target)
    | "exec", [.object fields] => put (.program (.ofDescription path fields))
    | "badexec", [.text why] =>
      put (.program ⟨path, .refused (if why = "format" then .badFormat else .notFound)⟩)
    | "rm", _ => v.remove (Path.ofText path)
    | _, _ => v
  | _ => v

def Tick.ofDescription : Value → Tick
  | .int n => .whole n
  | .float x => .real x
  | _ => .whole 0

/-- The variables of an environment, in order. -/
def Environment.ofDescription (fields : Fields) : Environment :=
  fields.filterMap fun
    | (name, .text value) => some (name, value)
    | _ => none

/-- The described host. The directory `home` is there in any case, and it is the working directory
where the description names none. -/
def Host.ofDescription (home : String) (fields : Fields) : Host :=
  let bare : View := ⟨Tree.empty.place (Path.ofText home) .directory, some []⟩
  let built := (fields.listAt "fs").foldl View.applyDescription bare
  let inside := built.enter home
  { view := if (fields.get? "cwd").isSome then inside.enter (fields.textAt "cwd") else inside
    environment := .ofDescription (fields.objectAt "env")
    clock := ⟨.real (.zero false), (fields.listAt "clock").map Tick.ofDescription⟩
    executions := []
    records := [] }

end BuildLauncher
