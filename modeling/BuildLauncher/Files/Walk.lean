import BuildLauncher.Files.Tree

/-!
# Walking the tree

The system follows a text name by name. Links on the way are replaced by their targets; a pair of
points leads to the directory that really contains the one before it.
-/
namespace BuildLauncher.Files

/-- The most links that one walk follows. -/
def linkLimit : Nat := 40

/-- The most octets of a name, and the least of a text that is refused as a whole. -/
def nameLimit : Nat := 255
def textLimit : Nat := 4096

def isRooted (text : String) : Bool := text.toList.head? = some '/'

/-- The names of a text as a walk takes them; a slash at the end asks for a directory. -/
def steps (s : List Char) : List String :=
  let names := (Path.parts s).filter (· ≠ "")
  if s.getLast? = some '/' && !names.isEmpty then names ++ ["."] else names

/-- Where a walk ends: at a node, or at a place in a directory that has no node yet. -/
inductive Place
  | node (location : Location) (node : Node)
  | vacant (location : Location)
deriving DecidableEq, Repr

/-- Where a walk pauses: at its end, or before a link with the target's text and the names left. -/
inductive Pause
  | done (place : Place)
  | link (directory : Location) (target : String) (rest : List String)
deriving DecidableEq, Repr

/-- The walk from a directory up to its next link. A link at the end counts only with `follow`. -/
def advance (t : Tree) (follow : Bool) (location : Location) : List String → Except Fault Pause
  | [] => .ok (.done (.node location .directory))
  | name :: rest =>
    if name = "." then advance t follow location rest
    else if name = ".." then advance t follow location.dropLast rest
    else if nameLimit < name.utf8ByteSize then .error .nameTooLong
    else
      let next := location ++ [name]
      match t.get? next with
      | none => if rest = [] then .ok (.done (.vacant next)) else .error .notFound
      | some .directory => advance t follow next rest
      | some (.link target) =>
        if rest = [] && !follow then .ok (.done (.node next (.link target)))
        else .ok (.link location target rest)
      | some node => if rest = [] then .ok (.done (.node next node)) else .error .notDirectory

/-- The walk from a directory over at most `links` links. -/
def walk (t : Tree) (follow : Bool) (links : Nat) (location : Location) (names : List String) :
    Except Fault Place :=
  match advance t follow location names with
  | .error fault => .error fault
  | .ok (.done place) => .ok place
  | .ok (.link directory target rest) =>
    match links with
    | 0 => .error .tooManyLinks
    | links + 1 =>
      let start := if isRooted target then [] else directory
      walk t follow links start (steps target.toList ++ rest)

/-- A tree seen from a working directory. One that was removed leads nowhere. -/
structure View where
  tree : Tree
  workingDir : Option Location
deriving DecidableEq, Repr

namespace View

/-- Where a text leads. -/
def find (v : View) (follow : Bool) (text : String) : Except Fault Place :=
  if textLimit ≤ text.utf8ByteSize then .error .nameTooLong
  else if text = "" then .error .notFound
  else if isRooted text then walk v.tree follow linkLimit [] (steps text.toList)
  else
    match v.workingDir with
    | none => .error .notFound
    | some directory => walk v.tree follow linkLimit directory (steps text.toList)

/-- The node that a text leads to, with the place where it really is. -/
def node? (v : View) (text : String) : Except Fault (Location × Node) :=
  match v.find true text with
  | .ok (.node location node) => .ok (location, node)
  | .ok (.vacant _) => .error .notFound
  | .error fault => .error fault

def hasNul (text : String) : Bool := text.toList.contains (Char.ofNat 0)

/-- Is a path's node of one kind? A path that leads nowhere has no node; a name that is too long for
any node is an error. -/
def test (v : View) (kind : Node → Bool) (path : Path) : Except Error Bool :=
  if hasNul path.text then .ok false
  else
    match v.node? path.text with
    | .ok (_, node) => .ok (kind node)
    | .error .nameTooLong => .error (.refused .nameTooLong (.named path.text))
    | .error _ => .ok false

def isFile (v : View) (path : Path) : Except Error Bool := v.test Node.isFile path
def isDirectory (v : View) (path : Path) : Except Error Bool := v.test Node.isDirectory path

/-- The working directory as a path. -/
def currentPath (v : View) : Except Error Path :=
  match v.workingDir with
  | none => .error (.refused .notFound .nothing)
  | some location => .ok (Path.ofText ("/" ++ "/".intercalate location))

end View
end BuildLauncher.Files
