import BuildLauncher.Files.Walk

/-!
# Changing the tree

Directories are created one by one, and what an attempt has created stays if the attempt fails.
Putting nodes in place is for building a tree: it makes room for what it puts.
-/
namespace BuildLauncher.Files

namespace View

/-- Creates one directory, whose parent has to be there. Whatever stands at its place stays. -/
def makeDirectory (v : View) (path : Path) : Except Fault View :=
  match v.find false path.text with
  | .error fault => .error fault
  | .ok (.node _ _) => .error .alreadyExists
  | .ok (.vacant location) => .ok { v with tree := v.tree.insert location .directory }

/-- An attempt at a directory, together with what the attempt has left behind. -/
abbrev Attempt := Except Error Unit × View

/-- A fault in creating a directory is none if a directory stands there. -/
def forgive (v : View) (fault : Fault) (path : Path) : Attempt :=
  match v.isDirectory path with
  | .error e => (.error e, v)
  | .ok true => (.ok (), v)
  | .ok false => (.error (.refused fault (.named path.text)), v)

/-- Creates a directory without its parents. -/
def ensureChild (v : View) (path : Path) : Attempt :=
  match v.makeDirectory path with
  | .ok v => (.ok (), v)
  | .error .notFound => (.error (.refused .notFound (.named path.text)), v)
  | .error fault => v.forgive fault path

/-- Creates a directory and the parents that it lacks, at most `depth` of them. -/
def ensureDirectoryFrom (v : View) (depth : Nat) (path : Path) : Attempt :=
  if hasNul path.text then (.error .nulCharacter, v)
  else
    match v.makeDirectory path with
    | .ok v => (.ok (), v)
    | .error .notFound =>
      match depth with
      | 0 => (.error (.refused .notFound (.named path.text)), v)
      | depth + 1 =>
        match v.ensureDirectoryFrom depth path.parent with
        | (.ok (), v) => v.ensureChild path
        | failed => failed
    | .error fault => v.forgive fault path

/-- Creates a directory and the parents that it lacks. A path has as many parents as names. -/
def ensureDirectory (v : View) (path : Path) : Attempt :=
  v.ensureDirectoryFrom path.names.length path

end View

namespace Tree

/-- The directory below `location` that the names lead to. What is missing is created, and what is
neither a directory nor leads to one gives way. -/
def openDirectory (t : Tree) (location : Location) : List String → Tree × Location
  | [] => (t, location)
  | name :: rest =>
    if name = ".." then t.openDirectory location.dropLast rest
    else
      let next := location ++ [name]
      match t.get? next with
      | some .directory => t.openDirectory next rest
      | _ =>
        match walk t true linkLimit location [name] with
        | .ok (.node real .directory) => t.openDirectory real rest
        | _ => (t.insert next .directory).openDirectory next rest

/-- Puts a node at a path, in directories made as they are needed. A directory that is already there
stays. -/
def place (t : Tree) (path : Path) (node : Node) : Tree :=
  let (t, directory) := t.openDirectory [] path.names.dropLast
  match path.names.getLast? with
  | none => t
  | some name =>
    let location := directory ++ [name]
    if node = .directory ∧ t.get? location = some .directory then t
    else (t.erase location).insert location node

/-- The location of the last name of a path, which may be a link. -/
def locate (t : Tree) (path : Path) : Option Location :=
  match walk t false linkLimit [] path.names with
  | .ok (.node location _) => some location
  | _ => none

end Tree

namespace View

/-- Removes what stands at a path, a directory with all below it. A working directory goes with it.
-/
def remove (v : View) (path : Path) : View :=
  match v.tree.locate path with
  | none => v
  | some location =>
    { tree := v.tree.erase location
      workingDir := v.workingDir.filter (!location.isPrefixOf ·) }

/-- The view from another directory. -/
def enter (v : View) (text : String) : View :=
  match v.node? text with
  | .ok (location, .directory) => { v with workingDir := some location }
  | _ => v

end View
end BuildLauncher.Files
