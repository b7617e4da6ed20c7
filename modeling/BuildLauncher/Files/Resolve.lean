import BuildLauncher.Files.Walk
import BuildLauncher.Platform

/-!
# Canonical paths

A path is made canonical name by name: links are replaced by what they lead to, and a pair of points
by one level up. Names that do not exist stay, so that every path has a canonical form unless links
lead in a circle.
-/
namespace BuildLauncher.Files

/-- The links met so far, each with what it leads to once that is known. -/
abbrev Links := List (Path × Option Path)

/-- Names still to be followed. They are the target of `link`, or the path itself. -/
structure Leg where
  link : Option Path
  names : List String

/-- Where the names of one leg lead: to their end, to a link not met before, or back to a link that
is still being followed. `rest` are the names not followed. -/
inductive LegEnd
  | reached (path : Path)
  | link (directory next : Path) (target : String) (rest : List String)
  | circle (next : Path) (rest : List String)

/-- Where all legs lead. -/
inductive TrailEnd
  | reached (path : Path)
  | link (directory next : Path) (target : String) (links : Links) (legs : List Leg)

/-- The target of a link that stands at a path. -/
def View.linkTarget? (v : View) (path : Path) : Option String :=
  match v.find false path.text with
  | .ok (.node _ (.link target)) => some target
  | _ => none

/-- Follows the names of a leg from a canonical path. -/
def followLeg (v : View) (links : Links) (path : Path) : List String → Except Error LegEnd
  | [] => .ok (.reached path)
  | name :: rest =>
    if name = ".." then followLeg v links path.climb rest
    else if h : IsName name then
      let next := path.child name h
      if View.hasNul name then .error .nulCharacter
      else
        match links.lookup next with
        | some (some known) => followLeg v links known rest
        | some none => .ok (.circle next rest)
        | none =>
          match v.linkTarget? next with
          | some target => .ok (.link path next target rest)
          | none => followLeg v links next rest
    else followLeg v links path rest

/-- What is left of the legs, appended to where they stopped. -/
def appendLegs (path : Path) (legs : List Leg) : Path :=
  legs.foldl (fun p leg => p.join (Path.ofText ("/".intercalate leg.names))) path

/-- Follows legs one after the other. Links that lead in a circle end the trail at once. -/
def followLegs (v : View) (links : Links) (path : Path) : List Leg → Except Error TrailEnd
  | [] => .ok (.reached path)
  | leg :: legs =>
    match followLeg v links path leg.names with
    | .error e => .error e
    | .ok (.circle next rest) => .ok (.reached (appendLegs next (⟨none, rest⟩ :: legs)))
    | .ok (.link directory next target rest) =>
      .ok (.link directory next target links (⟨leg.link, rest⟩ :: legs))
    | .ok (.reached path) =>
      let links := match leg.link with
        | some link => (link, some path) :: links
        | none => links
      followLegs v links path legs

/-- More links than are followed on any way. No link is followed twice under one path, and the paths
that a text has room for name it from no more than so many levels above the working directory. -/
def View.expansionLimit (v : View) : Nat := textLimit * (v.tree.entries.length + 1)

/-- Follows legs and the targets of all links on the way. -/
def expand (v : View) (limit : Nat) (links : Links) (path : Path) (legs : List Leg) :
    Except Error Path :=
  match followLegs v links path legs with
  | .error e => .error e
  | .ok (.reached path) => .ok path
  | .ok (.link directory next target links legs) =>
    match limit with
    | 0 => .error (.linkLoop next.text)
    | limit + 1 =>
      let start := if isRooted target then .root else directory
      expand v limit ((next, none) :: links) start (⟨some next, Path.parts target.toList⟩ :: legs)

/-- The canonical form of a path. It is an error if the system walks in a circle there. -/
def View.resolve (v : View) (path : Path) : Except Error Path := do
  let start := if path.isAbsolute then .root else .here
  let reached ← expand v v.expansionLimit [] start [⟨none, path.names⟩]
  let absolute ← if reached.isAbsolute then pure reached else v.currentPath.map (·.join reached)
  let canonical := absolute.collapse
  if View.hasNul canonical.text then throw .nulCharacter
  match v.node? canonical.text with
  | .error .tooManyLinks => throw (.linkLoop canonical.text)
  | _ => return canonical

/-- A text without slashes at its end; of slashes alone one stays. -/
def trimSlashes (s : String) : String :=
  let kept := (s.toList.reverse.dropWhile (· = '/')).reverse
  if kept.isEmpty then "/" else String.ofList kept

/-- The home directory that a tilde before a user's name stands for. Without a name it is the one that
the environment tells of, or else that of the user that runs the program. -/
def homeFor? [Platform] (home : Option String) (user : String) : Option String :=
  (if user = "" then home.or Platform.ownHome else Platform.homeOf user).map trimSlashes

/-- Replaces a first name that starts with `~`. -/
def expandHome [Platform] (home : Option String) (path : Path) : Except Error Path :=
  match path.anchor, path.names with
  | .here, name :: _ =>
    if name.toList.head? = some '~' then
      let user := String.ofList name.toList.tail
      if View.hasNul user then .error .nulCharacter
      else
        match homeFor? home user with
        | some directory =>
          if directory.toList.head? = some '~' then .error .noHome
          else
            let rest : Path := ⟨.here, path.names.tail, fun n h =>
              path.isName n (List.mem_of_mem_tail h)⟩
            .ok ((Path.ofText directory).join rest)
        | none => .error .noHome
    else .ok path
  | _, _ => .ok path

end BuildLauncher.Files
