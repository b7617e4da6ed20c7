import BuildLauncher.Expression.Literal
import BuildLauncher.Text.Emoji
import BuildLauncher.Text.StyleName
import BuildLauncher.Text.Wrap

/-!
# Markup

A tag in square brackets opens or closes a style. On a plain screen tags leave no trace, but a
closing tag without its opening one is a fault. A tag that starts with `@` is an action, with
parameters that must make sense. A backslash before a tag makes it text.
-/
namespace BuildLauncher.Text

/-- What is wrong with a tag. -/
inductive MarkupFault
  | notOpen (tag : String) (position : Nat)
  | nothingOpen (position : Nat)
  /-- The parameters of an action, and the part of them that should be a literal. -/
  | parameters (given literal : String) (fault : Expression.Fault)
  | style (fault : StyleFault)
deriving DecidableEq, Repr

def MarkupFault.message : MarkupFault → String
  | .notOpen tag position =>
    "closing tag '[" ++ tag ++ "]' at position " ++ toString position ++
      " doesn't match any open tag"
  | .nothingOpen position =>
    "closing tag '[/]' at position " ++ toString position ++ " has nothing to close"
  | .parameters given literal fault =>
    let place := match fault with
      | .mistaken _ => quoted literal ++ " in " ++ quoted given
      | _ => quoted given
    "error parsing " ++ place ++ "; " ++ fault.message
  | .style fault => fault.message

/-- A piece of a text: plain characters, or a tag without its brackets. -/
inductive MarkupPiece
  | plain (s : List Char)
  | tag (content : List Char) (position : Nat)
deriving DecidableEq, Repr

/-- Characters that a tag may start with. -/
def opensTag (c : Char) : Bool :=
  ('a' ≤ c && c ≤ 'z') || c = '#' || c = '/' || c = '@'

/-- The content of the tag that stands next. A tag holds no opening bracket. -/
def tagAt? : List Char → Option (List Char)
  | '[' :: c :: rest =>
    let content := rest.takeWhile fun d => d ≠ '[' && d ≠ ']'
    if opensTag c && (rest.drop content.length).head? = some ']' then some (c :: content) else none
  | _ => none

/-- What stands for the tag after `escapes` backslashes: each pair of them is one backslash, and one
that is left makes the tag text. -/
def escapedTag (escapes : Nat) (content : List Char) (position : Nat) : List MarkupPiece :=
  let pairs := escapes / 2
  let before := if pairs = 0 then [] else [.plain (List.replicate pairs '\\')]
  let tag :=
    if escapes % 2 = 1 then .plain ('[' :: content ++ [']'])
    else .tag content (position + 2 * pairs)
  before ++ [tag]

/-- The pieces of a text from a position on. `plain` holds the plain characters so far backwards,
and `skip` characters belong to the last tag. -/
def piecesFrom (skip position : Nat) (plain : List Char) : List Char → List MarkupPiece
  | [] => if plain.isEmpty then [] else [.plain plain.reverse]
  | c :: rest =>
    match skip with
    | skip + 1 => piecesFrom skip (position + 1) plain rest
    | 0 =>
      let escapes := ((c :: rest).takeWhile (· = '\\')).length
      match tagAt? ((c :: rest).drop escapes) with
      | some content =>
        let before := if plain.isEmpty then [] else [.plain plain.reverse]
        before ++ escapedTag escapes content position ++
          piecesFrom (escapes + content.length + 1) (position + 1) [] rest
      | none => piecesFrom 0 (position + 1) (c :: plain) rest

/-- An escaped bracket is a bracket. -/
def unescapeBrackets : List Char → List Char
  | '\\' :: '[' :: rest => '[' :: unescapeBrackets rest
  | c :: rest => c :: unescapeBrackets rest
  | [] => []

/-- A tag that is open: its name in normal form, what follows an equals sign after it, and the place
where its text starts. -/
structure OpenTag where
  name : String
  parameters? : Option String
  start : Nat
deriving DecidableEq, Repr

namespace OpenTag

/-- The words that say how the text of the tag looks. -/
def style (t : OpenTag) : String :=
  match t.parameters? with
  | some parameters => t.name ++ " " ++ parameters
  | none => t.name

/-- Does the tag make its text a button? -/
def isAction (t : OpenTag) : Bool := t.name.startsWith "@"

/-- The span of a tag that is left open. -/
def spanTo? (t : OpenTag) (stop : Nat) : Option Span :=
  if t.style = "" then none else some ⟨t.start, stop, some t.style⟩

/-- Removes the innermost tag of a name. -/
def close? (name : String) : List OpenTag → Option (OpenTag × List OpenTag)
  | [] => none
  | top :: rest =>
    if top.name = name then some (top, rest)
    else (close? name rest).map fun (t, rest) => (t, top :: rest)

end OpenTag

/-- The literal in the parameters of an action. These may be the name of what is done, and then what
it is done with, in parentheses. -/
def actionLiteral (parameters : List Char) : List Char :=
  let trimmed := trim isBlank parameters
  match trimmed.dropWhile fun c => isWordChar c || c = '.' with
  | [] => ['(', ')']
  | '(' :: rest =>
    if rest.getLast? = some ')' && !rest.contains '\n' then '(' :: rest else trimmed
  | _ => trimmed

def checkAction (parameters : String) : Except MarkupFault Unit :=
  let literal := actionLiteral parameters.toList
  if parameters = "" then .ok ()
  else (Expression.checkLiteral literal).mapError (.parameters parameters (String.ofList literal))

/-- The span of a tag that is closed. The parameters of an action must hold a literal. -/
def OpenTag.closedSpan (t : OpenTag) (stop : Nat) : Except MarkupFault Span := do
  if t.isAction then
    checkAction (t.parameters?.getD "")
    return ⟨t.start, stop, none⟩
  return ⟨t.start, stop, some t.style⟩

def styleName (name : List Char) : Except MarkupFault String :=
  (normalStyle (String.ofList name)).mapError .style

/-- The text that pieces show from a place on, where tags are `opened`, the innermost first. -/
def renderPieces (opened : List OpenTag) (place : Nat) :
    List MarkupPiece → Except MarkupFault Styled
  | [] => .ok ⟨[], opened.filterMap (·.spanTo? place)⟩
  | .plain s :: rest => do
    let shown := dropControls (replaceEmoji (unescapeBrackets s))
    let after ← renderPieces opened (place + shown.length) rest
    return { after with chars := shown ++ after.chars }
  | .tag content position :: rest => do
    let name := content.takeWhile (· ≠ '=')
    match name with
    | '/' :: closed =>
      let closed := trim isBlank closed
      let (t, opened) ←
        if closed.isEmpty then
          match opened with
          | [] => throw (.nothingOpen position)
          | t :: opened => pure (t, opened)
        else
          match OpenTag.close? (← styleName closed) opened with
          | none => throw (.notOpen (String.ofList content) position)
          | some found => pure found
      let span ← t.closedSpan place
      let after ← renderPieces opened place rest
      return { after with spans := span :: after.spans }
    | _ =>
      let parameters? :=
        if name.length < content.length then some (String.ofList (content.drop (name.length + 1)))
        else none
      renderPieces (⟨← styleName name, parameters?, place⟩ :: opened) place rest

/-- The text that a text with markup and emoji codes shows. -/
def renderMarkup (s : List Char) : Except MarkupFault Styled :=
  if s.contains '[' then renderPieces [] 0 (piecesFrom 0 0 [] s)
  else .ok (.bare (dropControls (replaceEmoji s)))

/-- Looks up the styles of a text. One that is not known is no fault, and shows nothing. -/
def checkStyles (t : Styled) : Except MarkupFault Unit :=
  t.spans.forM fun span =>
    match span.style with
    | some name => (styleOf? name).map (fun _ => ()) |>.mapError .style
    | none => .ok ()

end BuildLauncher.Text
