import BuildLauncher.Expression.Escape
import BuildLauncher.Expression.Grammar

/-!
# Matching tokens

A pattern matches from a place on, or it does not, or a mistake is found on the way, which ends the
matching as a whole. Reading on where no token is left is a mistake too.
-/
namespace BuildLauncher.Expression

/-- What a pattern comes to: a match up to a place, none, none for the whole rule, or a mistake. -/
inductive Outcome
  | upTo (place : Nat)
  | none
  | abandoned
  | wrong (reason : String)
deriving DecidableEq, Repr

/-- What is known about rules at places, and the last place that was looked at. -/
structure Progress where
  kept : List ((Rule × Nat) × Outcome)
  reach : Nat

/-- An outcome for which a place was looked at. -/
def lookingAt (place : Nat) (outcome : Outcome) : StateM Progress Outcome := do
  modify fun p => { p with reach := max p.reach place }
  return outcome

/-- What is said where a bracket is not closed. -/
def neverClosed (bracket : Char) : String := "'" ++ String.singleton bracket ++ "' was never closed"

/-- The token at a place. -/
def Lexed.tokenAt (l : Lexed) (place : Nat) : Except String Token :=
  match l.lexemes[place]?, l.ending with
  | some lexeme, _ => .ok lexeme.token
  | Option.none, .complete => .ok .stop
  | Option.none, .opened c _ => .error (neverClosed c)
  | Option.none, .fault reason | Option.none, .lineFault reason _ => .error reason

/-- A match of one token. -/
def Lexed.one (l : Lexed) (place : Nat) (admits : Token → Bool) : Outcome :=
  match l.tokenAt place with
  | .error reason => .wrong reason
  | .ok t => if admits t then .upTo (place + 1) else .none

/-- A match of one number, which must not be too long. -/
def Lexed.oneNumber (l : Lexed) (place : Nat) : Outcome :=
  match l.tokenAt place with
  | .ok (.number digits) =>
    match numberFault? digits with
    | some reason => .wrong reason
    | none => .upTo (place + 1)
  | .ok _ => .none
  | .error reason => .wrong reason

/-- The quoted texts that stand side by side from a place on. -/
def Lexed.textsAt (l : Lexed) (place : Nat) : List Quotation :=
  (((l.lexemes.drop place).map Lexeme.token).takeWhile isText).filterMap Token.text?

/-- A match of quoted texts up to a place. -/
def Lexed.endTexts (l : Lexed) (texts : List Quotation) (stop : Nat) : Outcome :=
  match l.tokenAt stop with
  | .error reason => .wrong reason
  | .ok _ =>
    match quotationsFault? texts with
    | some reason => .wrong reason
    | none => if texts.isEmpty then .none else .upTo stop

/-- The tokens between two places. -/
def Lexed.between (l : Lexed) (start stop : Nat) : List Token :=
  ((l.lexemes.drop start).take (stop - start)).map Lexeme.token

/-- Names that are words of the language in some places, or may become such words. -/
def isSoftWord : Token → Bool
  | .name s => ["_", "case", "match"].any fun word => s.toList.isPrefixOf word.toList
  | _ => false

/-- Tokens with the number of brackets that are open around each. -/
def withDepth (depth : Nat) : List Token → List (Token × Nat)
  | [] => []
  | t :: rest =>
    match t with
    | .mark m =>
      if ["(", leftBrace, "["].contains m then (t, depth) :: withDepth (depth + 1) rest
      else if [")", rightBrace, "]"].contains m then (t, depth - 1) :: withDepth (depth - 1) rest
      else (t, depth) :: withDepth depth rest
    | _ => (t, depth) :: withDepth depth rest

/-- Marks without those of parameters, which stand between `lambda` and a colon. -/
def dropParameters (depth : Nat) : List String → List String
  | [] => []
  | m :: rest =>
    if m = "lambda" then m :: dropParameters (depth + 1) rest
    else if depth = 0 then m :: dropParameters 0 rest
    else dropParameters (if m = ":" then depth - 1 else depth) rest

/-- The marks of tokens that stand outside all brackets. -/
def outerMarks (tokens : List Token) : List String :=
  dropParameters 0 ((withDepth 0 tokens).filterMap fun (t, depth) =>
    match t with
    | .mark m => if depth = 0 then some m else none
    | _ => none)

/-- The word for what brackets with these tokens between them are. -/
def bracketedKind (bracket : String) (inner : List Token) : String :=
  let marks := outerMarks inner
  let isGenerator := marks.contains "for"
  if bracket = "(" then if isGenerator then "generator expression" else "tuple"
  else if isGenerator then
    if marks.contains ":" then "dict comprehension" else "set comprehension"
  else if inner.isEmpty || marks.contains ":" || marks.contains "**" then "dict literal"
  else "set display"

/-- The tokens without parentheses around them that only group. -/
def ungrouped (fuel : Nat) (tokens : List Token) : List Token :=
  match fuel, tokens with
  | fuel + 1, .mark "(" :: rest =>
    let inner := rest.dropLast
    let marks := outerMarks inner
    let closes := (outerMarks tokens).length = 2 && tokens.getLast? = some (.mark ")")
    if closes && !inner.isEmpty && !marks.contains "," && !marks.contains "for" then
      ungrouped fuel inner
    else tokens
  | _, _ => tokens

/-- The words and marks that start a comparison. -/
def comparisonWords : List String := ["==", "!=", "<=", "<", ">=", ">", "in", "is", "not"]

/-- The word for the kind of an expression. -/
def kindOf (tokens : List Token) : String :=
  let tokens := ungrouped tokens.length tokens
  let marks := outerMarks tokens
  let hasOne (ms : List String) : Bool := ms.any (marks.contains ·)
  if hasOne [":="] then "named expression"
  else if marks.head? = some "lambda" then "lambda"
  else if marks.head? = some "yield" then "yield expression"
  else if hasOne ["if"] then "conditional expression"
  else if hasOne ["or", "and"] || marks.head? = some "not" then "expression"
  else if hasOne comparisonWords then "comparison"
  else if hasOne ["|", "^", "&", "<<", ">>", "+", "-", "*", "/", "//", "%", "@", "~", "**"] then
    "expression"
  else if marks.head? = some "await" then "await expression"
  else
    match tokens with
    | [.name _] => "name"
    | [.number _] => "literal"
    | [.mark "..."] => "ellipsis"
    | [.mark m] => m
    | .text q :: _ =>
      if tokens.length = 1 then
        if q.letters.contains 'f' then "f-string expression" else "literal"
      else if marks.isEmpty then "literal"
      else if isName (tokens.getLastD .stop) then "attribute"
      else "function call"
    | .mark m :: rest =>
      if marks.length = 2 && !isName (tokens.getLastD .stop) then bracketedKind m rest.dropLast
      else if isName (tokens.getLastD .stop) then "attribute"
      else "function call"
    | _ => if isName (tokens.getLastD .stop) then "attribute" else "function call"

/-- The parts of tokens between marks that stand outside all brackets. -/
def splitOuter (m : String) (tokens : List Token) : List (List Token) :=
  ((withDepth 0 tokens).splitOnP (· = (.mark m, 0))).map fun part => part.map Prod.fst

/-- The kind of the first expression that can take no value among those that should. -/
def badTarget? (fuel : Nat) (tokens : List Token) : Option String :=
  match fuel with
  | 0 => none
  | fuel + 1 =>
    let tokens := ungrouped tokens.length tokens
    let parts := splitOuter "," tokens
    match tokens with
    | .mark "*" :: rest => if parts.length = 1 then badTarget? fuel rest else
      parts.findSome? (badTarget? fuel)
    | _ =>
      if 1 < parts.length then parts.findSome? (badTarget? fuel)
      else
        match kindOf tokens with
        | "name" | "attribute" => none
        | "tuple" => badTarget? fuel (tokens.tail.dropLast)
        | "comparison" =>
          let comparisons := (outerMarks tokens).filter (comparisonWords.contains ·)
          if comparisons.head? = some "in" then
            badTarget? fuel ((splitOuter "in" tokens).headD [])
          else none
        | kind => if tokens.isEmpty then none else some kind

/-- Statements that were once written without parentheses. -/
def oldStatements : List String := ["exec", "print"]

/-- What a mistake comes to whose subject and rest lie between places. -/
def judge (l : Lexed) (verdict : Verdict) (start middle stop : Nat) : Outcome :=
  let subject := l.between start middle
  let statement? := match ungrouped subject.length subject with
    | [.name s] => if oldStatements.contains s then some s else none
    | _ => none
  match verdict with
  | .said reason => .wrong reason
  | .about before after => .wrong (before ++ kindOf subject ++ after)
  | .sideBySide =>
    if statement?.isSome || (l.lexemes[stop - 1]?.map Lexeme.depth).getD 0 = 0 then .abandoned
    else .wrong "invalid syntax. Perhaps you forgot a comma?"
  | .statement =>
    match statement? with
    | some s =>
      .wrong ("Missing parentheses in call to '" ++ s ++ "'. Did you mean " ++ s ++ "(...)?")
    | none => .abandoned
  | .misplaced =>
    let unpacking := if (outerMarks subject).contains "**" then " unpacking" else ""
    .wrong ("positional argument follows keyword argument" ++ unpacking)
  | .target =>
    match badTarget? subject.length subject with
    | some kind => .wrong ("cannot assign to " ++ kind)
    | none => .abandoned
  | .bareGenerator =>
    if (outerMarks subject).contains "," then .wrong "Generator expression must be parenthesized"
    else .abandoned

/-- Matches a pattern from a place on. `checking` says whether mistakes are looked for, and `fuel`
bounds the depth of rules and repetitions. -/
def matchFrom (l : Lexed) (fuel : Nat) (checking : Bool) (p : Pattern) (place : Nat) :
    StateM Progress Outcome :=
  match fuel with
  | 0 => return .none
  | fuel + 1 => do
    match p with
    | .empty => return .upTo place
    | .name => lookingAt place <| l.one place isName
    | .number => lookingAt place <| l.oneNumber place
    | .newline => lookingAt place <| l.one place (· = .newline)
    | .stop => lookingAt place <| l.one place (· = .stop)
    | .mark s => lookingAt place <| l.one place (· = .mark s)
    | .softWord => lookingAt place <| l.one place isSoftWord
    | .text => lookingAt place <| l.one place isText
    | .texts =>
      let texts := l.textsAt place
      lookingAt (place + texts.length) (l.endTexts texts (place + texts.length))
    | .rule r =>
      let known := (← get).kept.lookup (r, place)
      match if r.isKept then known else none with
      | some outcome => return outcome
      | none =>
        let outcome ← matchFrom l fuel checking r.pattern place
        let outcome := if outcome = .abandoned then .none else outcome
        if r.isKept then modify fun p => { p with kept := ((r, place), outcome) :: p.kept }
        return outcome
    | .both first second =>
      match ← matchFrom l fuel checking first place with
      | .upTo middle => matchFrom l fuel checking second middle
      | outcome => return outcome
    | .either first second =>
      match ← matchFrom l fuel checking first place with
      | .none => matchFrom l fuel checking second place
      | outcome => return outcome
    | .many repeated =>
      match ← matchFrom l fuel checking repeated place with
      | .upTo middle =>
        if place < middle then matchFrom l fuel checking (.many repeated) middle
        else return .upTo place
      | .none => return .upTo place
      | outcome => return outcome
    | .ahead wanted expected =>
      match ← matchFrom l fuel checking expected place with
      | .wrong reason => return .wrong reason
      | outcome => return if (outcome matches .upTo _) = wanted then .upTo place else .none
    | .ifChecking inner => if checking then matchFrom l fuel checking inner place else return .none
    | .quietly inner => matchFrom l fuel false inner place
    | .mistake subject rest verdict =>
      match ← matchFrom l fuel checking subject place with
      | .upTo middle =>
        match ← matchFrom l fuel checking rest middle with
        | .upTo stop => return judge l verdict place middle stop
        | outcome => return outcome
      | outcome => return outcome

/-- Enough for every rule and every repetition at each token. -/
def fuelFor (l : Lexed) : Nat := 400 * (l.lexemes.length + 2)

/-- The outcome for a whole text, and the last place that was looked at. -/
def matchWhole (l : Lexed) (checking : Bool) : Outcome × Nat :=
  let (outcome, progress) := (matchFrom l (fuelFor l) checking (.rule .whole) 0).run ⟨[], 0⟩
  (outcome, progress.reach)

/-- Does the reader know only at the end of a text that the token has ended? -/
def endsLate : Token → Bool
  | .text _ => false
  | .mark m => m.length < 3 || keywords.contains m
  | _ => true

/-- Has all of the text been read when the token at a place has? -/
def Lexed.isRead (l : Lexed) (place : Nat) : Bool :=
  l.lexemes.length ≤ place ||
    (l.lexemes.length = place + 1 && l.lexemes.getLast?.any fun lexeme => endsLate lexeme.token)

/-- What is said of a mistake that showed at a place. What cannot be read comes first, wherever it
stands. So does a bracket that was opened on an earlier line and is never closed, if the mistake is
just any or showed before the end of the text. -/
def Lexed.report (l : Lexed) (place : Nat) (reason? : Option String) : String :=
  let reason := reason?.getD "invalid syntax"
  let isBelow (line : Nat) : Bool := l.lexemes[place]?.any (line < ·.line)
  match l.ending with
  | .complete => reason
  | .fault first => first
  | .lineFault _ opened =>
    match opened with
    | (c, line) :: _ => if isBelow line then neverClosed c else reason
    | [] => reason
  | .opened c line =>
    if isBelow line && (reason?.isNone || !l.isRead place) then neverClosed c else reason

/-- What is wrong with a text that is no expression. -/
def mistake? (l : Lexed) : Option String :=
  let (outcome, reach) := matchWhole l false
  match outcome with
  | .upTo _ => none
  | .wrong reason => l.report reach (some reason)
  | _ =>
    let (outcome, furtherReach) := matchWhole l true
    let place := max reach furtherReach
    match outcome with
    | .wrong reason => l.report place (some reason)
    | _ =>
      if l.lexemes[reach]?.any (·.token = .indent) then "unexpected indent"
      else l.report place none

end BuildLauncher.Expression
