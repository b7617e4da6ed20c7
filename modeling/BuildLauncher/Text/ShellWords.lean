/-!
# Shell words

A command line as one text: each argument is written so that a POSIX shell reads it back as one
word. `shellSplit` is that reading.
-/
namespace BuildLauncher.Text

/-- Characters that a shell gives no meaning to inside a word. -/
def isShellSafe (c : Char) : Bool :=
  c.isAlphanum || "_@%+=:,./-".toList.contains c

/-- Inside single quotes only the quote itself has to be written differently. -/
def shellEscape (c : Char) : List Char :=
  if c = '\'' then ['\'', '"', '\'', '"', '\''] else [c]

def shellQuote (word : List Char) : List Char :=
  if word.isEmpty then ['\'', '\'']
  else if word.all isShellSafe then word
  else '\'' :: word.flatMap shellEscape ++ ['\'']

/-- The words separated by one blank. -/
def shellJoin (words : List String) : String :=
  String.ofList (List.intercalate [' '] (words.map fun w => shellQuote w.toList))

/-- Where the reader of shell words stands: between words, or inside one. -/
inductive ShellState
  | between
  | bare
  | single
  | double
deriving DecidableEq, Repr

def isShellBlank (c : Char) : Bool := c = ' ' || c = '\t' || c = '\r' || c = '\n'

/-- Reads words from `state`, with `word` the characters of the current word backwards. An open
quote or a lone backslash at the end has no reading. -/
def splitFrom (state : ShellState) (word : List Char) : List Char → Option (List (List Char))
  | [] =>
    match state with
    | .between => some []
    | .bare => some [word.reverse]
    | .single | .double => none
  | c :: rest =>
    match state with
    | .single =>
      if c = '\'' then splitFrom .bare word rest else splitFrom .single (c :: word) rest
    | .double =>
      if c = '"' then splitFrom .bare word rest
      else if c = '\\' then
        match rest with
        | [] => none
        | d :: rest =>
          if d = '"' || d = '\\' then splitFrom .double (d :: word) rest
          else splitFrom .double (d :: '\\' :: word) rest
      else splitFrom .double (c :: word) rest
    | .between | .bare =>
      if isShellBlank c then
        if state = .between then splitFrom .between [] rest
        else (splitFrom .between [] rest).map (word.reverse :: ·)
      else if c = '\'' then splitFrom .single word rest
      else if c = '"' then splitFrom .double word rest
      else if c = '\\' then
        match rest with
        | [] => none
        | d :: rest => splitFrom .bare (d :: word) rest
      else splitFrom .bare (c :: word) rest

/-- The words that a POSIX shell reads from a text, without expansions. -/
def shellSplit (s : String) : Option (List String) :=
  (splitFrom .between [] s.toList).map (·.map String.ofList)

end BuildLauncher.Text
