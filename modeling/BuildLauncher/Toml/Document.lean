import BuildLauncher.Toml.Scalars
import BuildLauncher.Toml.Strings

/-!
# TOML documents

A document is read statement by statement into one table. Besides the table the reader keeps which
tables have been declared and which values may no longer change.
-/
namespace BuildLauncher.Toml

/-- Changes the table behind `key`, creating the tables on the way. Only with `enterLists` an array
of tables stands for its last one. -/
def inTable (enterLists : Bool) (change : Fields → Except Problem Fields) :
    Key → Fields → Except Problem Fields
  | [], fields => change fields
  | name :: key, fields =>
    match fields.get? name with
    | none => do
      let inner ← inTable enterLists change key []
      return fields.set name (.object inner)
    | some (.object inner) => do
      let inner ← inTable enterLists change key inner
      return fields.set name (.object inner)
    | some (.list items) =>
      match enterLists, items.getLast? with
      | true, some (.object inner) => do
        let inner ← inTable enterLists change key inner
        return fields.set name (.list (items.dropLast ++ [.object inner]))
      | _, _ => .error .overwrites
    | some _ => .error .overwrites

/-- Gives a new name in a table its value. -/
def addNew (problem : Problem) (name : String) (value : Value) (fields : Fields) :
    Except Problem Fields :=
  if (fields.get? name).isSome then .error problem else .ok (fields.set name value)

/-- Opens a further table in an array of tables. -/
def addTable (name : String) (fields : Fields) : Except Problem Fields :=
  match fields.get? name with
  | none => .ok (fields.set name (.list [.object []]))
  | some (.list items) => .ok (fields.set name (.list (items ++ [.object []])))
  | some _ => .error .overwrites

/-- Does one of the keys stand at or above `key`? -/
def hasAbove (keys : List Key) (key : Key) : Bool := keys.any (·.isPrefixOf key)

def isContainer : Value → Bool
  | .list _ | .object _ => true
  | _ => false

/-- Blanks, newlines and comments, as they may stand inside an array. -/
def skipFiller (fuel : Nat) (s : List Char) : Except Fault (List Char) :=
  match fuel with
  | 0 => .ok s
  | fuel + 1 => do
    let rest ← skipComment (skipSpaceAndNewlines s)
    if rest.length = s.length then return rest
    skipFiller fuel rest

def skipArrayFiller (s : List Char) : Except Fault (List Char) := skipFiller (s.length + 1) s

/-- The problem of a step stands at the place where it was found. -/
def orFail {α : Type} (rest : List Char) : Except Problem α → Except Fault α
  | .ok a => .ok a
  | .error problem => fail problem rest

mutual

/-- The value at the start of a text. An array or a table takes one step of `depth`, and each of its
items another. Where no step is left there is no text left either, and so no value. -/
def readValue (depth : Nat) (s : List Char) : Except Fault (Value × List Char) :=
  match depth with
  | 0 => fail .invalidValue s
  | depth + 1 =>
    match readString? s with
    | some reading => do
      let (read, rest) ← reading
      return (.text (String.ofList read), rest)
    | none =>
      if "true".toList.isPrefixOf s then .ok (.bool true, s.drop 4)
      else if "false".toList.isPrefixOf s then .ok (.bool false, s.drop 5)
      else if s.head? = some '[' then do
        let rest ← skipArrayFiller (s.drop 1)
        if rest.head? = some ']' then return (.list [], rest.drop 1)
        readItems depth [] rest
      else if s.head? = some '\x7b' then
        let rest := skipSpace (s.drop 1)
        if rest.head? = some '\x7d' then .ok (.object [], rest.drop 1)
        else readInline depth [] [] rest
      else readScalar s

/-- The items of an array, with those read so far backwards. -/
def readItems (depth : Nat) (items : List Value) (s : List Char) :
    Except Fault (Value × List Char) :=
  match depth with
  | 0 => fail .invalidValue s
  | depth + 1 => do
    let (item, rest) ← readValue depth s
    let rest ← skipArrayFiller rest
    if rest.head? = some ']' then return (.list (item :: items).reverse, rest.drop 1)
    if rest.head? ≠ some ',' then fail .unclosedArray rest
    let rest ← skipArrayFiller (rest.drop 1)
    if rest.head? = some ']' then return (.list (item :: items).reverse, rest.drop 1)
    readItems depth (item :: items) rest

/-- The pairs of an inline table; `frozen` holds the keys of its arrays and tables. -/
def readInline (depth : Nat) (table : Fields) (frozen : List Key) (s : List Char) :
    Except Fault (Value × List Char) :=
  match depth with
  | 0 => fail .invalidKey s
  | depth + 1 => do
    let (key, rest) ← readKey s
    if rest.head? ≠ some '=' then fail .expectedEquals rest
    let (value, rest) ← readValue depth (skipSpace (rest.drop 1))
    if hasAbove frozen key then fail (.immutable key) rest
    let name := key.getLastD ""
    let table ← orFail rest (inTable false (addNew (.duplicate name) name value) key.dropLast table)
    let rest := skipSpace rest
    if rest.head? = some '\x7d' then return (.object table, rest.drop 1)
    if rest.head? ≠ some ',' then fail .unclosedInlineTable rest
    let frozen := if isContainer value then key :: frozen else frozen
    readInline depth table frozen (skipSpace (rest.drop 1))

end

/-- The value at the start of a text. No character is worth more than two steps of depth. -/
def readWhole (s : List Char) : Except Fault (Value × List Char) := readValue (2 * s.length + 1) s

/-- A document in the making. -/
structure Document where
  table : Fields
  /-- Where the statements that follow write. -/
  header : Key
  /-- Tables that may not be declared again. -/
  declared : List Key
  /-- Tables that dotted keys have made since the last header. -/
  pending : List Key
  /-- Arrays and inline tables, with all that is below them. -/
  frozen : List Key

namespace Document

def empty : Document := ⟨[], [], [], [], []⟩

/-- A header closes the tables that dotted keys have made. -/
def settle (doc : Document) : Document :=
  { doc with declared := doc.pending ++ doc.declared, pending := [] }

/-- Opens a table under its header. -/
def declare (doc : Document) (key : Key) : Except Problem Document :=
  if doc.declared.contains key || hasAbove doc.frozen key then .error (.declaredTwice key)
  else do
    let table ← inTable true .ok key doc.table
    return { doc with table, header := key, declared := key :: doc.declared }

/-- Opens a further table of an array. What lies at and below the key belongs to the table before.
-/
def declareNext (doc : Document) (key : Key) : Except Problem Document :=
  if hasAbove doc.frozen key then .error (.immutable key)
  else do
    let free (keys : List Key) := keys.filter (!key.isPrefixOf ·)
    let table ← inTable true (addTable (key.getLastD "")) key.dropLast doc.table
    return { doc with
      table
      header := key
      declared := key :: free doc.declared
      frozen := free doc.frozen }

/-- The tables between the header and the last name of a dotted key. -/
def between (header key : Key) : List Key :=
  (List.range (key.length - 1)).map fun n => header ++ key.take (n + 1)

/-- Writes a pair into the table of the header. -/
def assign (doc : Document) (key : Key) (value : Value) : Except Problem Document :=
  let tables := between doc.header key
  match tables.find? doc.declared.contains with
  | some table => .error (.redefines table)
  | none =>
    let place := doc.header ++ key.dropLast
    if hasAbove doc.frozen place then .error (.immutable place)
    else do
      let table ← inTable true (addNew .overwrites (key.getLastD "") value) place doc.table
      return { doc with
        table
        pending := tables ++ doc.pending
        frozen := if isContainer value then (doc.header ++ key) :: doc.frozen else doc.frozen }

end Document

/-- One statement: a header, a pair, or nothing. -/
def readStatement (doc : Document) (s : List Char) : Except Fault (Document × List Char) :=
  match s with
  | '[' :: '[' :: rest => do
    let (key, rest) ← readKey (skipSpace rest)
    let doc ← orFail rest (doc.settle.declareNext key)
    if "]]".toList.isPrefixOf rest then return (doc, skipSpace (rest.drop 2))
    fail .unclosedArrayHeader rest
  | '[' :: rest => do
    let (key, rest) ← readKey (skipSpace rest)
    let doc ← orFail rest (doc.settle.declare key)
    if rest.head? = some ']' then return (doc, skipSpace (rest.drop 1))
    fail .unclosedHeader rest
  | c :: _ =>
    if isBareKey c || c = '"' || c = '\'' then do
      let (key, rest) ← readKey s
      if rest.head? ≠ some '=' then fail .expectedEquals rest
      let (value, rest) ← readWhole (skipSpace (rest.drop 1))
      let doc ← orFail rest (doc.assign key value)
      return (doc, skipSpace rest)
    else if c = '#' || c = '\n' then .ok (doc, s)
    else fail .invalidStatement s
  | [] => .ok (doc, s)

/-- The statements of a text, one a line; at most `fuel` lines. -/
def readStatements (fuel : Nat) (doc : Document) (s : List Char) : Except Fault Fields :=
  match fuel with
  | 0 => .ok doc.table
  | fuel + 1 => do
    let (doc, rest) ← readStatement doc (skipSpace s)
    match ← skipComment rest with
    | [] => return doc.table
    | '\n' :: rest => readStatements fuel doc rest
    | rest => fail .expectedLineEnd rest

/-- Line ends of two characters, or of a lone carriage return, are read as newlines. -/
def newlines : List Char → List Char
  | [] => []
  | '\r' :: '\n' :: rest => '\n' :: newlines rest
  | '\r' :: rest => '\n' :: newlines rest
  | c :: rest => c :: newlines rest

/-- The table of a document, or what is wrong with it. A system may give up before (`Platform`). -/
def read (text : List Char) : Except Fault Fields :=
  readStatements (text.length + 1) .empty text

end BuildLauncher.Toml
