import BuildLauncher.Number.Digits
import BuildLauncher.Text.Quoted
import BuildLauncher.Value.Basic

/-!
# Values as people read them

A text on its own stands as it is; inside a list or an object it is quoted.
-/
namespace BuildLauncher

/-- From `1e+16` on and below `0.0001` a number has an exponent of at least two digits. -/
def shownNumber : Binary64.NumberFormat where
  fullFrom := -4
  fullBelow := 16
  exponentDigits := 2
  exponentPlus := true
  notANumber := "nan"
  infinite := "inf"
  negativeInfinite := "-inf"

mutual

/-- The value with its quotes. -/
def Value.shown : Value → String
  | .null => "None"
  | .bool b => if b then "True" else "False"
  | .int n => toString n
  | .float x => shownNumber.text x
  | .text s => Text.quoted s
  | .moment m => m.shown
  | .list items => "[" ++ ", ".intercalate (shownItems items) ++ "]"
  | .object fields => "\x7b" ++ ", ".intercalate (shownFields fields) ++ "\x7d"

def shownItems : List Value → List String
  | [] => []
  | v :: rest => v.shown :: shownItems rest

def shownFields : List (String × Value) → List String
  | [] => []
  | (name, v) :: rest => (Text.quoted name ++ ": " ++ v.shown) :: shownFields rest

end

/-- The least integer that has too many digits to be written. -/
def unwritable : Nat := Nat.pow 10 digitLimit

/-- Is the value no integer of too many digits? -/
def Value.isShort : Value → Bool
  | .int n => n.natAbs < unwritable
  | _ => true

/-- Does the value have a text? Integers beyond the limit have none, nor has what holds one. -/
def Value.hasText (v : Value) : Bool := v.every isShort

/-- How deep a value may be nested so that it can be written wherever the program is. Each level takes
a call, of which there may be a thousand at a time. -/
def nestingLimit : Nat := 500

/-- Can the value be written, wherever the program is? -/
def Value.isWritable (v : Value) : Bool := v.hasText && v.nesting ≤ nestingLimit

/-- What a value that can be written is shown as, without quotes around a text of its own. -/
def Value.display : Value → String
  | .text s => s
  | .moment m => m.text
  | v => v.shown

end BuildLauncher
