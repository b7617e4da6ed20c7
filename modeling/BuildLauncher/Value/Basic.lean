import BuildLauncher.Value.Moment

/-!
# Data

Settings and results carry values of one type: what a JSON text can hold, and the dates and times
that a TOML text can hold besides. The fields of an object have an order.
-/
namespace BuildLauncher

inductive Value
  | null
  | bool (b : Bool)
  | int (n : Int)
  | float (x : Binary64)
  | text (s : String)
  | moment (m : Moment)
  | list (items : List Value)
  | object (fields : List (String × Value))
deriving Inhabited, Repr, BEq

/-- Named values in order. -/
abbrev Fields := List (String × Value)

namespace Fields

/-- Gives `name` its value: where it already has one, in that place, otherwise at the end. -/
def set (fields : Fields) (name : String) (value : Value) : Fields :=
  match fields with
  | [] => [(name, value)]
  | (key, old) :: rest =>
    if key = name then (name, value) :: rest else (key, old) :: set rest name value

def get? (fields : Fields) (name : String) : Option Value := fields.lookup name

/-- Fields in order of their last occurrence's value and their first occurrence's place. -/
def ofPairs (pairs : List (String × Value)) : Fields :=
  pairs.foldl (fun fields p => set fields p.1 p.2) []

@[simp] theorem get?_nil (name : String) : get? [] name = none := rfl

theorem get?_cons (key : String) (value : Value) (rest : Fields) (name : String) :
    get? ((key, value) :: rest) name = if name = key then some value else get? rest name := by
  have : (name == key) = decide (name = key) := rfl
  by_cases h : name = key <;> simp [get?, List.lookup_cons, this, h]

@[simp] theorem get?_set (fields : Fields) (name other : String) (value : Value) :
    get? (set fields name value) other =
      if other = name then some value else get? fields other := by
  induction fields with
  | nil => simp [set, get?_cons]
  | cons p rest ih =>
    obtain ⟨key, old⟩ := p
    by_cases h : key = name
    · subst h
      simp only [set, if_pos, get?_cons]
      split <;> simp_all
    · simp only [set, if_neg h, get?_cons, ih]
      by_cases hk : other = key
      · subst hk
        simp [h]
      · simp [hk]

end Fields

/-- The word for the kind of a value. -/
def Value.kind : Value → String
  | .null => "NoneType"
  | .bool _ => "bool"
  | .int _ => "int"
  | .float _ => "float"
  | .text _ => "str"
  | .moment (.date _) => "date"
  | .moment (.time _) => "time"
  | .moment (.dateTime ..) => "datetime"
  | .list _ => "list"
  | .object _ => "dict"

def Value.isNull : Value → Bool
  | .null => true
  | _ => false

/-- Nothing, zero and all that is empty count as false. -/
def Value.isTrue : Value → Bool
  | .null => false
  | .bool b => b
  | .int n => n ≠ 0
  | .float x => !x.isZero
  | .text s => !s.isEmpty
  | .moment _ => true
  | .list items => !items.isEmpty
  | .object fields => !fields.isEmpty

section Parts

variable (keeps : Value → Bool)

mutual

/-- Does `keeps` hold of every part of a value that has no parts itself? -/
def Value.every : Value → Bool
  | .list items => everyItem items
  | .object fields => everyField fields
  | v => keeps v

def everyItem : List Value → Bool
  | [] => true
  | v :: rest => v.every && everyItem rest

def everyField : List (String × Value) → Bool
  | [] => true
  | (_, v) :: rest => v.every && everyField rest

end

end Parts

mutual

/-- How deep lists and objects are nested in the value. -/
def Value.nesting : Value → Nat
  | .list items => nestingOfItems items + 1
  | .object fields => nestingOfFields fields + 1
  | _ => 0

def nestingOfItems : List Value → Nat
  | [] => 0
  | v :: rest => max v.nesting (nestingOfItems rest)

def nestingOfFields : List (String × Value) → Nat
  | [] => 0
  | (_, v) :: rest => max v.nesting (nestingOfFields rest)

end

end BuildLauncher
