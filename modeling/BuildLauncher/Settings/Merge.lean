import BuildLauncher.Value.Basic

/-!
# Merging objects

Of two objects the newer one wins field by field, and so on inside fields that are objects in both.
-/
namespace BuildLauncher

mutual

/-- What stands at a field after a merge: two objects are merged in turn, anything else gives way to
the newer value. -/
def mergeValue (older : Option Value) : Value → Value
  | .object after =>
    match older with
    | some (.object before) => .object (mergeFields before after)
    | _ => .object after
  | v => v

/-- The fields of both objects, those of the older one first. -/
def mergeFields (older : Fields) : List (String × Value) → Fields
  | [] => older
  | (name, v) :: rest => mergeFields (older.set name (mergeValue (older.get? name) v)) rest

end

/-- Puts a value below names, making the objects on the way. A value that is no object bars the way.
-/
def setBelow (fields : Fields) (names : List String) (last : String) (value : Value) : Fields :=
  match names with
  | [] => fields.set last value
  | name :: names =>
    match fields.get? name with
    | none => fields.set name (.object (setBelow [] names last value))
    | some (.object inner) => fields.set name (.object (setBelow inner names last value))
    | some _ => fields

end BuildLauncher
