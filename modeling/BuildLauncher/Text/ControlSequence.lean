/-!
# Control sequences

A terminal takes an escape with an opening bracket, and what belongs to it, as a command and not as
text. Where the output is no terminal such sequences are left out.
-/
namespace BuildLauncher.Text

def isEscape (c : Char) : Bool := c.toNat = 0x1B

def isParameter (c : Char) : Bool := 0x30 ≤ c.toNat && c.toNat ≤ 0x3F
def isIntermediate (c : Char) : Bool := 0x20 ≤ c.toNat && c.toNat ≤ 0x2F
def isFinal (c : Char) : Bool := 0x40 ≤ c.toNat && c.toNat ≤ 0x7E

/-- The number of characters after the escape that belong to a sequence: a bracket, parameters,
intermediate characters and a final one. -/
def sequenceTail? : List Char → Option Nat
  | '[' :: rest =>
    let parameters := (rest.takeWhile isParameter).length
    let intermediates := ((rest.drop parameters).takeWhile isIntermediate).length
    let count := parameters + intermediates
    match rest.drop count with
    | c :: _ => if isFinal c then some (count + 2) else none
    | [] => none
  | _ => none

/-- The text without control sequences. `skip` characters belong to the last one. -/
def plainFrom (skip : Nat) : List Char → List Char
  | [] => []
  | c :: rest =>
    match skip with
    | skip + 1 => plainFrom skip rest
    | 0 =>
      match if isEscape c then sequenceTail? rest else none with
      | some count => plainFrom count rest
      | none => c :: plainFrom 0 rest

/-- What a text shows where it does not reach a terminal. -/
def plain (s : String) : String := String.ofList (plainFrom 0 s.toList)

/-- Without an escape there is nothing to leave out. -/
theorem plainFrom_of_no_escape {s : List Char} (h : ∀ c ∈ s, isEscape c = false) :
    plainFrom 0 s = s := by
  induction s with
  | nil => rfl
  | cons c rest ih =>
    have hc := h c (by simp)
    have hrest := ih fun d hd => h d (by simp [hd])
    simp [plainFrom, hc, hrest]

end BuildLauncher.Text
