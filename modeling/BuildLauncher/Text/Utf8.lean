/-!
# Reading UTF-8

Decoding stops at the first sequence of octets that encodes no character, and tells which octets
these are.
-/
namespace BuildLauncher.Text

inductive Utf8Problem
  | invalidStart
  | invalidContinuation
  | unexpectedEnd
deriving DecidableEq, Repr

def Utf8Problem.message : Utf8Problem → String
  | .invalidStart => "invalid start byte"
  | .invalidContinuation => "invalid continuation byte"
  | .unexpectedEnd => "unexpected end of data"

/-- Octets that encode no character: the first of them, its place in the input, and their number. -/
structure Utf8Fault where
  octet : UInt8
  position : Nat
  count : Nat
  problem : Utf8Problem
deriving DecidableEq, Repr

def isContinuation (b : UInt8) : Bool := 0x80 ≤ b && b < 0xC0

/-- Overlong forms and surrogates show in the second octet. -/
def isSecond (first second : UInt8) : Bool :=
  isContinuation second &&
    !(first = 0xE0 && second < 0xA0) && !(first = 0xED && 0xA0 ≤ second) &&
    !(first = 0xF0 && second < 0x90) && !(first = 0xF4 && 0x90 ≤ second)

/-- The character whose bits are those of `first` beyond `marker`, then six of each octet. -/
def assemble (first marker : UInt8) (more : List UInt8) : Char :=
  Char.ofNat (more.foldl (fun n b => n * 64 + (b.toNat - 0x80)) (first.toNat - marker.toNat))

/-- The characters that the octets encode, which start at `position` of the input. -/
def decodeFrom (position : Nat) : List UInt8 → Except Utf8Fault (List Char)
  | [] => .ok []
  | a :: rest =>
    let fault count problem := Except.error ⟨a, position, count, problem⟩
    if a < 0x80 then
      return Char.ofNat a.toNat :: (← decodeFrom (position + 1) rest)
    else if a < 0xC2 || 0xF5 ≤ a then fault 1 .invalidStart
    else match rest with
      | [] => fault 1 .unexpectedEnd
      | b :: rest =>
        if !isSecond a b then fault 1 .invalidContinuation
        else if a < 0xE0 then
          return assemble a 0xC0 [b] :: (← decodeFrom (position + 2) rest)
        else match rest with
          | [] => fault 2 .unexpectedEnd
          | c :: rest =>
            if !isContinuation c then fault 2 .invalidContinuation
            else if a < 0xF0 then
              return assemble a 0xE0 [b, c] :: (← decodeFrom (position + 3) rest)
            else match rest with
              | [] => fault 3 .unexpectedEnd
              | d :: rest =>
                if !isContinuation d then fault 3 .invalidContinuation
                else return assemble a 0xF0 [b, c, d] :: (← decodeFrom (position + 4) rest)

def decode (octets : List UInt8) : Except Utf8Fault (List Char) := decodeFrom 0 octets

def encode (s : String) : List UInt8 := s.toUTF8.toList

end BuildLauncher.Text
