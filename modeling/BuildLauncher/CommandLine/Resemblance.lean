/-!
# Resemblance of words

Two words resemble each other by the characters of their longest common part, together with those of
the words on either side of it.
-/
namespace BuildLauncher.CommandLine

/-- The number of characters with which both words begin. -/
def commonStart : List Char → List Char → Nat
  | a :: as, b :: bs => if a = b then commonStart as bs + 1 else 0
  | _, _ => 0

/-- A common part of two words: where it starts in each, and its length. -/
structure CommonPart where
  left : Nat
  right : Nat
  size : Nat
deriving DecidableEq, Repr

/-- The longest common part; of several the one that starts first, in the first word before all. -/
def longestPart (a b : List Char) : CommonPart :=
  let starts := (List.range a.length).flatMap fun i => (List.range b.length).map fun j => (i, j)
  starts.foldl
    (fun best (i, j) =>
      let size := commonStart (a.drop i) (b.drop j)
      if best.size < size then ⟨i, j, size⟩ else best)
    ⟨0, 0, 0⟩

/-- The characters that two words share, part by part. Each part takes a character of the first
word, so its length bounds the number of parts. -/
def shared (parts : Nat) (a b : List Char) : Nat :=
  match parts with
  | 0 => 0
  | parts + 1 =>
    let p := longestPart a b
    if p.size = 0 then 0
    else
      shared parts (a.take p.left) (b.take p.right) + p.size +
        shared parts (a.drop (p.left + p.size)) (b.drop (p.right + p.size))

/-- Do shared characters make up three fifths of two words of a total length? -/
def isClose (shared length : Nat) : Bool := 3 * length ≤ 10 * shared

/-- A word with its share of characters in common with another, as a fraction. -/
structure Candidate where
  word : String
  shared : Nat
  length : Nat
deriving DecidableEq, Repr

/-- The better resemblance; between equals the word that is later in the alphabet. -/
def Candidate.isBetter (a b : Candidate) : Bool :=
  let left := a.shared * b.length
  let right := b.shared * a.length
  right < left || (left = right && b.word < a.word)

def candidate? (word choice : String) : Option Candidate :=
  let a := choice.toList
  let b := word.toList
  let length := a.length + b.length
  if isClose (min a.length b.length) length then
    let n := shared a.length a b
    if isClose n length then some ⟨choice, n, length⟩ else none
  else none

def insertBetter (c : Candidate) : List Candidate → List Candidate
  | [] => [c]
  | d :: rest => if c.isBetter d then c :: d :: rest else d :: insertBetter c rest

/-- The most choices that are suggested. -/
def suggestionLimit : Nat := 3

def insertWord (word : String) : List String → List String
  | [] => [word]
  | other :: rest => if word ≤ other then word :: other :: rest else other :: insertWord word rest

/-- The choices that a word resembles most, in the order of the alphabet. -/
def suggestions (word : String) (choices : List String) : List String :=
  let ranked := (choices.filterMap (candidate? word)).foldr insertBetter []
  ((ranked.take suggestionLimit).map Candidate.word).foldr insertWord []

end BuildLauncher.CommandLine
