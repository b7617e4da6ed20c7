import BuildLauncher.Text.Blank
import BuildLauncher.Text.EmojiNames
import BuildLauncher.Text.FlagNames
import BuildLauncher.Text.LowerCase

/-!
# Emoji codes

A name between colons stands for a character. A code whose name is not known stays as it is, and its
closing colon opens no further code.
-/
namespace BuildLauncher.Text

/-- The emoji of a name by itself. -/
def plainEmoji? (name : String) : Option (List Char) :=
  ([emojiToC, emojiDToH, emojiIToO, emojiPToR, emojiSToZ, personEmoji].findSome?
    fun names => names.lookup name).map String.toList

/-- An emoji in a tone of skin. A selector after its first character gives way to the tone. -/
def withTone (tone : Char) : List Char → List Char
  | [] => []
  | c :: rest => c :: tone :: if rest.head? = some '\ufe0f' then rest.tail else rest

/-- The emoji of a person and a tone of skin. -/
def tonedEmoji? (name : String) : Option (List Char) :=
  skinTones.findSome? fun (tone, n) =>
    let ending := ("_" ++ tone ++ "_skin_tone").toList
    if ending.isSuffixOf name.toList then
      let person := String.ofList (name.toList.take (name.length - ending.length))
      (personEmoji.lookup person).map fun s => withTone (Char.ofNat n) s.toList
    else none

/-- A letter as a part of a flag, where `shown` stands for `first`, the first of the alphabet. -/
def flagLetter (first shown c : Char) : Char :=
  Char.ofNat (shown.toNat + c.toNat - first.toNat)

/-- The flag of a region. The letters of a country are indicators, those of a part of it are tags of
a black flag, with another tag at the end. -/
def flag (region : String) : List Char :=
  if region.length = 2 then region.toList.map (flagLetter 'A' (Char.ofNat 0x1F1E6))
  else
    '🏴' :: region.toList.map (flagLetter 'a' (Char.ofNat 0xE0061)) ++ [Char.ofNat 0xE007F]

def flagMark : List Char := "flag_for_".toList

/-- The flag of a name. -/
def flagEmoji? (name : String) : Option (List Char) :=
  let region? :=
    if flagMark.isPrefixOf name.toList then
      let name := String.ofList (name.toList.drop flagMark.length)
      flagNames.lookup name <|> longFlagNames.lookup name
    else flagNames.lookup name <|> bareFlagNames.lookup name
  region?.map flag

/-- The emoji of a name. -/
def emoji? (name : String) : Option (List Char) :=
  plainEmoji? name <|> tonedEmoji? name <|> flagEmoji? name

/-- The endings of a name that choose how the emoji is drawn, with the selector that says so. -/
def emojiEndings : List (String × Nat) := [("-emoji", 0xFE0F), ("-text", 0xFE0E)]

/-- A code: its name, the selector that is asked for, and its whole text. -/
structure EmojiCode where
  name : List Char
  selector : Option Char
  source : List Char

def EmojiCode.text (code : EmojiCode) : List Char :=
  match emoji? (lower (String.ofList code.name)) with
  | some shown => shown ++ code.selector.toList
  | none => code.source

/-- The ending of a code, with the colon, if it stands next. -/
def codeEnd? (s : List Char) : Option (Option Char × List Char) :=
  if s.head? = some ':' then some (none, [':'])
  else emojiEndings.findSome? fun (ending, n) =>
    let mark := ending.toList ++ [':']
    if mark.isPrefixOf s then some (some (Char.ofNat n), mark) else none

/-- The code whose opening colon has just been read, with `name` its characters backwards, and the
text after it. -/
def readCode? (name : List Char) (s : List Char) : Option (EmojiCode × List Char) :=
  match codeEnd? s with
  | some (selector, mark) =>
    some (⟨name.reverse, selector, ':' :: name.reverse ++ mark⟩, s.drop mark.length)
  | none =>
    match s with
    | [] => none
    | c :: rest => if isBlank c then none else readCode? (c :: name) rest

/-- Replaces the codes of a text. `skip` characters belong to the last code. -/
def replaceEmojiFrom (skip : Nat) : List Char → List Char
  | [] => []
  | c :: rest =>
    match skip with
    | skip + 1 => replaceEmojiFrom skip rest
    | 0 =>
      if c = ':' then
        match readCode? [] rest with
        | some (code, after) => code.text ++ replaceEmojiFrom (rest.length - after.length) rest
        | none => c :: replaceEmojiFrom 0 rest
      else c :: replaceEmojiFrom 0 rest

def replaceEmoji (s : List Char) : List Char := replaceEmojiFrom 0 s

end BuildLauncher.Text
