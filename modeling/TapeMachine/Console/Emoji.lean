import TapeMachine.Console.EmojiTable
import TapeMachine.Text.Blank
import TapeMachine.Text.Lines
import TapeMachine.Text.Lower
import TapeMachine.Text.Numeral

namespace TapeMachine.Console

open Text

/-- One point of an emoji as a table writes it, in hexadecimal digits or with a star for a tone. -/
def emojiPoint (tone : Option Nat) (written : List Char) : Option Nat :=
  if written = ['*'] then tone else some (ofHexDigits written)

/-- The entry of a name in lines of a table. -/
def emojiEntry? (lines : List String) (name : List Char) : Option (List Char) :=
  lines.findSome? fun line =>
    (splitOn ' ' line.toList).findSome? fun entry =>
      if (name ++ [':']).isPrefixOf entry then some (entry.drop (name.length + 1)) else none

def emojiOf (tone : Option Nat) (entry : List Char) : List Char :=
  ((splitOn '.' entry).filterMap (emojiPoint tone)).map Char.ofNat

/-- The tones of skin, as names of emojis end in them. -/
def skinTones : List (String × Nat) :=
  [("_light_skin_tone", 0x1f3fb), ("_medium-light_skin_tone", 0x1f3fc),
    ("_medium_skin_tone", 0x1f3fd), ("_medium-dark_skin_tone", 0x1f3fe),
    ("_dark_skin_tone", 0x1f3ff)]

def withoutEnding? (ending name : List Char) : Option (List Char) :=
  if ending.isSuffixOf name then some (name.take (name.length - ending.length)) else none

/-- The emoji of a name in small letters. -/
def emoji? (name : List Char) : Option (List Char) :=
  match emojiEntry? emojiLines name with
  | some entry => some (emojiOf none entry)
  | none =>
    skinTones.findSome? fun (ending, tone) => do
      let base ← withoutEnding? ending.toList name
      return emojiOf (some tone) (← emojiEntry? tonedEmojiLines base)

/-- The name in an emoji code, and the character that asks for its look as text or as a picture. -/
def emojiVariant (code : List Char) : List Char × List Char :=
  match withoutEnding? "-text".toList code, withoutEnding? "-emoji".toList code with
  | some name, _ => (name, ['\ufe0e'])
  | none, some name => (name, ['\ufe0f'])
  | none, none => (code, [])

/-- What stands for an emoji code between colons; a code of no emoji stands for itself. -/
def emojiText (code : List Char) : List Char :=
  let (name, variant) := emojiVariant code
  match emoji? (lowered name) with
  | some emoji => emoji ++ variant
  | none => ':' :: code ++ [':']

/-- A code after its opening colon, and what follows the closing one. A code has no blank in it. -/
def code? (text : List Char) : Option (List Char × List Char) :=
  let code := text.takeWhile fun c => c != ':' && !isBlank c
  match text.drop code.length with
  | ':' :: rest => some (code, rest)
  | _ => none

theorem code?_length {text code rest : List Char} (h : code? text = some (code, rest)) :
    rest.length < text.length := by
  unfold code? at h
  simp only at h
  split at h
  next rest' hr =>
    cases h
    have := congrArg List.length hr
    simp only [List.length_drop, List.length_cons] at this
    omega
  · cases h

/-- A text with emojis in the place of their codes. -/
def withEmojis (text : List Char) : List Char :=
  match text with
  | [] => []
  | c :: rest =>
    if c = ':' then
      match h : code? rest with
      | some (code, rest') =>
        have := code?_length h
        emojiText code ++ withEmojis rest'
      | none => c :: withEmojis rest
    else c :: withEmojis rest
termination_by text.length

end TapeMachine.Console
