import TapeMachine.Text.Blank
import TapeMachine.Text.Lines
import TapeMachine.Text.NameTable
import TapeMachine.Text.Numeral

namespace TapeMachine.Text

/-- The names of letters that begin a syllable. One of them is silent. -/
def initialLetters : List String :=
  ["G", "GG", "N", "D", "DD", "R", "M", "B", "BB", "S", "SS", "", "J", "JJ", "C", "K", "T", "P",
    "H"]

/-- The names of letters in the middle of a syllable. -/
def middleLetters : List String :=
  ["A", "AE", "YA", "YAE", "EO", "E", "YEO", "YE", "O", "WA", "WAE", "OE", "YO", "U", "WEO", "WE",
    "WI", "YU", "EU", "YI", "I"]

/-- The names of letters that end a syllable. There need not be one. -/
def finalLetters : List String :=
  ["", "G", "GG", "GS", "N", "NJ", "NH", "D", "L", "LG", "LM", "LB", "LS", "LT", "LP", "LH", "M",
    "B", "BS", "S", "SS", "NG", "J", "C", "K", "T", "P", "H"]

/-- What follows the longest of some words at the front of a text. -/
def afterLongest? (words : List String) (text : List Char) : Option (List Char) :=
  let fitting := words.filter fun word => word.toList.isPrefixOf text
  (fitting.map String.length).max?.map text.drop

/-- Whether a text names a syllable by its letters. -/
def isSyllable (text : List Char) : Bool :=
  (do
    let rest ← afterLongest? initialLetters text
    let rest ← afterLongest? middleLetters rest
    afterLongest? finalLetters rest) == some []

/-- The code points whose names are a word and the code point. -/
def numberedNames : List (String × List (Nat × Nat)) :=
  [("CJK COMPATIBILITY IDEOGRAPH-", [(0xf900, 0xfa6d), (0xfa70, 0xfad9), (0x2f800, 0x2fa1d)]),
    ("KHITAN SMALL SCRIPT CHARACTER-", [(0x18b00, 0x18cd5)]),
    ("NUSHU CHARACTER-", [(0x1b170, 0x1b2fb)])]

/-- The code points of the unified ideographs. -/
def ideographs : List (Nat × Nat) :=
  [(0x3400, 0x4dbf), (0x4e00, 0x9fff), (0x20000, 0x2a6df), (0x2a700, 0x2b738), (0x2b740, 0x2b81d),
    (0x2b820, 0x2cea1), (0x2ceb0, 0x2ebe0), (0x30000, 0x3134a)]

/-- Whether hexadecimal digits, capital ones, so many as a code point has, lie in some ranges. -/
def isCodePoint (ranges : List (Nat × Nat)) (digits : List Char) : Bool :=
  (digits.length == 4 || digits.length == 5) &&
    (digits.all fun c => isAsciiDigit c || 'A' ≤ c && c ≤ 'F') &&
    inRanges ranges (ofHexDigits digits)

/-- What follows a word at the front of a text. -/
def afterWord? (word : String) (text : List Char) : Option (List Char) :=
  if word.toList.isPrefixOf text then some (text.drop word.length) else none

/-- Whether a character of a table belongs to words; a small letter begins the next name. -/
def isInWords (c : Char) : Bool :=
  !c.isLower

/-- Whether the words of a name make up one of the names in a table. The words of the name before
them are known. -/
def isListed (name last : List (List Char)) (table : List Char) : Bool :=
  match table with
  | [] => false
  | shared :: rest =>
    have : (rest.dropWhile isInWords).length ≤ rest.length := (List.dropWhile_sublist _).length_le
    let here := last.take (shared.toNat - 'a'.toNat) ++ splitOn ' ' (rest.takeWhile isInWords)
    name == here || isListed name here (rest.dropWhile isInWords)
termination_by table.length

/-- Whether a text is the name of a character. Only names made up of letters and those of the
unified ideographs have to be in capitals. -/
def isCharacterName (name : List Char) : Bool :=
  let capital := name.map Char.toUpper
  (afterWord? "HANGUL SYLLABLE " name).any isSyllable ||
    (afterWord? "CJK UNIFIED IDEOGRAPH-" name).any (isCodePoint ideographs) ||
    (numberedNames.any fun (word, ranges) =>
      (afterWord? word capital).any (isCodePoint ranges)) ||
    isListed (splitOn ' ' capital) [] (nameLines.flatMap String.toList)

end TapeMachine.Text
