import TestSynth.Text.Ranges

/-!
# Blank characters

The characters with the Unicode property White_Space, and cutting them off the
ends of a text.
-/

namespace TestSynth.Text

/-- Ranges of the Unicode property White_Space. -/
def blankRanges : Ranges :=
  [ (0x9, 0xD), (0x20, 0x20), (0x85, 0x85), (0xA0, 0xA0), (0x1680, 0x1680), (0x2000, 0x200A),
    (0x2028, 0x2029), (0x202F, 0x202F), (0x205F, 0x205F), (0x3000, 0x3000) ]

/-- Whether a character has the Unicode property White_Space. -/
def isBlank (character : Char) : Bool :=
  blankRanges.contains character

/-- Drops the blank characters at both ends. -/
def trimBlanks (characters : List Char) : List Char :=
  ((characters.dropWhile isBlank).reverse.dropWhile isBlank).reverse

/-- The text without the blank characters at both ends. -/
def trim (text : String) : String :=
  String.ofList (trimBlanks text.toList)

end TestSynth.Text
