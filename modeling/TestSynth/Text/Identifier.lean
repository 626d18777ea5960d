import TestSynth.Text.Alphabetic
import TestSynth.Text.Numeric

/-!
# Identifiers

Names that can be written in generated source, and dotted sequences of them.
-/

namespace TestSynth.Text

/-- A letter, an underscore or a dollar sign. -/
def startsIdentifier (character : Char) : Bool :=
  isAlphabetic character || character == '_' || character == '$'

/-- A letter, a number, an underscore or a dollar sign. -/
def continuesIdentifier (character : Char) : Bool :=
  isAlphabetic character || isNumeric character || character == '_' || character == '$'

/-- A non-empty sequence of identifier characters that starts as one. -/
def isIdentifierList : List Char → Bool
  | [] => false
  | first :: rest => startsIdentifier first && rest.all continuesIdentifier

def isIdentifier (text : String) : Bool :=
  isIdentifierList text.toList

/-- The pieces between the occurrences of a separator; there is always one. -/
def pieces (separator : Char) : List Char → List (List Char)
  | [] => [[]]
  | character :: rest =>
      if character = separator then
        [] :: pieces separator rest
      else
        (pieces separator rest).modifyHead (character :: ·)

/-- Identifiers joined by dots. -/
def isDottedIdentifier (text : String) : Bool :=
  (pieces '.' text.toList).all isIdentifierList

end TestSynth.Text
