/-!
# Readers

A reader takes a value off the front of a text or refuses the text.  An
alternative starts again where the refused one started.
-/

namespace TestSynth.Text

/-- Reads a value off the front of a list of characters. -/
abbrev Reader := StateT (List Char) Option

namespace Reader

/-- The whole text as a value, with nothing left over. -/
def readAll? {α : Type} (reader : Reader α) (characters : List Char) : Option α :=
  match reader.run characters with
  | some (value, []) => some value
  | _ => none

def refuse {α : Type} : Reader α :=
  fun _ => none

/-- The next character, left where it is. -/
def peek? : Reader (Option Char) :=
  fun characters => some (characters.head?, characters)

/-- A character of a class. -/
def oneOf (belongs : Char → Bool) : Reader Char :=
  fun
  | [] => none
  | character :: rest => if belongs character then some (character, rest) else none

def char (expected : Char) : Reader Unit := do
  let _ ← oneOf (· == expected)

/-- Exactly the given characters. -/
def chars : List Char → Reader Unit
  | [] => pure ()
  | expected :: rest => do
      char expected
      chars rest

def text (expected : String) : Reader Unit :=
  chars expected.toList

/-- As many characters of a class as there are. -/
def takeWhile (belongs : Char → Bool) : Reader (List Char) :=
  fun characters => some (characters.takeWhile belongs, characters.dropWhile belongs)

/-- As many characters of a class as there are, and at least one. -/
def takeSome (belongs : Char → Bool) : Reader (List Char) := do
  let taken ← takeWhile belongs
  if taken.isEmpty then refuse else pure taken

/-- Exactly so many characters of a class. -/
def takeExactly (belongs : Char → Bool) : Nat → Reader (List Char)
  | 0 => pure []
  | count + 1 => do
      let first ← oneOf belongs
      let rest ← takeExactly belongs count
      pure (first :: rest)

def optional {α : Type} (reader : Reader α) : Reader (Option α) :=
  (some <$> reader) <|> pure none

/-- The end of the text. -/
def atEnd : Reader Unit :=
  fun
  | [] => some ((), [])
  | _ :: _ => none

/-- Values until one is refused; at most `fuel` of them. -/
def many {α : Type} (reader : Reader α) : Nat → Reader (List α)
  | 0 => pure []
  | fuel + 1 => do
      match ← optional reader with
      | none => pure []
      | some first =>
          let rest ← many reader fuel
          pure (first :: rest)

/-- How many characters are left, which bounds any repetition over them. -/
def remaining : Reader Nat :=
  fun characters => some (characters.length, characters)

/-- Values until one is refused. -/
def repeated {α : Type} (reader : Reader α) : Reader (List α) := do
  many reader (← remaining)

/-- The characters that a reader takes. -/
def taken {α : Type} (reader : Reader α) : Reader (List Char) :=
  fun characters =>
    match reader.run characters with
    | some (_, rest) => some (characters.take (characters.length - rest.length), rest)
    | none => none

/-- At least one value, with separators between them.  A separator that no value
follows is left where it is. -/
def separated {α : Type} (reader : Reader α) (separator : Reader Unit) :
    Reader (List α) := do
  let first ← reader
  let rest ← repeated (do separator; reader)
  pure (first :: rest)

end Reader

def isDigit (character : Char) : Bool :=
  '0' ≤ character && character ≤ '9'

/-- The value of a digit in a base up to sixteen. -/
def digitValue (character : Char) : Nat :=
  if isDigit character then character.toNat - '0'.toNat
  else if 'a' ≤ character && character ≤ 'f' then character.toNat - 'a'.toNat + 10
  else character.toNat - 'A'.toNat + 10

def isHexDigit (character : Char) : Bool :=
  isDigit character || ('a' ≤ character && character ≤ 'f') ||
    ('A' ≤ character && character ≤ 'F')

/-- The number a sequence of digits writes in a base. -/
def numberOfDigits (base : Nat) (digits : List Char) : Nat :=
  digits.foldl (fun number digit => number * base + digitValue digit) 0

end TestSynth.Text
