import TestSynth.Text.Reader

/-!
# TOML strings, keys and blanks
-/

namespace TestSynth.Toml

open Text

/-- A character that may stand in a comment or a quoted text: a tab, or anything
but a control character. -/
def isPlain (character : Char) : Bool :=
  character == '\t' || (0x20 ≤ character.toNat && character.toNat ≠ 0x7F)

def readBlanks : Reader Unit := do
  let _ ← Reader.takeWhile fun character => character == ' ' || character == '\t'

/-- A line feed, or a carriage return with a line feed. -/
def readLineEnd : Reader Unit :=
  Reader.char '\n' <|> Reader.text "\r\n"

def readComment : Reader Unit := do
  Reader.char '#'
  let _ ← Reader.takeWhile isPlain

/-- The end of a line or of the whole text. -/
def readLineEndOrEnd : Reader Unit :=
  readLineEnd <|> Reader.atEnd

/-- What may follow on the line of a header or a value. -/
def readLineRest : Reader Unit := do
  readBlanks
  let _ ← Reader.optional readComment
  readLineEndOrEnd

/-- Blanks, comments and line ends between the elements of an array. -/
def readGap : Reader Unit := do
  readBlanks
  let _ ← Reader.repeated do
    let _ ← Reader.optional readComment
    readLineEnd
    readBlanks

/-- The character of a code, unless it is half of a pair or too large. -/
def charOfCode? (code : Nat) : Option Char :=
  if code < 0xD800 || (0xE000 ≤ code && code < 0x110000) then some (Char.ofNat code)
  else none

def readCoded (digits : Nat) : Reader Char := do
  let code ← Reader.takeExactly isHexDigit digits
  match charOfCode? (numberOfDigits 16 code) with
  | some character => pure character
  | none => Reader.refuse

/-- An escaped character. -/
def readEscape : Reader Char := do
  Reader.char '\\'
  match ← Reader.oneOf fun _ => true with
  | 'b' => pure '\x08'
  | 'f' => pure '\x0c'
  | 'n' => pure '\n'
  | 'r' => pure '\r'
  | 't' => pure '\t'
  | '"' => pure '"'
  | '\\' => pure '\\'
  | 'u' => readCoded 4
  | 'U' => readCoded 8
  | _ => Reader.refuse

/-- A character of a text in double quotes. -/
def readBasicChar : Reader Char :=
  (Reader.oneOf fun character => isPlain character && character != '"' && character != '\\') <|>
    readEscape

def readBasic : Reader String := do
  Reader.char '"'
  let characters ← Reader.repeated readBasicChar
  Reader.char '"'
  pure (String.ofList characters)

def readLiteral : Reader String := do
  Reader.char '\''
  let characters ← Reader.takeWhile fun character => isPlain character && character != '\''
  Reader.char '\''
  pure (String.ofList characters)

/-- A backslash that ends a line takes all blanks and line ends after it away. -/
def readContinuation : Reader (List Char) := do
  Reader.char '\\'
  readBlanks
  readLineEnd
  let _ ← Reader.repeated do
    readBlanks
    readLineEnd
  readBlanks
  pure []

/-- A line end inside a text of several lines. -/
def readInnerLineEnd : Reader (List Char) := do
  readLineEnd
  pure ['\n']

/-- A piece of a text in three double quotes that is not a quote. -/
def readMultilineBasicPiece : Reader (List Char) :=
  readContinuation <|> ((fun character => [character]) <$> readBasicChar) <|> readInnerLineEnd

def readMultilineLiteralPiece : Reader (List Char) :=
  ((fun character => [character]) <$>
      Reader.oneOf fun character => isPlain character && character != '\'') <|>
    readInnerLineEnd

/-- The pieces up to three quotes.  One or two quotes may stand anywhere in the
text, also right before the three that end it. -/
def readMultilineBody (quote : Char) (piece : Reader (List Char)) :
    Nat → Reader (List Char)
  | 0 => Reader.refuse
  | fuel + 1 => do
      let taken ← piece <|> Reader.takeSome (· == quote)
      if taken.head? = some quote && taken.all (· == quote) && 3 ≤ taken.length then
        if taken.length ≤ 5 then pure (taken.drop 3) else Reader.refuse
      else
        let rest ← readMultilineBody quote piece fuel
        pure (taken ++ rest)

/-- A text between three quotes; a line end right after the opening is dropped. -/
def readMultiline (quote : Char) (piece : Reader (List Char)) : Reader String := do
  Reader.chars [quote, quote, quote]
  let _ ← Reader.optional readLineEnd
  let characters ← readMultilineBody quote piece ((← Reader.remaining) + 1)
  pure (String.ofList characters)

def readText : Reader String :=
  readMultiline '"' readMultilineBasicPiece <|> readBasic <|>
    readMultiline '\'' readMultilineLiteralPiece <|> readLiteral

/-- A key without quotes. -/
def readBareKey : Reader String :=
  String.ofList <$> Reader.takeSome fun character =>
    character.isAlphanum || character == '_' || character == '-'

def readSimpleKey : Reader String := do
  readBlanks
  let key ← readBasic <|> readLiteral <|> readBareKey
  readBlanks
  pure key

/-- The nesting depth at which a document is refused. -/
def depthLimit : Nat :=
  80

/-- A dotted key: the keys on the way and the last one. -/
def readKey : Reader (List String × String) := do
  let keys ← Reader.separated readSimpleKey (Reader.char '.')
  match keys.getLast? with
  | some last => if depthLimit ≤ keys.length then Reader.refuse else pure (keys.dropLast, last)
  | none => Reader.refuse

end TestSynth.Toml
