import TestSynth.Decimal.Reading
import TestSynth.Json.Value
import TestSynth.Text.Reader

/-!
# Reading JSON text

A number without point and power is an integer if it fits into 64 bits, signed
or unsigned, and is not a negative zero; every other number is a real.
-/

namespace TestSynth

namespace Json

open Text

def skipBlanks : Reader Unit := do
  let _ ← Reader.takeWhile fun character =>
    character == ' ' || character == '\t' || character == '\n' || character == '\r'

/-- Four digits of base sixteen. -/
def readUnit : Reader Nat :=
  numberOfDigits 16 <$> Reader.takeExactly isHexDigit 4

/-- The character of an escaped unit; the two halves of a pair stand together. -/
def readEscapedUnit : Reader Char := do
  let unit ← readUnit
  if 0xD800 ≤ unit && unit < 0xDC00 then
    Reader.text "\\u"
    let low ← readUnit
    if 0xDC00 ≤ low && low < 0xE000 then
      pure (Char.ofNat (0x10000 + (unit - 0xD800) * 0x400 + (low - 0xDC00)))
    else Reader.refuse
  else if 0xDC00 ≤ unit && unit < 0xE000 then Reader.refuse
  else pure (Char.ofNat unit)

/-- The character that follows a backslash. -/
def readEscape : Reader Char := do
  match ← Reader.oneOf fun _ => true with
  | '"' => pure '"'
  | '\\' => pure '\\'
  | '/' => pure '/'
  | 'b' => pure '\x08'
  | 'f' => pure '\x0c'
  | 'n' => pure '\n'
  | 'r' => pure '\r'
  | 't' => pure '\t'
  | 'u' => readEscapedUnit
  | _ => Reader.refuse

/-- A character inside a string. -/
def readChar : Reader Char := do
  let first ← Reader.oneOf fun character => character != '"' && 0x20 ≤ character.toNat
  if first = '\\' then readEscape else pure first

def readString : Reader String := do
  Reader.char '"'
  let characters ← Reader.repeated readChar
  Reader.char '"'
  pure (String.ofList characters)

/-- Digits without a needless zero in front. -/
def readWhole : Reader (List Char) := do
  let digits ← Reader.takeSome isDigit
  if digits.head? = some '0' && digits.length ≠ 1 then Reader.refuse else pure digits

def readFraction : Reader (List Char) := do
  Reader.char '.'
  Reader.takeSome isDigit

def readPower : Reader Int := do
  let _ ← Reader.oneOf fun character => character == 'e' || character == 'E'
  let sign ← Reader.optional (Reader.oneOf fun character => character == '+' || character == '-')
  let digits ← Reader.takeSome isDigit
  let power : Int := numberOfDigits 10 digits
  pure (if sign = some '-' then -power else power)

/-- Whether an integer fits into 64 bits, signed or unsigned. -/
def fitsWord (value : Int) : Bool :=
  Int64.minValue.toInt ≤ value && value < UInt64.size

def readNumber : Reader Json := do
  let negative := (← Reader.optional (Reader.char '-')).isSome
  let whole ← readWhole
  let fraction ← Reader.optional readFraction
  let power ← Reader.optional readPower
  let number := numberOfDigits 10 whole
  let signed : Int := if negative then -number else number
  if fraction.isNone && power.isNone && fitsWord signed && !(negative && number == 0) then
    pure (.integer signed)
  else
    let places := fraction.getD []
    let format := Decimal.BinaryFormat.double
    let bits :=
      format.bitsOfDigits
        { coefficient := numberOfDigits 10 (whole ++ places)
          exponent := power.getD 0 - places.length }
    if bits = format.infinityBits then Reader.refuse
    else pure (.real (.ofNat (bits + if negative then format.signBit else 0)))

/-- Values between two brackets, separated by commas. -/
def readSequence {α : Type} (opening closing : Char) (reader : Reader α) :
    Reader (List α) := do
  Reader.char opening
  skipBlanks
  let items ← Reader.optional (Reader.separated reader (Reader.char ','))
  Reader.char closing
  pure (items.getD [])

def readMember (reader : Reader Json) : Reader (String × Json) := do
  skipBlanks
  let name ← readString
  skipBlanks
  Reader.char ':'
  let value ← reader
  pure (name, value)

/-- A value with blanks around it, nested to at most the given depth. -/
def readValue : Nat → Reader Json
  | 0 => Reader.refuse
  | depth + 1 => do
      skipBlanks
      let value ←
        match ← Reader.peek? with
        | some 'n' => do Reader.text "null"; pure Json.null
        | some 't' => do Reader.text "true"; pure (Json.boolean true)
        | some 'f' => do Reader.text "false"; pure (Json.boolean false)
        | some '"' => Json.string <$> readString
        | some '[' => Json.array <$> readSequence '[' ']' (readValue depth)
        | some '\x7b' => Json.ofMembers <$> readSequence '\x7b' '\x7d' (readMember (readValue depth))
        | _ => readNumber
      skipBlanks
      pure value

/-- The value a text writes. -/
def ofText? (text : String) : Option Json :=
  (readValue (text.length + 1)).readAll? text.toList

end Json

end TestSynth
