import TestSynth.Decimal.Reading
import TestSynth.Text.Reader

/-!
# TOML numbers and moments
-/

namespace TestSynth.Toml

open Text

/-- Digits of a class, among which single underscores may stand. -/
def readDigits (belongs : Char → Bool) : Reader (List Char) := do
  let first ← Reader.oneOf belongs
  let rest ← Reader.repeated
    (Reader.oneOf belongs <|> (do Reader.char '_'; Reader.oneOf belongs))
  pure (first :: rest)

/-- Whether a minus sign is read; a plus sign may stand in its place. -/
def readSign : Reader Bool := do
  let sign ← Reader.optional (Reader.oneOf fun character => character == '+' || character == '-')
  pure (sign == some '-')

/-- A zero, or digits that do not start with one. -/
def readWhole : Reader (List Char) := do
  match ← Reader.peek? with
  | some '0' => do Reader.char '0'; pure ['0']
  | _ => readDigits isDigit

/-- An integer of 64 bits. -/
def inRange (value : Int) : Reader Int :=
  if Int64.minValue.toInt ≤ value ∧ value ≤ Int64.maxValue.toInt then pure value
  else Reader.refuse

def readBased (mark : String) (base : Nat) (belongs : Char → Bool) : Reader Int := do
  Reader.text mark
  let digits ← readDigits belongs
  inRange (numberOfDigits base digits)

def readDecimalInteger : Reader Int := do
  let negative ← readSign
  let digits ← readWhole
  let number : Int := numberOfDigits 10 digits
  inRange (if negative then -number else number)

def readInteger : Reader Int :=
  readBased "0x" 16 isHexDigit <|>
    readBased "0o" 8 (fun character => '0' ≤ character && character ≤ '7') <|>
    readBased "0b" 2 (fun character => character == '0' || character == '1') <|>
    readDecimalInteger

def readFraction : Reader (List Char) := do
  Reader.char '.'
  readDigits isDigit

def readPower : Reader Int := do
  let _ ← Reader.oneOf fun character => character == 'e' || character == 'E'
  let negative ← readSign
  let digits ← readDigits isDigit
  let power : Int := numberOfDigits 10 digits
  pure (if negative then -power else power)

/-- A number with a fraction or a power.  A positive one may not be too large for
64 bits. -/
def readFinite : Reader Unit := do
  let negative ← readSign
  let whole ← readWhole
  let fraction ← Reader.optional readFraction
  let power ← Reader.optional readPower
  let places := fraction.getD []
  let bits :=
    Decimal.BinaryFormat.double.bitsOfDigits
      { coefficient := numberOfDigits 10 (whole ++ places)
        exponent := power.getD 0 - places.length }
  if fraction.isNone && power.isNone then Reader.refuse
  else if !negative && bits == Decimal.BinaryFormat.double.infinityBits then Reader.refuse
  else pure ()

def readSpecial : Reader Unit := do
  let _ ← readSign
  Reader.text "inf" <|> Reader.text "nan"

/-- A real number, as it is written. -/
def readReal : Reader String :=
  String.ofList <$> Reader.taken (readFinite <|> readSpecial)

/-- A number of exactly so many digits in a range. -/
def readField (count low high : Nat) : Reader Nat := do
  let digits ← Reader.takeExactly isDigit count
  let number := numberOfDigits 10 digits
  if low ≤ number ∧ number ≤ high then pure number else Reader.refuse

def isLeapYear (year : Nat) : Bool :=
  year % 4 == 0 && (year % 100 != 0 || year % 400 == 0)

def daysInMonth (year month : Nat) : Nat :=
  if month = 2 then (if isLeapYear year then 29 else 28)
  else if month = 4 || month = 6 || month = 9 || month = 11 then 30
  else 31

def readDate : Reader Unit := do
  let year ← readField 4 0 9999
  Reader.char '-'
  let month ← readField 2 1 12
  Reader.char '-'
  let _ ← readField 2 1 (daysInMonth year month)

def readTime : Reader Unit := do
  let _ ← readField 2 0 23
  Reader.char ':'
  let _ ← readField 2 0 59
  Reader.char ':'
  let _ ← readField 2 0 60
  let _ ← Reader.optional (do Reader.char '.'; Reader.takeSome isDigit)

def readOffset : Reader Unit := do
  match ← Reader.oneOf fun character => "Zz+-".toList.contains character with
  | '+' | '-' => do
      let _ ← readField 2 0 23
      Reader.char ':'
      let _ ← readField 2 0 59
  | _ => pure ()

def readTimeOfDate : Reader Unit := do
  let _ ← Reader.oneOf fun character => "Tt ".toList.contains character
  readTime
  let _ ← Reader.optional readOffset

/-- A date, a time or both, as it is written. -/
def readMoment : Reader String :=
  String.ofList <$>
    Reader.taken ((do readDate; let _ ← Reader.optional readTimeOfDate) <|> readTime)

end TestSynth.Toml
