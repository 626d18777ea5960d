import TestSynth.Json.Value

/-!
# JSON text

The compact form has no blanks.  The indented form has one member or element a
line, two spaces further in than its container.
-/

namespace TestSynth

namespace Json

/-- A digit of base sixteen, in lower case. -/
def hexDigit (value : Nat) : Char :=
  Nat.digitChar (value % 16)

/-- A character inside a string: quotes, backslashes and control characters are
escaped, everything else stands for itself. -/
def escapeChar (character : Char) : List Char :=
  if character = '"' then ['\\', '"']
  else if character = '\\' then ['\\', '\\']
  else if character = '\x08' then ['\\', 'b']
  else if character = '\x0c' then ['\\', 'f']
  else if character = '\n' then ['\\', 'n']
  else if character = '\r' then ['\\', 'r']
  else if character = '\t' then ['\\', 't']
  else if character.toNat < 0x20 then
    ['\\', 'u', '0', '0', hexDigit (character.toNat / 16), hexDigit character.toNat]
  else [character]

/-- A string in quotes. -/
def quote (text : String) : String :=
  "\"" ++ String.ofList (text.toList.flatMap escapeChar) ++ "\""

/-- Reals in documents are written with the fewest digits that identify them,
with a point from a hundred-thousandth up to below `10 ^ 16`. -/
def documentLayout : Decimal.Layout :=
  { lowest := -5, highest := 16, plus := "+", tie := .toEven }

/-- JSON has no infinities and no value that is no number; `null` stands for
each of them. -/
def realNumber (bits : UInt64) : String :=
  match realValue bits with
  | .finite negative magnitude => documentLayout.finite negative magnitude
  | _ => "null"

mutual

def compact : Json → String
  | .null => "null"
  | .boolean value => booleanText value
  | .integer value => toString value
  | .real bits => realNumber bits
  | .string text => quote text
  | .array items => "[" ++ ",".intercalate (compactItems items) ++ "]"
  | .object members => "\x7b" ++ ",".intercalate (compactMembers members) ++ "\x7d"

def compactItems : List Json → List String
  | [] => []
  | item :: rest => item.compact :: compactItems rest

def compactMembers : List (String × Json) → List String
  | [] => []
  | (name, value) :: rest => (quote name ++ ":" ++ value.compact) :: compactMembers rest

end

/-- The start of a line at a nesting depth. -/
def lineStart (depth : Nat) : String :=
  "\n" ++ String.ofList (List.replicate (2 * depth) ' ')

mutual

/-- The indented form of a value that stands at a nesting depth. -/
def indented (depth : Nat) : Json → String
  | .array [] => "[]"
  | .array (item :: rest) =>
      "[" ++ ",".intercalate (indentedItems (depth + 1) (item :: rest)) ++ lineStart depth ++ "]"
  | .object [] => "\x7b\x7d"
  | .object (member :: rest) =>
      "\x7b" ++ ",".intercalate (indentedMembers (depth + 1) (member :: rest)) ++
        lineStart depth ++ "\x7d"
  | value => value.compact

def indentedItems (depth : Nat) : List Json → List String
  | [] => []
  | item :: rest => (lineStart depth ++ item.indented depth) :: indentedItems depth rest

def indentedMembers (depth : Nat) : List (String × Json) → List String
  | [] => []
  | (name, value) :: rest =>
      (lineStart depth ++ quote name ++ ": " ++ value.indented depth) ::
        indentedMembers depth rest

end

end Json

end TestSynth
