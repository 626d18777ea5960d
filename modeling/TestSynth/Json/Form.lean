import TestSynth.Json.Value

/-!
# Reading data from JSON

A record is an object, of which unknown members are ignored, or an array of its
fields in order.  A case without data is its name, or an object that holds
`null` under its name.
-/

namespace TestSynth

namespace Json

def string? : Json → Option String
  | .string text => some text
  | _ => none

def boolean? : Json → Option Bool
  | .boolean value => some value
  | _ => none

/-- A natural number of 64 bits. -/
def natural? : Json → Option Nat
  | .integer (.ofNat number) => if number < UInt64.size then some number else none
  | _ => none

def items? : Json → Option (List Json)
  | .array items => some items
  | _ => none

/-- An optional value, of which `null` is none. -/
def nullable? {α : Type} (decode : Json → Option α) : Json → Option (Option α)
  | .null => some none
  | value => (decode value).map some

/-- The name of a case without data. -/
def caseName? : Json → Option String
  | .string name => some name
  | .object [(name, .null)] => some name
  | _ => none

/-- The fields of a record by their names; a field may be missing. -/
def fields? (names : List String) : Json → Option (List (Option Json))
  | .object members => some (names.map fun name => member? name members)
  | .array items =>
      if items.length ≤ names.length then
        some (items.map some ++ List.replicate (names.length - items.length) none)
      else none
  | _ => none

/-- A field that must be there. -/
def required? {α : Type} (decode : Json → Option α) (field : Option Json) : Option α :=
  field.bind decode

/-- A field with a value to take if it is missing. -/
def defaulted? {α : Type} (decode : Json → Option α) (default : α) :
    Option Json → Option α
  | none => some default
  | some value => decode value

end Json

end TestSynth
