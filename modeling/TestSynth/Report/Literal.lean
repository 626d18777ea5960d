import TestSynth.Fault

/-!
# Literals

Values in source text.  Integers are narrowed to the width of the declared type,
and the types that have no literals of their own are written with a cast.
-/

namespace TestSynth

namespace Primitive

/-- The value of the primitive's range that an integer wraps around to.  Only
`char` has no negative values. -/
def narrow : Primitive → Int → Int
  | .byte, value => value.bmod 256
  | .short, value => value.bmod 65536
  | .char, value => value % 65536
  | .int, value => value.bmod 4294967296
  | _, value => value

end Primitive

/-- A character code: quoted if it is printable ASCII, else a cast number. -/
def charLiteral (code : Nat) : String :=
  if code = 0x27 then "'\\''"
  else if code = 0x5C then "'\\\\'"
  else if 0x20 ≤ code ∧ code ≤ 0x7E then "'" ++ (Char.ofNat code).toString ++ "'"
  else "(char) " ++ toString code

/-- A real in the class that names its special values. -/
def realLiteral (className suffix : String) : Decimal.Binary → String
  | .notANumber => className ++ ".NaN"
  | .infinite negative =>
      className ++ if negative then ".NEGATIVE_INFINITY" else ".POSITIVE_INFINITY"
  | .finite negative magnitude => plainLayout.finite negative magnitude ++ suffix

/-- The literal of an integer at a primitive type. -/
def integerLiteral (primitive : Primitive) (value : Int) : String :=
  let narrowed := primitive.narrow value
  match primitive with
  | .byte => "(byte) " ++ toString narrowed
  | .short => "(short) " ++ toString narrowed
  | .char => charLiteral narrowed.toNat
  | .long => toString narrowed ++ "L"
  | _ => toString narrowed

/-- The literal of a scalar at a primitive type. -/
def scalarLiteral (primitive : Primitive) (scalar : Scalar) : Except Fault String :=
  match scalar.coerce? primitive with
  | none => .error (.contract (.scalarOutsideType scalar primitive))
  | some (.integer value) => .ok (integerLiteral primitive value.toInt)
  | some (.boolean value) => .ok (booleanText value)
  | some (.real bits) =>
      match primitive with
      | .float =>
          .ok (realLiteral "Float" "f" (Decimal.BinaryFormat.single.round (realValue bits)))
      | _ => .ok (realLiteral "Double" "" (realValue bits))

/-- The elements of an array in braces, each at the element type. -/
def arrayInitializer (element : Primitive) (array : ScalarArray) : Except Fault String := do
  let elements ← array.elements.mapM (scalarLiteral element)
  return "\x7b" ++ ", ".intercalate elements ++ "\x7d"

/-- The literal of a value at a declared type. -/
def literal : JavaType → Value → Except Fault String
  | .primitive base, .scalar content => scalarLiteral base content
  | .array element, .array content =>
      match (JavaType.array element).basicElement? with
      | some base => arrayInitializer base content
      | none => .error (.contract (.typeWithoutLiteral (.array element)))
  | type, value => .error (.contract (.valueOutsideType value type))

end TestSynth
