import TestSynth.Value.Scalar

/-!
# Values

Fully resolved arguments and results: scalars and one-dimensional arrays.
-/

namespace TestSynth

/-- A resolved array with the element type it was declared with. -/
structure ScalarArray where
  element : Primitive
  elements : List Scalar
  deriving DecidableEq

inductive Value
  | scalar (content : Scalar)
  | array (content : ScalarArray)
  deriving DecidableEq

namespace Value

def scalar? : Value → Option Scalar
  | .scalar content => some content
  | .array _ => none

def array? : Value → Option ScalarArray
  | .array content => some content
  | .scalar _ => none

/-- The value in messages; the elements of an array stand in brackets. -/
def text : Value → String
  | .scalar content => content.text
  | .array content => "[" ++ ", ".intercalate (content.elements.map Scalar.text) ++ "]"

end Value

end TestSynth
