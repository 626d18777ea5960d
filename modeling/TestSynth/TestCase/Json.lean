import TestSynth.Method.Json
import TestSynth.TestCase.Basic

/-!
# Test cases as JSON
-/

namespace TestSynth

def ThrownException.toJson (exception : ThrownException) : Json :=
  .object
    [("type_name", .string exception.typeName), ("message", .orNull .string exception.message)]

/-- An outcome names its kind; a value or an exception follows. -/
def Outcome.toJson : Outcome → Json
  | .void => .object [("kind", .string "void")]
  | .returned value => .object [("kind", .string "returned"), ("value", value.toJson)]
  | .threw exception => .object [("kind", .string "threw"), ("value", exception.toJson)]

/-- An argument under its ordinal. -/
def Argument.toMember (argument : Argument) : String × Json :=
  (toString argument.parameter.ordinal,
    .object
      [("binding", argument.parameter.toJson), ("value", argument.value.toJson)])

def TestCase.toJson (test : TestCase) : Json :=
  .object
    [("method", test.method.toJson),
      ("args", .object (test.arguments.map Argument.toMember)),
      ("outcome", test.outcome.toJson)]

end TestSynth
