import TestSynth.TestCase.Basic

/-!
# Identity of test cases

Two test cases are the same if their methods, arguments and outcomes are.  The
message of an exception does not count, since a test only checks its type.

The fingerprint of a test case is a flat sequence that identifies it: lists are
preceded by their lengths, texts are followed by a mark that no text contains,
and every choice is preceded by its number.
-/

namespace TestSynth

/-- Exceptions are the same if their types are. -/
def ThrownException.same (left right : ThrownException) : Bool :=
  left.typeName == right.typeName

def Outcome.same : Outcome → Outcome → Bool
  | .void, .void => true
  | .returned left, .returned right => left == right
  | .threw left, .threw right => left.same right
  | _, _ => false

def TestCase.same (left right : TestCase) : Bool :=
  left.method == right.method && left.arguments == right.arguments &&
    left.outcome.same right.outcome

/-- A piece of a fingerprint. -/
inductive Mark
  | choice (number : Nat)
  | length (count : Nat)
  | word (bits : UInt64)
  | index (number : Nat)
  | flag (value : Bool)
  | text (content : String)
  | textEnd
  deriving DecidableEq

namespace Mark

def ofText (content : String) : List Mark :=
  [.text content, .textEnd]

def ofList {α : Type} (marks : α → List Mark) (items : List α) : List Mark :=
  .length items.length :: items.flatMap marks

end Mark

def Primitive.marks : Primitive → List Mark
  | .byte => [.choice 0]
  | .char => [.choice 1]
  | .short => [.choice 2]
  | .int => [.choice 3]
  | .long => [.choice 4]
  | .float => [.choice 5]
  | .double => [.choice 6]
  | .boolean => [.choice 7]

def JavaType.marks : JavaType → List Mark
  | .void => [.choice 0]
  | .primitive base => .choice 1 :: base.marks
  | .array element => .choice 2 :: element.marks
  | .reference name => .choice 3 :: Mark.ofText name

def Parameter.marks (parameter : Parameter) : List Mark :=
  Mark.ofText parameter.name ++ parameter.type.marks ++
    [.index parameter.ordinal, .flag parameter.isReceiver]

def DeclaringClass.marks (owner : DeclaringClass) : List Mark :=
  Mark.ofText owner.name ++ [.flag owner.hasDefaultConstructor]

def Method.marks (method : Method) : List Mark :=
  method.declaringClass.marks ++ Mark.ofText method.name ++ [.flag method.isStatic] ++
    Mark.ofList Parameter.marks method.parameters ++ method.returnType.marks ++
    Mark.ofList Mark.ofText method.thrown

def Scalar.marks : Scalar → List Mark
  | .integer value => [.choice 0, .word value.toUInt64]
  | .real bits => [.choice 1, .word bits]
  | .boolean value => [.choice 2, .flag value]

def Value.marks : Value → List Mark
  | .scalar content => .choice 0 :: content.marks
  | .array content =>
      .choice 1 :: content.element.marks ++ Mark.ofList Scalar.marks content.elements

def Outcome.marks : Outcome → List Mark
  | .void => [.choice 0]
  | .returned value => .choice 1 :: value.marks
  | .threw exception => .choice 2 :: Mark.ofText exception.typeName

def Argument.marks (argument : Argument) : List Mark :=
  .index argument.parameter.ordinal :: argument.parameter.marks ++ argument.value.marks

/-- The fingerprint of a test case. -/
def TestCase.fingerprint (test : TestCase) : List Mark :=
  test.method.marks ++ Mark.ofList Argument.marks test.arguments ++ test.outcome.marks

/-- Outcomes that are the same differ in messages at most, which leave no mark. -/
theorem Outcome.marks_eq_of_same {left right : Outcome} (same : left.same right = true) :
    left.marks = right.marks := by
  cases left with
  | void =>
      cases right with
      | void => rfl
      | returned value => cases same
      | threw exception => cases same
  | returned value =>
      cases right with
      | void => cases same
      | returned other => rw [eq_of_beq same]
      | threw exception => cases same
  | threw exception =>
      cases right with
      | void => cases same
      | returned value => cases same
      | threw other =>
          have typeName : exception.typeName = other.typeName := eq_of_beq same
          simp only [Outcome.marks, typeName]

namespace TestCase

theorem same_iff {left right : TestCase} :
    left.same right = true ↔
      left.method = right.method ∧ left.arguments = right.arguments ∧
        left.outcome.same right.outcome = true := by
  simp [same, and_assoc]

theorem fingerprint_eq_of_same {left right : TestCase} (same : left.same right = true) :
    left.fingerprint = right.fingerprint := by
  obtain ⟨method, arguments, outcome⟩ := same_iff.mp same
  simp only [fingerprint, method, arguments, Outcome.marks_eq_of_same outcome]

end TestCase

end TestSynth
