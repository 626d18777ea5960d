import TestSynth.Method.Admissible
import TestSynth.TestCase.Collection

/-!
# Types of test cases

`HasType` says which values are of a declared type: scalars of the family of a
primitive, and arrays that are tagged with their element type and hold nothing
else.  A well-typed test case binds exactly the arguments of its method.
-/

namespace TestSynth

inductive Value.HasType : Value → JavaType → Prop
  | scalar {content : Scalar} {base : Primitive} :
      content.family = base.family →
      HasType (.scalar content) (.primitive base)
  | array {base : Primitive} {elements : List Scalar} :
      (∀ element ∈ elements, element.family = base.family) →
      HasType (.array { element := base, elements := elements })
        (.array (.primitive base))

/-- The outcomes of a method with a declared result. -/
inductive Outcome.Fits : Outcome → JavaType → Prop
  | void : Fits .void .void
  | returned {value : Value} {type : JavaType} :
      value.HasType type → Fits (.returned value) type
  | threw (exception : ThrownException) (type : JavaType) :
      Fits (.threw exception) type

/-- An outcome has a value exactly if one is declared, unless an exception is thrown. -/
def Outcome.Suits : Outcome → JavaType → Prop
  | .void, type => type = .void
  | .returned _, type => type ≠ .void
  | .threw _, _ => True

/-- Arguments by strictly ascending ordinal. -/
def Argument.Ascending (arguments : List Argument) : Prop :=
  arguments.Pairwise fun left right =>
    left.parameter.ordinal < right.parameter.ordinal

structure TestCase.WellTyped (test : TestCase) : Prop where
  admissible : test.method.checkSignature = .ok ()
  binds : (test.arguments.map (·.parameter)).Perm test.method.arguments
  ascending : Argument.Ascending test.arguments
  arguments : ∀ argument ∈ test.arguments,
    argument.value.HasType argument.parameter.type
  outcome : test.outcome.Fits test.method.returnType

theorem Value.HasType.ne_void {value : Value} {type : JavaType}
    (typed : value.HasType type) : type ≠ .void := by
  cases typed <;> simp

theorem Outcome.Fits.suits {outcome : Outcome} {type : JavaType}
    (fits : outcome.Fits type) : outcome.Suits type := by
  cases fits with
  | void => exact rfl
  | returned typed => exact typed.ne_void
  | threw exception type => exact trivial

theorem JavaType.isVoid_iff {type : JavaType} :
    type.isVoid = true ↔ type = .void := by
  cases type <;> simp [isVoid]

end TestSynth
