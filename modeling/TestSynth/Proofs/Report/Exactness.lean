import TestSynth.Proofs.Report.LiteralReading

/-!
# Values that literals keep

Integers within the width of the declared type, truth values and lists of these.
The literal of such a value stands for no other, whatever text follows it.
-/

namespace TestSynth

open SourceValue (Ends)

/-- The scalars that are values of an integral or truth type. -/
inductive Scalar.Exact : Scalar → Primitive → Prop
  | integer {value : Int64} {base : Primitive} :
      base.Covers value.toInt → Exact (.integer value) base
  | truth (value : Bool) : Exact (.boolean value) .boolean

/-- The values of integral and truth types and of arrays of these. -/
inductive Value.Exact : Value → JavaType → Prop
  | scalar {content : Scalar} {base : Primitive} :
      content.Exact base → Exact (.scalar content) (.primitive base)
  | array {base : Primitive} {elements : List Scalar} :
      (∀ element ∈ elements, element.Exact base) →
      Exact (.array { element := base, elements := elements })
        (.array (.primitive base))

namespace Scalar

variable {left right scalar : Scalar} {base : Primitive}

theorem sourceValue?_integer {value : Int64} (covers : base.Covers value.toInt) :
    (Scalar.integer value).sourceValue? base = some (.number base value.toInt) := by
  have narrowed := Primitive.narrow_of_covers covers
  cases base with
  | float | double | boolean => cases covers
  | _ => exact congrArg (fun value => some (SourceValue.number _ value)) narrowed

theorem Exact.exists_sourceValue (kept : scalar.Exact base) :
    ∃ value, scalar.sourceValue? base = some value := by
  cases kept with
  | integer covers => exact ⟨_, sourceValue?_integer covers⟩
  | truth value => exact ⟨.truth value, rfl⟩

theorem Exact.eq_of_sourceValue (leftExact : left.Exact base)
    (rightExact : right.Exact base)
    (same : left.sourceValue? base = right.sourceValue? base) : left = right := by
  cases leftExact with
  | integer leftCovers =>
      cases rightExact with
      | integer rightCovers =>
          rw [sourceValue?_integer leftCovers, sourceValue?_integer rightCovers] at same
          have numbers := (SourceValue.number.inj (Option.some.inj same)).2
          rw [Int64.toInt_inj.mp numbers]
      | truth => cases leftCovers
  | truth leftValue =>
      cases rightExact with
      | integer rightCovers => cases rightCovers
      | truth rightValue =>
          rw [SourceValue.truth.inj (Option.some.inj same)]

theorem eq_of_sourceValues {leftScalars rightScalars : List Scalar}
    {values : List SourceValue}
    (leftExact : ∀ scalar ∈ leftScalars, scalar.Exact base)
    (rightExact : ∀ scalar ∈ rightScalars, scalar.Exact base)
    (leftStand : List.Forall₂ (fun scalar value => scalar.sourceValue? base = some value)
      leftScalars values)
    (rightStand : List.Forall₂ (fun scalar value => scalar.sourceValue? base = some value)
      rightScalars values) : leftScalars = rightScalars := by
  induction leftStand generalizing rightScalars with
  | nil =>
      cases rightStand
      rfl
  | cons leftHere _ ih =>
      obtain ⟨leftFirst, leftLater⟩ := List.forall_mem_cons.mp leftExact
      cases rightStand with
      | cons rightHere rightRest =>
          obtain ⟨rightFirst, rightLater⟩ := List.forall_mem_cons.mp rightExact
          rw [leftFirst.eq_of_sourceValue rightFirst (leftHere.trans rightHere.symm),
            ih leftLater rightLater rightRest]

end Scalar

namespace Value.Exact

variable {left right value : Value} {type : JavaType} {leftText rightText : String}
  {leftRest rightRest : List Char}

/-- Texts that start with literals and go on alike start with the same value. -/
theorem eq_of_literals (leftExact : left.Exact type) (rightExact : right.Exact type)
    (leftOk : literal type left = .ok leftText)
    (rightOk : literal type right = .ok rightText)
    (leftEnds : Ends leftRest) (rightEnds : Ends rightRest)
    (same : leftText.toList ++ leftRest = rightText.toList ++ rightRest) :
    left = right ∧ leftRest = rightRest := by
  cases leftExact with
  | scalar leftScalar =>
      cases rightExact with
      | scalar rightScalar =>
          obtain ⟨leftValue, leftStands⟩ := leftScalar.exists_sourceValue
          obtain ⟨rightValue, rightStands⟩ := rightScalar.exists_sourceValue
          obtain ⟨rfl, rests⟩ :=
            (SourceValue.reads_scalarLiteral leftStands leftOk leftEnds).unique
              (SourceValue.reads_scalarLiteral rightStands rightOk rightEnds) same
          rw [leftScalar.eq_of_sourceValue rightScalar (leftStands.trans rightStands.symm)]
          exact ⟨rfl, rests⟩
  | array leftElements =>
      cases rightExact with
      | array rightElements =>
          obtain ⟨leftValues, leftStand⟩ := exists_forall₂ fun element member =>
            (leftElements element member).exists_sourceValue
          obtain ⟨rightValues, rightStand⟩ := exists_forall₂ fun element member =>
            (rightElements element member).exists_sourceValue
          obtain ⟨rfl, rests⟩ :=
            (SourceValue.reads_arrayInitializer leftStand leftOk leftRest).unique
              (SourceValue.reads_arrayInitializer rightStand rightOk rightRest) same
          rw [Scalar.eq_of_sourceValues leftElements rightElements leftStand rightStand]
          exact ⟨rfl, rests⟩

theorem eq_of_literal (leftExact : left.Exact type) (rightExact : right.Exact type)
    {text : String} (leftOk : literal type left = .ok text)
    (rightOk : literal type right = .ok text) : left = right := by
  have ends : Ends [] := { digits := nofun, suffix := nofun }
  exact (leftExact.eq_of_literals rightExact leftOk rightOk ends ends rfl).1

/-- No such type is spelled like an assertion. -/
theorem exists_sourceName_eq_cons (kept : value.Exact type) :
    ∃ first others, type.sourceName.toList = first :: others ∧ first ≠ 'a' := by
  have keyword (base : Primitive) :
      ∃ first others, base.keyword.toList = first :: others ∧ first ≠ 'a' := by
    cases base <;> exact ⟨_, _, rfl, by decide⟩
  cases kept with
  | @scalar content base _ => exact keyword base
  | @array base elements _ =>
      obtain ⟨first, others, spelled, different⟩ := keyword base
      have written : (JavaType.array (.primitive base)).sourceName.toList =
          base.keyword.toList ++ "[]".toList := String.toList_append
      refine ⟨first, others ++ "[]".toList, ?_, different⟩
      rw [written, spelled, List.cons_append]

end Value.Exact

end TestSynth
