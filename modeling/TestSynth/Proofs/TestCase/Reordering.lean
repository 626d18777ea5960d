import TestSynth.Proofs.TestCase.Arrival

/-!
# Collections up to order

Test cases that come in another order give the same groups with the same test
cases, as long as those that count as the same are equal.  Only the places of the
groups, and of the test cases in a group, depend on the order.
-/

namespace TestSynth

private theorem concat_concat_perm {α : Type} (items : List α) (first second : α) :
    (items ++ [first] ++ [second]).Perm (items ++ [second] ++ [first]) := by
  rw [List.append_assoc, List.append_assoc]
  exact (List.Perm.swap second first []).append_left items

/-- Only the message of an exception is not compared. -/
theorem TestCase.eq_of_same {left right : TestCase} (returned : left.didThrow = false)
    (same : left.same right = true) : left = right := by
  obtain ⟨method, arguments, outcome⟩ := same_iff.mp same
  rcases left with ⟨_, _, leftOutcome⟩
  rcases right with ⟨_, _, rightOutcome⟩
  cases method
  cases arguments
  cases leftOutcome with
  | threw exception => cases returned
  | void =>
      cases rightOutcome with
      | void => rfl
      | returned value => cases outcome
      | threw exception => cases outcome
  | returned value =>
      cases rightOutcome with
      | void => cases outcome
      | returned other => rw [eq_of_beq outcome]
      | threw exception => cases outcome

/-- Neither test case counts as the other. -/
structure TestCase.Apart (left right : TestCase) : Prop where
  forward : left.same right = false
  backward : right.same left = false

/-- Test cases of calls that returned are equal or apart. -/
theorem TestCase.eq_or_apart {left right : TestCase}
    (leftReturned : left.didThrow = false) (rightReturned : right.didThrow = false) :
    left = right ∨ left.Apart right := by
  cases forward : left.same right with
  | true => exact .inl (eq_of_same leftReturned forward)
  | false =>
      cases backward : right.same left with
      | true => exact .inl (eq_of_same rightReturned backward).symm
      | false => exact .inr ⟨forward, backward⟩

namespace MethodGroup

variable {left right group : MethodGroup} {test first second : TestCase}

theorem contains_of_perm (alike : left.tests.Perm right.tests) (test : TestCase) :
    left.contains test = right.contains test := by
  rw [contains_eq_any, contains_eq_any]
  exact alike.any_eq

theorem insert_perm (alike : left.tests.Perm right.tests) (test : TestCase) :
    (left.insert test).tests.Perm (right.insert test).tests := by
  rw [tests_insert, tests_insert, contains_of_perm alike]
  split
  · exact alike
  · exact alike.append_right [test]

theorem insert_insert_perm (apart : first.Apart second) :
    ((group.insert first).insert second).tests.Perm
      ((group.insert second).insert first).tests := by
  simp only [tests_insert, contains_insert, apart.forward, apart.backward,
    Bool.and_false, Bool.or_false]
  cases group.contains first with
  | true => simp
  | false =>
      cases group.contains second with
      | true => simp
      | false => simpa using concat_concat_perm group.tests first second

end MethodGroup

namespace Collection

variable {left middle right collection : Collection} {first second : TestCase}

/-- The collections have the same methods, and the same test cases for each. -/
structure Alike (left right : Collection) : Prop where
  methods : (left.groups.map (·.method)).Perm (right.groups.map (·.method))
  tests : ∀ method, (left.target method).tests.Perm (right.target method).tests

namespace Alike

theorem refl (collection : Collection) : collection.Alike collection :=
  { methods := .refl _
    tests := fun _ => .refl _ }

theorem trans (alike : left.Alike middle) (other : middle.Alike right) :
    left.Alike right :=
  { methods := alike.methods.trans other.methods
    tests := fun method => (alike.tests method).trans (other.tests method) }

theorem containsMethod (alike : left.Alike right) (method : Method) :
    left.containsMethod method = right.containsMethod method := by
  rw [Bool.eq_iff_iff, containsMethod_iff, containsMethod_iff]
  exact alike.methods.mem_iff

theorem contains (alike : left.Alike right) (test : TestCase) :
    left.contains test = right.contains test := by
  rw [← contains_target, ← contains_target]
  exact MethodGroup.contains_of_perm (alike.tests test.method) test

theorem insert (alike : left.Alike right) (test : TestCase) :
    (left.insert test).Alike (right.insert test) := by
  constructor
  · rw [methods_insert, methods_insert, alike.containsMethod]
    split
    · exact alike.methods
    · exact alike.methods.append_right [test.method]
  · intro method
    rw [target_insert, target_insert]
    split
    · exact MethodGroup.insert_perm (alike.tests method) test
    · exact alike.tests method

end Alike

theorem containsMethod_insert (collection : Collection) (test : TestCase)
    (method : Method) :
    (collection.insert test).containsMethod method =
      (collection.containsMethod method || method == test.method) := by
  rw [Bool.eq_iff_iff, containsMethod_iff, methods_insert]
  cases known : collection.containsMethod test.method with
  | false => simp [containsMethod_iff]
  | true =>
      simp only [if_true, Bool.or_eq_true, beq_iff_eq, containsMethod_iff]
      constructor
      · exact .inl
      · rintro (member | rfl)
        · exact member
        · exact containsMethod_iff.mp known

theorem contains_insert_of_not_same {test other : TestCase}
    (different : other.same test = false) :
    (collection.insert test).contains other = collection.contains other := by
  rw [← contains_target, ← contains_target, target_insert]
  split
  · rw [MethodGroup.contains_insert, different, Bool.and_false, Bool.or_false]
  · rfl

theorem insert_insert_alike (apart : first.Apart second) :
    ((collection.insert first).insert second).Alike
      ((collection.insert second).insert first) := by
  constructor
  · simp only [methods_insert, containsMethod_insert]
    by_cases same : first.method = second.method
    · rw [same]
    · simp only [beq_false_of_ne same, beq_false_of_ne (Ne.symm same), Bool.or_false]
      cases collection.containsMethod first.method with
      | true => simp
      | false =>
          cases collection.containsMethod second.method with
          | true => simp
          | false =>
              simpa using concat_concat_perm (collection.groups.map (·.method))
                first.method second.method
  · intro method
    simp only [target_insert]
    by_cases own : method = first.method
    · by_cases shared : method = second.method
      · simp only [if_pos own, if_pos shared]
        exact MethodGroup.insert_insert_perm apart
      · simp only [if_pos own, if_neg shared]
        exact .refl _
    · by_cases shared : method = second.method
      · simp only [if_neg own, if_pos shared]
        exact .refl _
      · simp only [if_neg own, if_neg shared]
        exact .refl _

end Collection

end TestSynth
