import Mathlib.Data.List.Perm.Basic
import TestSynth.Proofs.TestCase.Binding

/-!
# Construction of test cases

For a declared method a test case is made from exactly the bindings of its arguments,
each once and in any order, and from exactly the outcomes that have a value if one is
declared.  The test case answers with the values that were given.
-/

namespace TestSynth

/-- The bindings are the arguments of the method, each once, and the outcome suits it. -/
structure Method.Accepts (method : Method) (given : List (Parameter × Value))
    (outcome : Outcome) : Prop where
  binds : (given.map (·.1)).Perm method.arguments
  suits : outcome.Suits method.returnType

/-- The test case is of a call of the method with the given values, and finds each of them
by name and by parameter. -/
structure TestCase.Represents (test : TestCase) (method : Method)
    (given : List (Parameter × Value)) (outcome : Outcome) : Prop where
  calls : test.method = method
  ends : test.outcome = outcome
  values : (test.arguments.map Argument.pair).Perm given
  ordered : test.arguments.map (·.parameter) = method.arguments
  supplied : ∀ parameter ∈ method.arguments, ∃ value, (parameter, value) ∈ given ∧
    test.argument? parameter.name = some value ∧ test.valueOf? parameter = some value
  unknown : ∀ name, name ∉ method.arguments.map (·.name) → test.argument? name = none

theorem Argument.pair_injective : Function.Injective Argument.pair := by
  rintro ⟨leftParameter, leftValue⟩ ⟨rightParameter, rightValue⟩ same
  cases same
  rfl

namespace TestCase

variable {method : Method} {given other : List (Parameter × Value)} {outcome : Outcome}
  {test : TestCase}

theorem contractual_bindArguments (bound : List Argument) :
    Contractual (bindArguments method bound given) := by
  induction given generalizing bound with
  | nil => exact .ok bound
  | cons item rest ih =>
      rcases item with ⟨parameter, value⟩
      unfold bindArguments
      split
      · exact .breach _
      · split
        · exact .breach _
        · split
          · exact .breach _
          · exact ih _

theorem contractual_checkBound (bound : List Argument) :
    Contractual (checkBound method bound) := by
  unfold checkBound
  split
  · exact .breach _
  · exact .ok ()

theorem contractual_checkOutcome (outcome : Outcome) :
    Contractual (checkOutcome method outcome) := by
  cases outcome with
  | void =>
      simp only [checkOutcome]
      split
      · exact .ok ()
      · exact .breach _
  | returned value =>
      simp only [checkOutcome]
      split
      · exact .breach _
      · exact .ok ()
  | threw exception => exact .ok ()

theorem contractual_build : Contractual (build method given outcome) := by
  apply Contractual.bind (contractual_bindArguments [])
  intro bound _
  apply Contractual.bind (contractual_checkBound bound)
  intro _ _
  apply Contractual.bind (contractual_checkOutcome outcome)
  intro _ _
  exact .ok _

theorem exists_build_iff (distinct : (method.arguments.map (·.ordinal)).Nodup) :
    (∃ test, build method given outcome = .ok test) ↔ method.Accepts given outcome := by
  constructor
  · rintro ⟨test, built⟩
    obtain ⟨_, _, values, _⟩ := build_eq_ok built
    have parameters := parameters_perm_of_build distinct built
    have pairs := values.map (·.1)
    rw [List.map_map] at pairs
    obtain ⟨_, _, rest⟩ := bind_eq_ok_iff.mp built
    obtain ⟨_, _, rest⟩ := bind_eq_ok_iff.mp rest
    obtain ⟨_, accepted, _⟩ := bind_eq_ok_iff.mp rest
    exact {
      binds := pairs.symm.trans parameters
      suits := checkOutcome_eq_ok_iff.mp accepted }
  · intro accepts
    exact exists_build_eq_ok accepts.binds distinct accepts.suits

/-- The order of the bindings does not matter. -/
theorem build_perm (distinct : (method.arguments.map (·.ordinal)).Nodup)
    (built : build method given outcome = .ok test) (permuted : other.Perm given) :
    build method other outcome = .ok test := by
  have accepts := (exists_build_iff distinct).mp ⟨test, built⟩
  obtain ⟨otherTest, otherBuilt⟩ := (exists_build_iff distinct).mpr
    { binds := (permuted.map _).trans accepts.binds, suits := accepts.suits }
  rw [otherBuilt]
  obtain ⟨sameMethod, sameOutcome, values, ascending⟩ := build_eq_ok built
  obtain ⟨otherMethod, otherOutcome, otherValues, otherAscending⟩ := build_eq_ok otherBuilt
  have pairs := (otherValues.trans permuted).trans values.symm
  have arguments : otherTest.arguments = test.arguments :=
    eq_of_perm_of_ascending otherAscending ascending
      ((List.map_perm_map_iff Argument.pair_injective).mp pairs)
  cases test
  cases otherTest
  cases otherMethod
  cases otherOutcome
  cases sameMethod
  cases sameOutcome
  cases arguments
  rfl

theorem represents_of_build (ordered : Parameter.Ascending method.parameters)
    (named : (method.arguments.map (·.name)).Nodup)
    (built : build method given outcome = .ok test) :
    test.Represents method given outcome := by
  have parameters := parameters_of_build ordered built
  obtain ⟨calls, ends, values, ascending⟩ := build_eq_ok built
  have names : (test.arguments.map (·.parameter.name)).Nodup := by
    rw [← parameters, List.map_map] at named
    exact named
  refine ⟨calls, ends, values, parameters, ?_, ?_⟩
  · intro parameter member
    rw [← parameters] at member
    obtain ⟨argument, bound, rfl⟩ := List.mem_map.mp member
    refine ⟨argument.value, ?_, ?_, ?_⟩
    · exact values.mem_iff.mp (List.mem_map_of_mem (f := Argument.pair) bound)
    · rw [argument?, find?_key_eq_some names bound]
      rfl
    · rw [valueOf?, Argument.find?_ordinal_eq_some ascending bound]
      rfl
  · intro name absent
    have unbound : ∀ argument ∈ test.arguments, ¬ (argument.parameter.name == name) = true := by
      intro argument bound same
      rw [← parameters, List.map_map] at absent
      exact absent (List.mem_map.mpr ⟨argument, bound, eq_of_beq same⟩)
    rw [argument?, List.find?_eq_none.mpr unbound]
    rfl

/-- A test case of a declared method is made exactly if the bindings are the arguments of
the method, each once, and the outcome suits its result; anything else is a broken
contract.  The test case does not depend on the order of the bindings, has the arguments
in the order of declaration and finds each value that was given. -/
theorem build_exact {owner : DeclaringClass} {name : String} {isStatic : Bool}
    {parameters : List (String × JavaType)} {returnType : JavaType} {thrown : List String}
    (declared : Method.declare owner name isStatic parameters returnType thrown = .ok method)
    (given : List (Parameter × Value)) (outcome : Outcome) :
    ((∃ test, build method given outcome = .ok test) ↔ method.Accepts given outcome) ∧
      ((∃ breach, build method given outcome = .error (.contract breach)) ↔
        ¬ method.Accepts given outcome) ∧
      ∀ test, build method given outcome = .ok test →
        test.Represents method given outcome ∧
          ∀ other, other.Perm given → build method other outcome = .ok test := by
  have ordered := Method.ascending_of_declare declared
  have distinct := Method.distinct_of_declare declared
  have named := Method.argumentNames_of_declare declared
  refine ⟨exists_build_iff distinct,
    contractual_build.exists_breach_iff (exists_build_iff distinct), ?_⟩
  intro test built
  refine ⟨represents_of_build ordered named built, ?_⟩
  intro other permuted
  exact build_perm distinct built permuted

def intParameter (name : String) (ordinal : Nat) : Parameter :=
  { name := name, type := .primitive .int, ordinal := ordinal, isReceiver := false }

def divisionMethod : Method :=
  { declaringClass := { name := "demo.Ratio", hasDefaultConstructor := true }
    name := "divide"
    isStatic := true
    parameters := [intParameter "dividend" 0, intParameter "divisor" 1]
    returnType := .primitive .int
    thrown := [] }

/-- The divisor is found under its name, though it is given first. -/
theorem build_exact_reversed :
    ∃ test,
      build divisionMethod
          [(intParameter "divisor" 1, .scalar (.integer 2)),
            (intParameter "dividend" 0, .scalar (.integer 6))]
          (.returned (.scalar (.integer 3))) = .ok test ∧
        test.arguments.map (·.parameter) = [intParameter "dividend" 0, intParameter "divisor" 1] ∧
        test.argument? "divisor" = some (.scalar (.integer 2)) ∧
        test.argument? "quotient" = none := by
  have declared : Method.declare { name := "demo.Ratio", hasDefaultConstructor := true }
      "divide" true [("dividend", .primitive .int), ("divisor", .primitive .int)]
      (.primitive .int) [] = .ok divisionMethod := rfl
  obtain ⟨accepts, _, represents⟩ := build_exact declared
    [(intParameter "divisor" 1, .scalar (.integer 2)),
      (intParameter "dividend" 0, .scalar (.integer 6))]
    (.returned (.scalar (.integer 3)))
  obtain ⟨test, built⟩ := accepts.mpr
    { binds := .swap _ _ []
      suits := JavaType.noConfusion }
  obtain ⟨represented, _⟩ := represents test built
  obtain ⟨value, given, found, _⟩ :=
    represented.supplied (intParameter "divisor" 1) (.tail _ (.head []))
  refine ⟨test, built, represented.ordered, found.trans ?_,
    represented.unknown "quotient" (by decide)⟩
  simpa [intParameter] using given

end TestCase

end TestSynth
