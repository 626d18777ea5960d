import TestSynth.Proofs.Report.Writing
import TestSynth.Proofs.TestCase.Binding

/-!
# Rendering of test cases

A test case whose values have literals has a test method.  Every value of a declared
type has a literal, so a report of well-typed test cases can fail only in the sink.
-/

namespace TestSynth

theorem Scalar.coerce?_of_family {content : Scalar} {base : Primitive}
    (same : content.family = base.family) :
    content.coerce? base = some content := by
  unfold coerce?
  rw [← same]
  cases content <;> rfl

/-- A scalar that can be coerced to a type has a literal there. -/
theorem exists_scalarLiteral_of_coerce? {content : Scalar} {base : Primitive}
    (coercible : (content.coerce? base).isSome = true) :
    ∃ text, scalarLiteral base content = .ok text := by
  obtain ⟨coerced, same⟩ := Option.isSome_iff_exists.mp coercible
  unfold scalarLiteral
  rw [same]
  cases coerced with
  | integer value => exact ⟨_, rfl⟩
  | boolean value => exact ⟨_, rfl⟩
  | real bits => cases base <;> exact ⟨_, rfl⟩

theorem exists_scalarLiteral_eq_ok {content : Scalar} {base : Primitive}
    (same : content.family = base.family) :
    ∃ text, scalarLiteral base content = .ok text := by
  apply exists_scalarLiteral_of_coerce?
  rw [Scalar.coerce?_of_family same]
  rfl

theorem exists_literal_eq_ok {value : Value} {type : JavaType}
    (typed : value.HasType type) : ∃ text, literal type value = .ok text := by
  cases typed with
  | scalar same => exact exists_scalarLiteral_eq_ok same
  | array same =>
      obtain ⟨texts, elementsOk⟩ := exists_mapM_eq_ok fun element member =>
        exists_scalarLiteral_eq_ok (same element member)
      exact ⟨_, bind_eq_ok_iff.mpr ⟨texts, elementsOk, rfl⟩⟩

/-- The value of the argument can be written at its declared type. -/
abbrev Argument.HasLiteral (argument : Argument) : Prop :=
  ∃ text, literal argument.parameter.type argument.value = .ok text

/-- Every value of the test case can be written at its declared type. -/
structure TestCase.HasLiterals (test : TestCase) : Prop where
  arguments : ∀ argument ∈ test.arguments, argument.HasLiteral
  result : ∀ value, test.outcome = .returned value →
    ∃ text, literal test.method.returnType value = .ok text

theorem TestCase.WellTyped.hasLiterals {test : TestCase} (typed : test.WellTyped) :
    test.HasLiterals := by
  refine ⟨fun argument member => exists_literal_eq_ok (typed.arguments argument member), ?_⟩
  intro value returned
  have fits := typed.outcome
  rw [returned] at fits
  cases fits with
  | returned valueTyped => exact exists_literal_eq_ok valueTyped

namespace JUnit

variable {style : Style} {test : TestCase}

/-- The statements that check the outcome of a call, with the texts that they are made
of. -/
inductive Checks (style : Style) (type : JavaType) (test : TestCase) (call : String) :
    List Statement → Prop
  | void : test.outcome = .void → Checks style type test call [.perform call]
  | threw {exception : ThrownException} {message : Option String} :
      test.outcome = .threw exception →
      assertMessage style.message test = .ok message →
      Checks style type test call
        [.assertThrows (sourceClassName exception.typeName) call message]
  | returned {value : Value} {expected : String} {message : Option String} :
      test.outcome = .returned value →
      literal type value = .ok expected →
      assertMessage style.message test = .ok message →
      Checks style type test call [
        .declare type.sourceName expectedName expected,
        .declare type.sourceName resultName call,
        .assertEqual (if type.isArray then "assertArrayEquals" else "assertEquals")
          expectedName resultName
          (if style.dialect.takesTolerance then tolerance? type else none) message]

theorem outcomeStatements_eq_ok_iff {statements : List Statement} :
    outcomeStatements style test = .ok statements ↔
      ∃ call, callExpression test = .ok call ∧
        Checks style test.method.returnType test call statements := by
  constructor
  · intro written
    unfold outcomeStatements at written
    cases outcome : test.outcome with
    | void =>
        rw [outcome] at written
        obtain ⟨call, callOk, same⟩ := bind_eq_ok_iff.mp written
        cases same
        exact ⟨call, callOk, .void outcome⟩
    | threw exception =>
        rw [outcome] at written
        obtain ⟨message, messageOk, last⟩ := bind_eq_ok_iff.mp written
        obtain ⟨call, callOk, same⟩ := bind_eq_ok_iff.mp last
        cases same
        exact ⟨call, callOk, .threw outcome messageOk⟩
    | returned value =>
        rw [outcome] at written
        obtain ⟨expected, expectedOk, rest⟩ := bind_eq_ok_iff.mp written
        obtain ⟨call, callOk, last⟩ := bind_eq_ok_iff.mp rest
        obtain ⟨message, messageOk, same⟩ := bind_eq_ok_iff.mp last
        cases same
        exact ⟨call, callOk, .returned outcome expectedOk messageOk⟩
  · rintro ⟨call, callOk, checks⟩
    unfold outcomeStatements
    cases checks with
    | void outcome =>
        rw [outcome]
        exact bind_eq_ok_iff.mpr ⟨_, callOk, rfl⟩
    | threw outcome messageOk =>
        rw [outcome]
        exact bind_eq_ok_iff.mpr ⟨_, messageOk, bind_eq_ok_iff.mpr ⟨_, callOk, rfl⟩⟩
    | returned outcome expectedOk messageOk =>
        rw [outcome]
        exact bind_eq_ok_iff.mpr ⟨_, expectedOk, bind_eq_ok_iff.mpr ⟨_, callOk,
          bind_eq_ok_iff.mpr ⟨_, messageOk, rfl⟩⟩⟩

theorem exists_arrayLocals {arguments : List Argument}
    (literals : ∀ argument ∈ arguments, argument.HasLiteral) :
    ∃ statements, arrayLocals arguments = .ok statements := by
  induction arguments with
  | nil => exact ⟨[], rfl⟩
  | cons argument rest ih =>
      obtain ⟨⟨text, textOk⟩, later⟩ := List.forall_mem_cons.mp literals
      obtain ⟨others, othersOk⟩ := ih later
      unfold arrayLocals
      split
      · exact ⟨_, bind_eq_ok_iff.mpr
          ⟨text, textOk, bind_eq_ok_iff.mpr ⟨others, othersOk, rfl⟩⟩⟩
      · exact ⟨others, othersOk⟩

/-- Every parameter of the method is found with its value. -/
theorem exists_callArgument (ascending : Argument.Ascending test.arguments)
    (binds : (test.arguments.map (·.parameter)).Perm test.method.arguments)
    (has : test.HasLiterals) {parameter : Parameter}
    (member : parameter ∈ test.method.arguments) :
    ∃ text, callArgument test parameter = .ok text := by
  obtain ⟨argument, given, rfl⟩ := List.mem_map.mp (binds.mem_iff.mpr member)
  unfold callArgument TestCase.valueOf?
  rw [Argument.find?_ordinal_eq_some ascending given]
  dsimp only [Option.map_some]
  split
  · exact ⟨_, rfl⟩
  · exact has.arguments argument given

theorem exists_callExpression (ascending : Argument.Ascending test.arguments)
    (binds : (test.arguments.map (·.parameter)).Perm test.method.arguments)
    (has : test.HasLiterals) : ∃ call, callExpression test = .ok call := by
  obtain ⟨texts, argumentsOk⟩ := exists_mapM_eq_ok fun parameter member =>
    exists_callArgument ascending binds has member
  exact ⟨_, bind_eq_ok_iff.mpr ⟨texts, argumentsOk, rfl⟩⟩

theorem exists_assertMessage_eq_ok (level : MessageLevel) (has : test.HasLiterals) :
    ∃ message, assertMessage level test = .ok message := by
  cases level with
  | off => exact ⟨_, rfl⟩
  | short => exact ⟨_, rfl⟩
  | full =>
      have eachOk : ∀ argument ∈ test.arguments,
          ∃ text, messageArgument argument = .ok text := by
        intro argument member
        obtain ⟨text, textOk⟩ := has.arguments argument member
        exact ⟨_, bind_eq_ok_iff.mpr ⟨text, textOk, rfl⟩⟩
      obtain ⟨texts, argumentsOk⟩ := exists_mapM_eq_ok eachOk
      exact ⟨_, bind_eq_ok_iff.mpr ⟨texts, argumentsOk, rfl⟩⟩

/-- A test case whose values have literals has a text in every style. -/
theorem exists_testLines (ascending : Argument.Ascending test.arguments)
    (binds : (test.arguments.map (·.parameter)).Perm test.method.arguments)
    (has : test.HasLiterals) (style : Style) (number : Nat) :
    ∃ lines, testLines style number test = .ok lines := by
  obtain ⟨arrays, arraysOk⟩ := exists_arrayLocals has.arguments
  obtain ⟨call, callOk⟩ := exists_callExpression ascending binds has
  obtain ⟨message, messageOk⟩ := exists_assertMessage_eq_ok style.message has
  have checked : ∃ statements, Checks style test.method.returnType test call statements := by
    cases outcome : test.outcome with
    | void => exact ⟨_, .void outcome⟩
    | threw exception => exact ⟨_, .threw outcome messageOk⟩
    | returned value =>
        obtain ⟨expected, expectedOk⟩ := has.result value outcome
        exact ⟨_, .returned outcome expectedOk messageOk⟩
  obtain ⟨statements, checks⟩ := checked
  have methodOk : ∃ method, testMethod style number test = .ok method :=
    ⟨_, bind_eq_ok_iff.mpr ⟨arrays, arraysOk, bind_eq_ok_iff.mpr
      ⟨statements, outcomeStatements_eq_ok_iff.mpr ⟨call, callOk, checks⟩, rfl⟩⟩⟩
  obtain ⟨method, methodOk⟩ := methodOk
  exact ⟨_, bind_eq_ok_iff.mpr ⟨method, methodOk, rfl⟩⟩

theorem exists_testLines_eq_ok (style : Style) (number : Nat)
    (typed : test.WellTyped) :
    ∃ lines, testLines style number test = .ok lines :=
  exists_testLines typed.ascending typed.binds typed.hasLiterals style number

theorem exists_testsLines_eq_ok (style : Style) (number : Nat)
    {tests : List TestCase} (typed : ∀ test ∈ tests, test.WellTyped) :
    ∃ lines last, testsLines style number tests = (.ok lines, last) := by
  induction tests generalizing number with
  | nil => exact ⟨[], number, rfl⟩
  | cons test rest ih =>
      obtain ⟨lines, linesOk⟩ :=
        exists_testLines_eq_ok style number (typed test List.mem_cons_self)
      obtain ⟨others, last, othersOk⟩ := ih (number + 1) fun other member =>
        typed other (List.mem_cons_of_mem test member)
      simp only [testsLines, linesOk, othersOk]
      exact ⟨_, last, rfl⟩

theorem exists_unitText_eq_ok (style : Style) (number : Nat)
    {collection : Collection}
    (typed : ∀ test ∈ collection.tests, test.WellTyped) :
    ∃ text last, unitText style number collection = (.ok text, last) := by
  have rendered : ∀ test ∈ collection.renderableTests, test.WellTyped := by
    intro test member
    obtain ⟨group, groupMember, testMember⟩ := List.mem_flatMap.mp member
    exact typed test (List.mem_flatMap.mpr
      ⟨group, (List.mem_filter.mp groupMember).1, testMember⟩)
  obtain ⟨lines, last, linesOk⟩ :=
    exists_testsLines_eq_ok style number rendered
  let unit := headerLines style ++ lines ++ [.code 0 "\x7d"]
  refine ⟨String.join (unit.map Line.text), last, ?_⟩
  rw [unitText_eq, linesOk]
  exact congrArg (·, last) (Line.compose_eq unit)

/-- A report of well-typed test cases reaches the sink, whose faults are the only
ones. -/
theorem formatAll_eq_deliver (style : Style) (counter : Nat)
    {collection : Collection} (sink : Sink)
    (typed : ∀ test ∈ collection.tests, test.WellTyped) :
    ∃ text,
      (formatAll style counter collection sink).result =
          (sink.deliver text).1 ∧
        (formatAll style counter collection sink).sink =
          (sink.deliver text).2 := by
  obtain ⟨text, last, textOk⟩ :=
    exists_unitText_eq_ok style (resetCounter counter) typed
  refine ⟨text, ?_⟩
  simp only [formatAll, textOk, and_self]

end JUnit

theorem streamFault_eq_error {written : Except SinkFailure Unit} {fault : Fault}
    (failed : streamFault written = .error fault) :
    ∃ failure : SinkFailure, fault = .stream failure.reason := by
  cases written with
  | ok value => cases failed
  | error failure =>
      cases failed
      exact ⟨failure, rfl⟩

theorem Sink.deliver_eq_error {sink : Sink} {text : String} {fault : Fault}
    (failed : (sink.deliver text).1 = .error fault) :
    ∃ failure : SinkFailure, fault = .stream failure.reason := by
  rcases written : sink.writeText text with ⟨result, after⟩
  simp only [deliver, written] at failed
  cases accepted : streamFault result with
  | error first =>
      rw [accepted] at failed
      cases failed
      exact streamFault_eq_error accepted
  | ok value =>
      rw [accepted] at failed
      exact streamFault_eq_error failed

end TestSynth
