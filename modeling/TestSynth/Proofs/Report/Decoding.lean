import TestSynth.Proofs.Report.Concatenation
import TestSynth.Proofs.Report.Exactness
import TestSynth.Proofs.TestCase.Binding

/-!
# Test cases from their texts

The text of a test case determines the test case, up to what does not count.  Array
arguments are found in the declarations, the other arguments in the call, and the
outcome in the lines after that.
-/

namespace TestSynth

open SourceValue (Ends)

/-- The arguments are of one parameter, and of one value if that is an array or is not,
as asked. -/
structure Argument.Agree (isArray : Bool) (left right : Argument) : Prop where
  parameter : left.parameter = right.parameter
  value : left.parameter.type.isArray = isArray → left.value = right.value

theorem Argument.eq_of_agree {left right : List Argument}
    (arrays : List.Forall₂ (Agree true) left right)
    (scalars : List.Forall₂ (Agree false) left right) : left = right := by
  induction arrays with
  | nil => rfl
  | @cons left right _ _ array _ ih =>
      cases scalars with
      | cons scalar rest =>
          have values : left.value = right.value := by
            cases isArray : left.parameter.type.isArray with
            | true => exact array.value isArray
            | false => exact scalar.value isArray
          have same : left = right := by
            rcases left with ⟨parameter, value⟩
            cases array.parameter
            cases values
            rfl
          rw [same, ih rest]

/-- A test case of a method that can be read off its text: no name has a line feed or a
dollar sign, as dotted identifiers without dollar signs have none, and the values are
of integral and truth types or arrays of these. -/
structure TestCase.Legible (method : Method) (test : TestCase) : Prop where
  built : ∃ given outcome, TestCase.build method given outcome = .ok test
  names : test.NamesWithin fun character => character ≠ '\n' ∧ character ≠ '$'
  arguments : ∀ argument ∈ test.arguments, argument.value.Exact argument.parameter.type
  returned : ∀ value, test.outcome = .returned value → value.Exact method.returnType

namespace TestCase.Legible

variable {method : Method} {left right test : TestCase}

theorem method_eq (legible : test.Legible method) : test.method = method := by
  obtain ⟨_, _, built⟩ := legible.built
  exact (TestCase.build_eq_ok built).1

theorem ascending (legible : test.Legible method) : Argument.Ascending test.arguments := by
  obtain ⟨_, _, built⟩ := legible.built
  exact (TestCase.build_eq_ok built).2.2.2

theorem parameters_eq (legible : test.Legible method)
    (ordered : Parameter.Ascending method.parameters) :
    test.arguments.map (·.parameter) = method.arguments := by
  obtain ⟨_, _, built⟩ := legible.built
  exact TestCase.parameters_of_build ordered built

theorem bound_eq (legible : test.Legible method)
    (ordered : Parameter.Ascending method.parameters) :
    test.arguments.map (·.parameter) = test.method.arguments := by
  rw [legible.method_eq]
  exact legible.parameters_eq ordered

/-- Test cases of one method bind the same parameters in the same places. -/
theorem parameters_agree (leftLegible : left.Legible method)
    (rightLegible : right.Legible method)
    (ordered : Parameter.Ascending method.parameters) :
    List.Forall₂ (fun left right => left.parameter = right.parameter)
      left.arguments right.arguments := by
  have same : List.Forall₂ Eq (left.arguments.map (·.parameter))
      (right.arguments.map (·.parameter)) := by
    rw [List.forall₂_eq_eq_eq, leftLegible.parameters_eq ordered,
      rightLegible.parameters_eq ordered]
  exact List.forall₂_map_right_iff.mp (List.forall₂_map_left_iff.mp same)

theorem single_testLines {style : JUnit.Style} {number : Nat} {lines : List Line}
    (legible : test.Legible method)
    (written : JUnit.testLines style number test = .ok lines) :
    ∀ line ∈ lines, line.Single :=
  JUnit.single_testLines (legible.names.imp fun _ both => both.1) written

theorem sourceClassName_exception {exception : ThrownException}
    (legible : test.Legible method) (threw : test.outcome = .threw exception) :
    JUnit.sourceClassName exception.typeName = exception.typeName := by
  have within := legible.names.exception exception threw
  unfold JUnit.sourceClassName
  rw [List.map_congr_left (g := id), List.map_id, String.ofList_toList]
  intro character member
  exact if_neg (within character member).2

end TestCase.Legible

namespace JUnit

variable {style : Style} {number : Nat} {left right test : TestCase}
  {leftArguments rightArguments : List Argument}

/-- Statements as they are read inside a test method. -/
def shownStatements (dialect : Dialect) (statements : List Statement) : List String :=
  (statements.flatMap (Statement.lines dialect)).map fun line => line.nested.shown

theorem shownStatements_append (dialect : Dialect) (first second : List Statement) :
    shownStatements dialect (first ++ second) =
      shownStatements dialect first ++ shownStatements dialect second := by
  rw [shownStatements, List.flatMap_append, List.map_append]
  rfl

theorem shownStatements_perform (dialect : Dialect) (expression : String) :
    shownStatements dialect [.perform expression] =
      [indentation defaultUnit 1 ++ (expression ++ ";")] :=
  rfl

theorem shownStatements_assertThrows (dialect : Dialect) (className call : String)
    (message : Option String) :
    shownStatements dialect [.assertThrows className call message] =
      [indentation defaultUnit 1 ++ ("assertThrows(" ++
          ", ".intercalate (dialect.leadingMessage message ++
            [className ++ ".class", "() -> \x7b"])),
        indentation defaultUnit 2 ++ (call ++ ";"),
        indentation defaultUnit 1 ++
          (", ".intercalate ("\x7d" :: dialect.trailingMessage message) ++ ");")] :=
  rfl

theorem shownStatements_declare (dialect : Dialect) (type name value : String)
    (rest : List Statement) :
    shownStatements dialect (.declare type name value :: rest) =
      (indentation defaultUnit 1 ++ (type ++ " " ++ name ++ " = " ++ value ++ ";")) ::
        shownStatements dialect rest :=
  rfl

/-- Declared arrays are read off their declarations, whatever lines follow. -/
theorem agree_of_arrayLocals {dialect : Dialect}
    (parameters : List.Forall₂ (fun left right => left.parameter = right.parameter)
      leftArguments rightArguments)
    (leftExact : ∀ argument ∈ leftArguments, argument.value.Exact argument.parameter.type)
    (rightExact : ∀ argument ∈ rightArguments, argument.value.Exact argument.parameter.type)
    {leftLocals rightLocals : List Statement}
    (leftOk : arrayLocals leftArguments = .ok leftLocals)
    (rightOk : arrayLocals rightArguments = .ok rightLocals)
    {leftRest rightRest : List String}
    (same : shownStatements dialect leftLocals ++ leftRest =
      shownStatements dialect rightLocals ++ rightRest) :
    List.Forall₂ (Argument.Agree true) leftArguments rightArguments ∧
      leftRest = rightRest := by
  induction parameters generalizing leftLocals rightLocals with
  | nil =>
      cases leftOk
      cases rightOk
      exact ⟨.nil, same⟩
  | @cons leftFirst rightFirst _ _ parameter _ ih =>
      obtain ⟨leftHere, leftLater⟩ := List.forall_mem_cons.mp leftExact
      obtain ⟨rightHere, rightLater⟩ := List.forall_mem_cons.mp rightExact
      rw [← parameter] at rightHere
      cases isArray : leftFirst.parameter.type.isArray with
      | true =>
          obtain ⟨leftText, leftOthers, leftTextOk, leftOthersOk, rfl⟩ :=
            arrayLocals_of_array isArray leftOk
          obtain ⟨rightText, rightOthers, rightTextOk, rightOthersOk, rfl⟩ :=
            arrayLocals_of_array (parameter ▸ isArray) rightOk
          rw [← parameter] at rightTextOk same
          rw [shownStatements_declare, shownStatements_declare, List.cons_append,
            List.cons_append] at same
          obtain ⟨line, lines⟩ := List.cons.inj same
          simp only [String.append_right_inj, String.append_left_inj] at line
          subst line
          obtain ⟨others, rests⟩ := ih leftLater rightLater leftOthersOk rightOthersOk lines
          have values := leftHere.eq_of_literal rightHere leftTextOk rightTextOk
          exact ⟨.cons ⟨parameter, fun _ => values⟩ others, rests⟩
      | false =>
          rw [arrayLocals_of_not_array _ isArray] at leftOk
          rw [arrayLocals_of_not_array _ (parameter ▸ isArray)] at rightOk
          obtain ⟨others, rests⟩ := ih leftLater rightLater leftOk rightOk same
          exact ⟨.cons ⟨parameter, fun other => Bool.noConfusion (isArray.symm.trans other)⟩
            others, rests⟩

/-- An argument as it stands in the call. -/
def argumentText (argument : Argument) : Except Fault String :=
  if argument.parameter.type.isArray then .ok (localName argument.parameter.name)
  else literal argument.parameter.type argument.value

theorem callArgument_eq_argumentText (ascending : Argument.Ascending test.arguments)
    {argument : Argument} (member : argument ∈ test.arguments) :
    callArgument test argument.parameter = argumentText argument := by
  unfold callArgument TestCase.valueOf?
  rw [Argument.find?_ordinal_eq_some ascending member]
  rfl

/-- What stands after the opening parenthesis of a call, with a separator in front. -/
def argumentsEnd (texts : List String) : List Char :=
  texts.flatMap (fun text => ", ".toList ++ text.toList) ++ [')']

theorem ends_argumentsEnd (texts : List String) : Ends (argumentsEnd texts) := by
  cases texts with
  | nil => exact Ends.of_cons _ (by decide) (by decide)
  | cons text rest => exact Ends.of_cons _ (by decide) (by decide)

theorem argumentsEnd_cons (text : String) (rest : List String) :
    argumentsEnd (text :: rest) =
      ", ".toList ++ (text.toList ++ argumentsEnd rest) := by
  simp only [argumentsEnd, List.flatMap_cons, List.append_assoc]

theorem argumentsEnd_eq_intercalate (text : String) (rest : List String) :
    argumentsEnd (text :: rest) =
      ", ".toList ++ ((", ".intercalate (text :: rest)).toList ++ [')']) := by
  rw [String.toList_intercalate, List.map_cons, Text.Reader.intercalate_cons]
  simp only [argumentsEnd, List.flatMap_cons, List.flatMap_map, List.append_assoc]

/-- A scalar is read off the call where it ends; an array stands there by name. -/
theorem agree_of_argumentText {left right : Argument}
    (parameter : left.parameter = right.parameter)
    (leftExact : left.value.Exact left.parameter.type)
    (rightExact : right.value.Exact right.parameter.type) {leftText rightText : String}
    (leftOk : argumentText left = .ok leftText)
    (rightOk : argumentText right = .ok rightText) {leftRest rightRest : List Char}
    (leftEnds : Ends leftRest) (rightEnds : Ends rightRest)
    (same : leftText.toList ++ leftRest = rightText.toList ++ rightRest) :
    Argument.Agree false left right ∧ leftRest = rightRest := by
  unfold argumentText at leftOk rightOk
  rw [← parameter] at rightExact rightOk
  cases isArray : left.parameter.type.isArray with
  | true =>
      rw [if_pos isArray] at leftOk rightOk
      cases leftOk
      cases rightOk
      exact ⟨⟨parameter, fun other => Bool.noConfusion (isArray.symm.trans other)⟩,
        List.append_cancel_left same⟩
  | false =>
      rw [if_neg (Bool.eq_false_iff.mp isArray)] at leftOk rightOk
      obtain ⟨values, rests⟩ :=
        leftExact.eq_of_literals rightExact leftOk rightOk leftEnds rightEnds same
      exact ⟨⟨parameter, fun _ => values⟩, rests⟩

theorem agree_of_argumentsEnd
    (parameters : List.Forall₂ (fun left right => left.parameter = right.parameter)
      leftArguments rightArguments)
    (leftExact : ∀ argument ∈ leftArguments, argument.value.Exact argument.parameter.type)
    (rightExact : ∀ argument ∈ rightArguments, argument.value.Exact argument.parameter.type)
    {leftTexts rightTexts : List String}
    (leftOk : List.Forall₂ (fun argument text => argumentText argument = .ok text)
      leftArguments leftTexts)
    (rightOk : List.Forall₂ (fun argument text => argumentText argument = .ok text)
      rightArguments rightTexts)
    (same : argumentsEnd leftTexts = argumentsEnd rightTexts) :
    List.Forall₂ (Argument.Agree false) leftArguments rightArguments := by
  induction parameters generalizing leftTexts rightTexts with
  | nil => exact .nil
  | cons parameter _ ih =>
      obtain ⟨leftHere, leftLater⟩ := List.forall_mem_cons.mp leftExact
      obtain ⟨rightHere, rightLater⟩ := List.forall_mem_cons.mp rightExact
      obtain ⟨leftText, leftTexts, leftTextOk, leftRestOk, rfl⟩ :=
        List.forall₂_cons_left_iff.mp leftOk
      obtain ⟨rightText, rightTexts, rightTextOk, rightRestOk, rfl⟩ :=
        List.forall₂_cons_left_iff.mp rightOk
      rw [argumentsEnd_cons, argumentsEnd_cons] at same
      obtain ⟨agree, rests⟩ := agree_of_argumentText parameter leftHere rightHere
        leftTextOk rightTextOk (ends_argumentsEnd leftTexts)
        (ends_argumentsEnd rightTexts) (List.append_cancel_left same)
      exact .cons agree (ih leftLater rightLater leftRestOk rightRestOk rests)

/-- A call up to its first argument. -/
def callFront (method : Method) : String :=
  (if method.isStatic then sourceClassName method.declaringClass.name else receiverName) ++
    "." ++ method.name ++ "("

theorem exists_argumentTexts {call : String} (ascending : Argument.Ascending test.arguments)
    (bound : test.arguments.map (·.parameter) = test.method.arguments)
    (written : callExpression test = .ok call) :
    ∃ texts, List.Forall₂ (fun argument text => argumentText argument = .ok text)
      test.arguments texts ∧
        call = callFront test.method ++ ", ".intercalate texts ++ ")" := by
  obtain ⟨texts, argumentsOk, same⟩ := bind_eq_ok_iff.mp written
  rw [← bound] at argumentsOk
  have found : List.Forall₂
      (fun argument text => callArgument test argument.parameter = .ok text)
      test.arguments texts :=
    List.forall₂_map_left_iff.mp (mapM_eq_ok_iff.mp argumentsOk)
  refine ⟨texts, ?_, (Except.ok.inj same).symm⟩
  have each := (List.forall₂_and_left _ _).mpr
    ⟨fun _ member => callArgument_eq_argumentText ascending member, found⟩
  exact each.imp fun _ _ both => both.1.symm.trans both.2

/-- Equal calls list the same arguments. -/
theorem argumentsEnd_eq_of_calls {front : String} {leftTexts rightTexts : List String}
    (length : leftTexts.length = rightTexts.length)
    (same : front ++ ", ".intercalate leftTexts ++ ")" =
      front ++ ", ".intercalate rightTexts ++ ")") :
    argumentsEnd leftTexts = argumentsEnd rightTexts := by
  rw [String.append_left_inj, String.append_right_inj] at same
  cases leftTexts with
  | nil =>
      rw [List.length_eq_zero_iff.mp length.symm]
  | cons leftText leftRest =>
      cases rightTexts with
      | nil => cases length
      | cons rightText rightRest =>
          rw [argumentsEnd_eq_intercalate, argumentsEnd_eq_intercalate, same]

theorem agree_of_calls {method : Method} {call : String}
    (ordered : Parameter.Ascending method.parameters) (leftLegible : left.Legible method)
    (rightLegible : right.Legible method) (leftOk : callExpression left = .ok call)
    (rightOk : callExpression right = .ok call) :
    List.Forall₂ (Argument.Agree false) left.arguments right.arguments := by
  have parameters := leftLegible.parameters_agree rightLegible ordered
  obtain ⟨leftTexts, leftTextsOk, leftCall⟩ :=
    exists_argumentTexts leftLegible.ascending (leftLegible.bound_eq ordered) leftOk
  obtain ⟨rightTexts, rightTextsOk, rightCall⟩ :=
    exists_argumentTexts rightLegible.ascending (rightLegible.bound_eq ordered) rightOk
  rw [leftLegible.method_eq] at leftCall
  rw [rightLegible.method_eq] at rightCall
  have length : leftTexts.length = rightTexts.length :=
    leftTextsOk.length_eq.symm.trans (parameters.length_eq.trans rightTextsOk.length_eq)
  exact agree_of_argumentsEnd parameters leftLegible.arguments rightLegible.arguments
    leftTextsOk rightTextsOk
    (argumentsEnd_eq_of_calls length (leftCall.symm.trans rightCall))

theorem checks_of_outcomeStatements {method : Method} {statements : List Statement}
    (legible : test.Legible method)
    (written : outcomeStatements style test = .ok statements) :
    ∃ call, callExpression test = .ok call ∧
      Checks style method.returnType test call statements := by
  rw [← legible.method_eq]
  exact outcomeStatements_eq_ok_iff.mp written

/-- The call is read off the second line of an assertion, and the class off the first
if the messages are the same. -/
theorem assertThrows_inj {dialect : Dialect} {leftClass rightClass leftCall rightCall : String}
    {leftMessage rightMessage : Option String}
    (same : shownStatements dialect [.assertThrows leftClass leftCall leftMessage] =
      shownStatements dialect [.assertThrows rightClass rightCall rightMessage]) :
    leftCall = rightCall ∧ (leftMessage = rightMessage → leftClass = rightClass) := by
  simp only [shownStatements_assertThrows, List.cons.injEq, String.append_right_inj,
    String.append_left_inj, and_true] at same
  obtain ⟨opening, calls, _⟩ := same
  refine ⟨calls, ?_⟩
  rintro rfl
  cases dialect <;> cases leftMessage <;>
    simpa [Dialect.leadingMessage, Dialect.messageFirst] using opening

/-- A declaration does not look like the first line of an assertion. -/
theorem declare_ne_assertThrows {dialect : Dialect} {type : JavaType} {value : Value}
    {name text className call : String} {message : Option String} {rest : List Statement}
    (kept : value.Exact type) :
    shownStatements dialect (.declare type.sourceName name text :: rest) ≠
      shownStatements dialect [.assertThrows className call message] := by
  obtain ⟨first, letters, spelled, different⟩ := kept.exists_sourceName_eq_cons
  intro same
  rw [shownStatements_assertThrows, shownStatements_declare] at same
  have lines := (String.append_right_inj _).mp (List.cons.inj same).1
  have characters := congrArg String.toList lines
  simp only [String.toList_append, spelled, List.cons_append] at characters
  exact different (List.cons.inj characters).1

/-- The call and the outcome are read off the last statements. -/
theorem outcome_of_checks {dialect : Dialect} {method : Method}
    (leftLegible : left.Legible method) (rightLegible : right.Legible method)
    {leftCall rightCall : String} {leftStatements rightStatements : List Statement}
    (leftChecks : Checks style method.returnType left leftCall leftStatements)
    (rightChecks : Checks style method.returnType right rightCall rightStatements)
    (same : shownStatements dialect leftStatements =
      shownStatements dialect rightStatements) :
    leftCall = rightCall ∧
      (left.arguments = right.arguments → left.outcome.same right.outcome = true) := by
  cases leftChecks with
  | void leftOutcome =>
      cases rightChecks with
      | void rightOutcome =>
          simp only [shownStatements_perform, List.cons.injEq, String.append_right_inj,
            String.append_left_inj, and_true] at same
          rw [leftOutcome, rightOutcome]
          exact ⟨same, fun _ => rfl⟩
      | threw => cases (List.cons.inj same).2
      | returned => cases (List.cons.inj same).2
  | threw leftOutcome leftMessageOk =>
      cases rightChecks with
      | void => cases (List.cons.inj same).2
      | threw rightOutcome rightMessageOk =>
          obtain ⟨calls, classes⟩ := assertThrows_inj same
          refine ⟨calls, fun arguments => ?_⟩
          have messages : assertMessage style.message left =
              assertMessage style.message right := by
            simp only [assertMessage, leftLegible.method_eq, rightLegible.method_eq,
              arguments]
          rw [leftMessageOk, rightMessageOk] at messages
          have names := classes (Except.ok.inj messages)
          rw [leftLegible.sourceClassName_exception leftOutcome,
            rightLegible.sourceClassName_exception rightOutcome] at names
          rw [leftOutcome, rightOutcome]
          exact beq_iff_eq.mpr names
      | returned rightOutcome =>
          exact absurd same.symm
            (declare_ne_assertThrows (rightLegible.returned _ rightOutcome))
  | returned leftOutcome leftOk =>
      cases rightChecks with
      | void => cases (List.cons.inj same).2
      | threw =>
          exact absurd same (declare_ne_assertThrows (leftLegible.returned _ leftOutcome))
      | @returned value _ _ rightOutcome rightOk =>
          simp only [shownStatements_declare, List.cons.injEq, String.append_right_inj,
            String.append_left_inj] at same
          obtain ⟨rfl, calls, _⟩ := same
          have values := (leftLegible.returned _ leftOutcome).eq_of_literal
            (rightLegible.returned _ rightOutcome) leftOk rightOk
          rw [leftOutcome, rightOutcome, values]
          exact ⟨calls, fun _ => beq_self_eq_true value⟩

/-- The first lines of a test, which no style changes. -/
def heading (number : Nat) (test : TestCase) : List String :=
  let thrown := if test.didThrow then [] else test.method.thrown.map sourceClassName
  let clause := if thrown.isEmpty then "" else " throws " ++ ", ".intercalate thrown
  ["// Testing method " ++ test.method.name,
    "@Test",
    "public void test" ++ toString number ++ "()" ++ clause ++ " \x7b"]

theorem shown_testLines {lines : List Line}
    (written : testLines style number test = .ok lines) :
    ∃ arrays outcome, arrayLocals test.arguments = .ok arrays ∧
      outcomeStatements style test = .ok outcome ∧
      lines.map Line.shown =
        heading number test ++ (shownStatements style.dialect arrays ++
          (shownStatements style.dialect (receiverLocal test.method) ++
            shownStatements style.dialect outcome)) ++ ["\x7d"] := by
  obtain ⟨method, methodOk, same⟩ := bind_eq_ok_iff.mp written
  cases same
  obtain ⟨arrays, arraysOk, rest⟩ := bind_eq_ok_iff.mp methodOk
  obtain ⟨outcome, outcomeOk, last⟩ := bind_eq_ok_iff.mp rest
  cases last
  refine ⟨arrays, outcome, arraysOk, outcomeOk, ?_⟩
  have outermost (content : String) : (Line.code 0 content).shown = content :=
    String.empty_append
  rw [← shownStatements_append, ← shownStatements_append, ← List.append_assoc]
  simp only [TestMethod.lines, List.map_append, List.map_map, List.map_cons, List.map_nil,
    outermost]
  rfl

theorem exists_shown_testLines {lines : List Line}
    (written : testLines style number test = .ok lines) :
    ∃ front arrays outcome, front.length = 3 ∧
      arrayLocals test.arguments = .ok arrays ∧
      outcomeStatements style test = .ok outcome ∧
      lines.map Line.shown =
        front ++ (shownStatements style.dialect arrays ++
          (shownStatements style.dialect (receiverLocal test.method) ++
            shownStatements style.dialect outcome)) ++ ["\x7d"] := by
  obtain ⟨arrays, outcome, arraysOk, outcomeOk, shown⟩ := shown_testLines written
  exact ⟨heading number test, arrays, outcome, rfl, arraysOk, outcomeOk, shown⟩

/-- Texts lose nothing that counts: test cases of one method with the same text are
the same. -/
theorem formatTest_injective {owner : DeclaringClass} {name : String} {isStatic : Bool}
    {given : List (String × JavaType)} {returnType : JavaType} {thrown : List String}
    {method : Method}
    (declared : Method.declare owner name isStatic given returnType thrown = .ok method)
    {left right : TestCase} (leftLegible : left.Legible method)
    (rightLegible : right.Legible method) (style : Style) (counter : Nat) {text : String}
    (leftText : (formatTest style counter left).1 = .ok text)
    (rightText : (formatTest style counter right).1 = .ok text) :
    left.same right = true := by
  have ordered := Method.ascending_of_declare declared
  have methods : left.method = right.method :=
    leftLegible.method_eq.trans rightLegible.method_eq.symm
  -- The texts have the same lines, and the statements are in the same places.
  obtain ⟨leftLines, leftOk, leftJoined⟩ := formatTest_eq_ok_iff.mp leftText
  obtain ⟨rightLines, rightOk, rightJoined⟩ := formatTest_eq_ok_iff.mp rightText
  have lines := Line.eq_of_join_text (leftLegible.single_testLines leftOk)
    (rightLegible.single_testLines rightOk) (leftJoined.trans rightJoined.symm)
  obtain ⟨leftFront, leftArrays, leftOutcome, leftLength, leftArraysOk, leftOutcomeOk,
    leftShown⟩ := exists_shown_testLines leftOk
  obtain ⟨rightFront, rightArrays, rightOutcome, rightLength, rightArraysOk, rightOutcomeOk,
    rightShown⟩ := exists_shown_testLines rightOk
  rw [leftShown, rightShown] at lines
  have bodies := (List.append_inj (List.append_cancel_right lines)
    (leftLength.trans rightLength.symm)).2
  obtain ⟨arrays, others⟩ := agree_of_arrayLocals
    (leftLegible.parameters_agree rightLegible ordered) leftLegible.arguments
    rightLegible.arguments leftArraysOk rightArraysOk bodies
  rw [methods] at others
  obtain ⟨leftCall, leftCallOk, leftChecks⟩ :=
    checks_of_outcomeStatements leftLegible leftOutcomeOk
  obtain ⟨rightCall, rightCallOk, rightChecks⟩ :=
    checks_of_outcomeStatements rightLegible rightOutcomeOk
  obtain ⟨rfl, outcomes⟩ := outcome_of_checks leftLegible rightLegible leftChecks
    rightChecks (List.append_cancel_left others)
  have scalars := agree_of_calls ordered leftLegible rightLegible leftCallOk rightCallOk
  have arguments := Argument.eq_of_agree arrays scalars
  exact TestCase.same_iff.mpr ⟨methods, arguments, outcomes arguments⟩

/-- A call of the sampled method that ends with an exception. -/
def thrownSample (message : Option String) : TestCase :=
  { sampleTest 5 with
    outcome := .threw { typeName := "java.io.IOException", message := message } }

theorem legible_thrownSample (message : Option String) :
    (thrownSample message).Legible (sampleTest 5).method := by
  have names : (sampleTest 5).NamesWithin fun character =>
      character ≠ '\n' ∧ character ≠ '$' :=
    ⟨by decide, by decide, by decide, by decide, by decide, nofun⟩
  have exception : Within (fun character => character ≠ '\n' ∧ character ≠ '$')
      "java.io.IOException" := by decide
  have covers : Primitive.int.Covers (5 : Int64).toInt := by decide
  have kept : ∀ argument ∈ (sampleTest 5).arguments,
      argument.value.Exact argument.parameter.type := by
    simp only [sampleTest, List.tail_cons, List.zip_cons_cons, List.zip_nil_right,
      List.map_cons, List.map_nil, List.forall_mem_cons]
    refine ⟨.array ?_, .scalar (.integer covers), List.forall_mem_nil _⟩
    exact List.forall_mem_singleton.mpr (.integer covers)
  exact
    { built := ⟨(sampleTest 5).arguments.map Argument.pair, (thrownSample message).outcome, rfl⟩
      names := ⟨names.owner, names.method, names.parameters, names.arguments, names.thrown,
        fun _ threw => Outcome.threw.inj threw ▸ exception⟩
      arguments := kept
      returned := nofun }

/-- The message of an exception is not in the text. -/
theorem formatTest_injective_message :
    ∃ text, (formatTest sampleStyle 7 (thrownSample (some "end"))).1 = .ok text ∧
      (formatTest sampleStyle 7 (thrownSample none)).1 = .ok text ∧
      (thrownSample (some "end")).same (thrownSample none) = true := by
  have written : ∃ text, (formatTest sampleStyle 7 (thrownSample (some "end"))).1 = .ok text ∧
      (formatTest sampleStyle 7 (thrownSample none)).1 = .ok text :=
    ⟨_, rfl, rfl⟩
  have declared : Method.declare { name := "demo.Sample", hasDefaultConstructor := true }
      "count" false [("xs", .arrayOf .int), ("n", .primitive .int)] (.primitive .int)
      ["java.io.IOException"] = .ok (sampleTest 5).method := rfl
  obtain ⟨text, left, right⟩ := written
  exact ⟨text, left, right, formatTest_injective declared (legible_thrownSample _)
    (legible_thrownSample _) sampleStyle 7 left right⟩

end JUnit

end TestSynth
