import TestSynth.Proofs.Report.Locals

/-!
# Agreement of styles

Styles differ in their dialect and in what a message says.  Whether a test case has a text
does not depend on the style.  The texts in two styles have the same lines, except for the
lines of an assertion, which differ by the message and the tolerance.
-/

namespace TestSynth

/-- The text consists of these lines, each with a line feed after it. -/
structure HasLines (text : String) (lines : List String) : Prop where
  single : ∀ line ∈ lines, SingleLine line
  joined : String.join (lines.map (· ++ "\n")) = text

namespace JUnit

variable {left right style : Style} {test : TestCase} {arguments : List Argument}
  {statements leftStatements rightStatements : List Statement} {number : Nat}

/-- An assertion that the result is the expected one. -/
def comparisonLine (style : Style) (type : JavaType) (message : Option String) : String :=
  "    " ++ ((if type.isArray then "assertArrayEquals" else "assertEquals") ++ "(" ++
    ", ".intercalate (style.dialect.leadingMessage message ++ ["expected", "result"] ++
      (if style.dialect.takesTolerance then tolerance? type else none).toList ++
        style.dialect.trailingMessage message) ++ ");")

/-- An assertion that an exception is thrown, up to the call. -/
def openingLine (style : Style) (exception : ThrownException) (message : Option String) :
    String :=
  "    " ++ ("assertThrows(" ++ ", ".intercalate (style.dialect.leadingMessage message ++
    [sourceClassName exception.typeName ++ ".class", "() -> \x7b"]))

/-- The call that is asserted to throw an exception. -/
def callLine (call : String) : String :=
  "        " ++ (call ++ ";")

/-- An assertion that an exception is thrown, behind the call. -/
def closingLine (style : Style) (message : Option String) : String :=
  "    " ++ (", ".intercalate ("\x7d" :: style.dialect.trailingMessage message) ++ ");")

/-- The lines of an assertion in two styles, which differ by nothing but the message, its
place and the tolerance. -/
inductive Alike (left right : Style) (test : TestCase) : List String → List String → Prop
  | void : test.outcome = .void → Alike left right test [] []
  | returned {value : Value} {leftMessage rightMessage : Option String} :
      test.outcome = .returned value →
      assertMessage left.message test = .ok leftMessage →
      assertMessage right.message test = .ok rightMessage →
      Alike left right test [comparisonLine left test.method.returnType leftMessage]
        [comparisonLine right test.method.returnType rightMessage]
  | threw {exception : ThrownException} {call : String}
      {leftMessage rightMessage : Option String} :
      test.outcome = .threw exception →
      callExpression test = .ok call →
      assertMessage left.message test = .ok leftMessage →
      assertMessage right.message test = .ok rightMessage →
      Alike left right test
        [openingLine left exception leftMessage, callLine call, closingLine left leftMessage]
        [openingLine right exception rightMessage, callLine call, closingLine right rightMessage]

theorem Alike.length_eq {leftLines rightLines : List String}
    (alike : Alike left right test leftLines rightLines) :
    leftLines.length = rightLines.length := by
  cases alike <;> rfl

theorem Alike.eq_of_void {leftLines rightLines : List String}
    (alike : Alike left right test leftLines rightLines) (void : test.outcome = .void) :
    leftLines = rightLines := by
  cases alike with
  | void => rfl
  | returned outcome => cases void.symm.trans outcome
  | threw outcome => cases void.symm.trans outcome

/-- A test case has a text exactly if its values have literals.  An array argument is
written as a local variable, any other in the call. -/
theorem exists_formatTest_iff (ascending : Argument.Ascending test.arguments)
    (bound : test.arguments.map (·.parameter) = test.method.arguments) :
    (∃ text, (formatTest style number test).1 = .ok text) ↔ test.HasLiterals := by
  constructor
  · rintro ⟨text, written⟩
    obtain ⟨lines, linesOk, _⟩ := formatTest_eq_ok_iff.mp written
    obtain ⟨arrays, outcome, arraysOk, outcomeOk, _⟩ := shown_testLines linesOk
    obtain ⟨call, callOk, checks⟩ := outcomeStatements_eq_ok_iff.mp outcomeOk
    obtain ⟨texts, textsOk, _⟩ := exists_argumentTexts ascending bound callOk
    refine ⟨fun argument member => ?_, fun value returned => ?_⟩
    · cases isArray : argument.parameter.type.isArray with
      | true =>
          obtain ⟨value, valueOk, _⟩ := mem_arrayLocals arraysOk member isArray
          exact ⟨value, valueOk⟩
      | false =>
          obtain ⟨value, valueOk⟩ :=
            exists_mapM_iff.mp ⟨texts, mapM_eq_ok_iff.mpr textsOk⟩ argument member
          rw [argumentText, if_neg (Bool.eq_false_iff.mp isArray)] at valueOk
          exact ⟨value, valueOk⟩
    · cases checks with
      | void other => cases returned.symm.trans other
      | threw other => cases returned.symm.trans other
      | returned other expectedOk =>
          cases returned.symm.trans other
          exact ⟨_, expectedOk⟩
  · intro has
    obtain ⟨lines, linesOk⟩ :=
      exists_testLines ascending (bound ▸ List.Perm.refl _) has style number
    exact ⟨_, formatTest_eq_ok_iff.mpr ⟨lines, linesOk, rfl⟩⟩

/-- Declarations look the same in all dialects. -/
theorem shownStatements_eq_of_declare (leftDialect rightDialect : Dialect)
    (declare : ∀ statement ∈ statements, statement.local?.isSome = true) :
    shownStatements leftDialect statements = shownStatements rightDialect statements := by
  have same : statements.flatMap (Statement.lines leftDialect) =
      statements.flatMap (Statement.lines rightDialect) := by
    refine List.flatMap_congr fun statement member => ?_
    have declares := declare statement member
    cases statement with
    | declare => rfl
    | _ => cases declares
  rw [shownStatements, same]
  rfl

theorem declare_arrayLocals (written : arrayLocals arguments = .ok statements) :
    ∀ statement ∈ statements, statement.local?.isSome = true := by
  induction arguments generalizing statements with
  | nil =>
      cases written
      exact List.forall_mem_nil _
  | cons argument rest ih =>
      cases isArray : argument.parameter.type.isArray with
      | true =>
          obtain ⟨text, others, _, othersOk, rfl⟩ := arrayLocals_of_array isArray written
          exact List.forall_mem_cons.mpr ⟨rfl, ih othersOk⟩
      | false =>
          rw [arrayLocals_of_not_array rest isArray] at written
          exact ih written

theorem declare_receiverLocal (method : Method) :
    ∀ statement ∈ receiverLocal method, statement.local?.isSome = true := by
  unfold receiverLocal
  split
  · exact List.forall_mem_nil _
  · exact List.forall_mem_singleton.mpr rfl

/-- In two styles the outcome of a call is checked alike. -/
theorem Checks.alike {call : String} (callOk : callExpression test = .ok call)
    (leftChecks : Checks left test.method.returnType test call leftStatements)
    (rightChecks : Checks right test.method.returnType test call rightStatements) :
    ∃ front leftLines rightLines,
      shownStatements left.dialect leftStatements = front ++ leftLines ∧
      shownStatements right.dialect rightStatements = front ++ rightLines ∧
      Alike left right test leftLines rightLines := by
  cases leftChecks with
  | void outcome =>
      cases rightChecks with
      | void =>
          exact ⟨_, [], [], (List.append_nil _).symm, (List.append_nil _).symm, .void outcome⟩
      | threw other => cases outcome.symm.trans other
      | returned other => cases outcome.symm.trans other
  | threw outcome messageOk =>
      cases rightChecks with
      | void other => cases outcome.symm.trans other
      | threw other otherMessageOk =>
          cases outcome.symm.trans other
          exact ⟨[], _, _, rfl, rfl, .threw outcome callOk messageOk otherMessageOk⟩
      | returned other => cases outcome.symm.trans other
  | @returned value expected _ outcome expectedOk messageOk =>
      cases rightChecks with
      | void other => cases outcome.symm.trans other
      | threw other => cases outcome.symm.trans other
      | returned other otherExpectedOk otherMessageOk =>
          cases outcome.symm.trans other
          cases expectedOk.symm.trans otherExpectedOk
          let declarations : List Statement :=
            [.declare test.method.returnType.sourceName expectedName expected,
              .declare test.method.returnType.sourceName resultName call]
          exact ⟨shownStatements left.dialect declarations, _, _,
            shownStatements_append left.dialect declarations [_],
            shownStatements_append right.dialect declarations [_],
            .returned outcome messageOk otherMessageOk⟩

theorem hasLines_of_testLines {lines : List Line} (names : test.NamesWithin (· ≠ '\n'))
    (written : testLines style number test = .ok lines) :
    HasLines (String.join (lines.map Line.text)) (lines.map Line.shown) :=
  { single := List.forall_mem_map.mpr fun line member =>
      (single_testLines names written line member).shown
    joined := by
      rw [List.map_map]
      rfl }

/-- A test case of a declared method has a text in one style exactly if it has one in
another.  The texts have the same lines, but for those of an assertion. -/
theorem formatTest_alike {owner : DeclaringClass} {name : String} {isStatic : Bool}
    {parameters : List (String × JavaType)} {returnType : JavaType} {thrown : List String}
    {method : Method} {given : List (Parameter × Value)} {outcome : Outcome}
    (declared : Method.declare owner name isStatic parameters returnType thrown = .ok method)
    (built : TestCase.build method given outcome = .ok test)
    (names : test.NamesWithin (· ≠ '\n')) (left right : Style) (counter : Nat) :
    ((∃ text, (formatTest left counter test).1 = .ok text) ↔
        ∃ text, (formatTest right counter test).1 = .ok text) ∧
      ∀ leftText rightText, (formatTest left counter test).1 = .ok leftText →
        (formatTest right counter test).1 = .ok rightText →
        (∃ front leftLines rightLines back,
          HasLines leftText (front ++ leftLines ++ back) ∧
          HasLines rightText (front ++ rightLines ++ back) ∧
          leftLines.length = rightLines.length ∧
          Alike left right test leftLines rightLines) ∧
        (outcome = .void → leftText = rightText) := by
  have parameters := TestCase.parameters_of_build (Method.ascending_of_declare declared) built
  obtain ⟨rfl, rfl, _, ascending⟩ := TestCase.build_eq_ok built
  refine ⟨(exists_formatTest_iff ascending parameters).trans
    (exists_formatTest_iff ascending parameters).symm, ?_⟩
  intro leftText rightText leftWritten rightWritten
  obtain ⟨leftLines, leftOk, rfl⟩ := formatTest_eq_ok_iff.mp leftWritten
  obtain ⟨rightLines, rightOk, rfl⟩ := formatTest_eq_ok_iff.mp rightWritten
  have leftHas := hasLines_of_testLines names leftOk
  have rightHas := hasLines_of_testLines names rightOk
  obtain ⟨arrays, leftOutcome, arraysOk, leftOutcomeOk, leftShown⟩ := shown_testLines leftOk
  obtain ⟨others, rightOutcome, othersOk, rightOutcomeOk, rightShown⟩ :=
    shown_testLines rightOk
  cases arraysOk.symm.trans othersOk
  obtain ⟨call, callOk, leftChecks⟩ := outcomeStatements_eq_ok_iff.mp leftOutcomeOk
  obtain ⟨other, otherOk, rightChecks⟩ := outcomeStatements_eq_ok_iff.mp rightOutcomeOk
  cases callOk.symm.trans otherOk
  obtain ⟨front, leftBack, rightBack, leftSplit, rightSplit, alike⟩ :=
    leftChecks.alike callOk rightChecks
  -- The declarations in front of the assertion are the same in the other dialect.
  rw [shownStatements_eq_of_declare right.dialect left.dialect (declare_arrayLocals arraysOk),
    shownStatements_eq_of_declare right.dialect left.dialect
      (declare_receiverLocal test.method), rightSplit] at rightShown
  rw [leftSplit] at leftShown
  rw [leftShown] at leftHas
  rw [rightShown] at rightHas
  simp only [← List.append_assoc] at leftHas rightHas
  refine ⟨⟨_, leftBack, rightBack, _, leftHas, rightHas, alike.length_eq, alike⟩, ?_⟩
  intro void
  rw [← leftHas.joined, ← rightHas.joined, alike.eq_of_void void]

def halvingMethod : Method :=
  { declaringClass := { name := "demo.Ratio", hasDefaultConstructor := true }
    name := "half"
    isStatic := true
    parameters := [{ name := "n", type := .primitive .int, ordinal := 0, isReceiver := false }]
    returnType := .primitive .double
    thrown := [] }

/-- A call with a real result. -/
def halvingTest : TestCase :=
  { method := halvingMethod
    arguments := halvingMethod.arguments.map fun parameter =>
      { parameter := parameter, value := .scalar (.integer 0) }
    outcome := .returned (.scalar (.real 0)) }

/-- The message comes first in one style, with a tolerance last, and last in the other. -/
theorem formatTest_alike_tolerance :
    let left : Style := { dialect := .junit4, package := none, className := "T", message := .full }
    let right : Style :=
      { dialect := .junit5, package := none, className := "T", message := .short }
    ∃ leftText rightText front back,
      (formatTest left 3 halvingTest).1 = .ok leftText ∧
      (formatTest right 3 halvingTest).1 = .ok rightText ∧
      HasLines leftText (front ++ ["    assertEquals(\"Test for method half failed." ++
        "\\nInput:\\nn:\\t0\", expected, result, 0.0);"] ++ back) ∧
      HasLines rightText (front ++
        ["    assertEquals(expected, result, \"Test for method half failed.\");"] ++ back) := by
  intro left right
  have declared : Method.declare { name := "demo.Ratio", hasDefaultConstructor := true }
      "half" true [("n", .primitive .int)] (.primitive .double) [] = .ok halvingMethod := rfl
  have built : TestCase.build halvingMethod (halvingTest.arguments.map Argument.pair)
      halvingTest.outcome = .ok halvingTest := rfl
  have names : halvingTest.NamesWithin (· ≠ '\n') :=
    ⟨by decide, by decide, by decide, by decide, by decide, nofun⟩
  obtain ⟨succeeds, alike⟩ := formatTest_alike declared built names left right 3
  have written : ∃ text, (formatTest left 3 halvingTest).1 = .ok text := ⟨_, rfl⟩
  obtain ⟨leftText, leftWritten⟩ := written
  obtain ⟨rightText, rightWritten⟩ := succeeds.mp ⟨leftText, leftWritten⟩
  obtain ⟨⟨front, leftLines, rightLines, back, leftHas, rightHas, _, lines⟩, _⟩ :=
    alike leftText rightText leftWritten rightWritten
  refine ⟨leftText, rightText, front, back, leftWritten, rightWritten, ?_⟩
  cases lines with
  | void outcome => cases outcome
  | threw outcome => cases outcome
  | returned _ leftMessageOk rightMessageOk =>
      cases leftMessageOk
      cases rightMessageOk
      exact ⟨leftHas, rightHas⟩

end JUnit

end TestSynth
