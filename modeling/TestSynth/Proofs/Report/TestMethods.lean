import TestSynth.Proofs.Report.Decoding

/-!
# What test methods say

The test method of a test case declares the array arguments and the receiver, calls the
method with the values that the test case binds, and checks the outcome.  Nothing else
is in it, whatever the dialect and the number.
-/

namespace TestSynth.JUnit

/-- The local variable of an array argument holds its literal. -/
def Declares (argument : Argument) (statement : Statement) : Prop :=
  ∃ text, literal argument.parameter.type argument.value = .ok text ∧
    statement =
      .declare argument.parameter.type.sourceName (localName argument.parameter.name) text

/-- What stands for a parameter in the call: the literal of the value that is bound to it,
or for an array the local variable. -/
def Passes (test : TestCase) (parameter : Parameter) (text : String) : Prop :=
  ∃ value, test.valueOf? parameter = some value ∧
    if parameter.type.isArray then text = localName parameter.name
    else literal parameter.type value = .ok text

/-- The call of the method of a test case with what is bound to its parameters. -/
def Calls (test : TestCase) (call : String) : Prop :=
  ∃ texts, List.Forall₂ (Passes test) test.method.arguments texts ∧
    call = callFront test.method ++ ", ".intercalate texts ++ ")"

/-- The receiver of an instance method is made by the constructor of a class. -/
def Creates (className : String) : Statement → Prop :=
  (· = .declare className "instance" ("new " ++ className ++ "()"))

/-- The statements of a test: declarations, and checks of what the call gives. -/
inductive Performs (style : Style) (test : TestCase) : List Statement → Prop
  | onClass {arrays checks : List Statement} {call : String} :
      test.method.isStatic = true →
      List.Forall₂ Declares (test.arguments.filter (·.parameter.type.isArray)) arrays →
      Calls test call → Checks style test.method.returnType test call checks →
      Performs style test (arrays ++ checks)
  | onInstance {arrays checks : List Statement} {receiver : Statement} {call : String} :
      test.method.isStatic = false →
      List.Forall₂ Declares (test.arguments.filter (·.parameter.type.isArray)) arrays →
      Creates (sourceClassName test.method.declaringClass.name) receiver →
      Calls test call → Checks style test.method.returnType test call checks →
      Performs style test (arrays ++ [receiver] ++ checks)

/-- A test method is made of a test case: it is called by its number, declares what the
method throws unless the test case itself ends so, and performs the test. -/
structure Shows (style : Style) (item : TestCase × Nat) (method : TestMethod) :
    Prop where
  made : testMethod style item.2 item.1 = .ok method
  headed : ∃ body,
    method.lines style.dialect =
      .code 0 ("// Testing method " ++ item.1.method.name) ::
        .code 0 "@Test" ::
        .code 0 ("public void test" ++ toString item.2 ++ "()" ++
          method.throwsClause ++ " \x7b") :: body
  thrown : method.thrown =
    if item.1.didThrow then [] else item.1.method.thrown.map sourceClassName
  performs : Performs style item.1 method.body

variable {style : Style} {number : Nat} {test : TestCase} {method : TestMethod}

theorem declares_of_arrayLocals {arguments : List Argument} {statements : List Statement}
    (written : arrayLocals arguments = .ok statements) :
    List.Forall₂ Declares (arguments.filter (·.parameter.type.isArray)) statements := by
  induction arguments generalizing statements with
  | nil =>
      cases written
      exact .nil
  | cons argument rest ih =>
      cases isArray : argument.parameter.type.isArray with
      | true =>
          obtain ⟨text, others, textOk, othersOk, rfl⟩ := arrayLocals_of_array isArray written
          rw [List.filter_cons_of_pos (by exact isArray)]
          exact .cons ⟨text, textOk, rfl⟩ (ih othersOk)
      | false =>
          rw [arrayLocals_of_not_array rest isArray] at written
          rw [List.filter_cons_of_neg (by simp [isArray])]
          exact ih written

theorem passes_of_callArgument {parameter : Parameter} {text : String}
    (written : callArgument test parameter = .ok text) : Passes test parameter text := by
  unfold callArgument at written
  cases bound : test.valueOf? parameter with
  | none =>
      rw [bound] at written
      cases written
  | some value =>
      rw [bound] at written
      refine ⟨value, bound, ?_⟩
      cases isArray : parameter.type.isArray with
      | true =>
          simp only [isArray, if_true] at written ⊢
          exact (Except.ok.inj written).symm
      | false =>
          simp only [isArray, Bool.false_eq_true, if_false] at written ⊢
          exact written

theorem calls_of_callExpression {call : String} (written : callExpression test = .ok call) :
    Calls test call := by
  obtain ⟨texts, textsOk, same⟩ := bind_eq_ok_iff.mp written
  refine ⟨texts, (mapM_eq_ok_iff.mp textsOk).imp fun _ _ => passes_of_callArgument, ?_⟩
  exact (Except.ok.inj same).symm

theorem shows_of_testMethod (made : testMethod style number test = .ok method) :
    Shows style (test, number) method := by
  have parts := made
  obtain ⟨arrays, arraysOk, rest⟩ := bind_eq_ok_iff.mp parts
  obtain ⟨checks, checksOk, same⟩ := bind_eq_ok_iff.mp rest
  obtain ⟨call, callOk, checked⟩ := outcomeStatements_eq_ok_iff.mp checksOk
  cases same
  refine ⟨made, ⟨_, rfl⟩, rfl, ?_⟩
  have declared := declares_of_arrayLocals arraysOk
  have called := calls_of_callExpression callOk
  cases isStatic : test.method.isStatic with
  | true =>
      simp only [receiverLocal, isStatic, if_true, List.append_nil]
      exact .onClass isStatic declared called checked
  | false =>
      simp only [receiverLocal, isStatic, Bool.false_eq_true, if_false]
      exact .onInstance isStatic declared rfl called checked

end TestSynth.JUnit
