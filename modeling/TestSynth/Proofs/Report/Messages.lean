import TestSynth.Proofs.Report.SingleLines
import TestSynth.Proofs.TestCase.Binding
import TestSynth.Proofs.Text.StringLiterals

/-!
# Messages of assertions

A message is one string literal.  It stands for a text that names the method and lists the
literals of the arguments, which may have quotes and escapes of their own.
-/

namespace TestSynth

open StringLiteral (Plain Spells)

/-- An argument as a message shows it, by its literal. -/
def Argument.shownAs (argument : Argument) (text : String) : String :=
  "\n" ++ argument.parameter.name ++ ":\t" ++ text

/-- The text that the message of a test case stands for. -/
def TestCase.messageText (test : TestCase) (level : MessageLevel) (literals : List String) :
    String :=
  "Test for method " ++ test.method.name ++ " failed." ++
    if level = .full then
      "\nInput:" ++ String.join (List.zipWith Argument.shownAs test.arguments literals)
    else ""

namespace JUnit

/-- The arguments have these literals. -/
abbrev HaveLiterals (arguments : List Argument) (literals : List String) : Prop :=
  List.Forall₂ (fun argument text => literal argument.parameter.type argument.value = .ok text)
    arguments literals

variable {test : TestCase} {argument : Argument} {arguments : List Argument}
  {text name : String} {literals : List String}

theorem plain_of_printable {character : Char} (printable : Printable character)
    (unmarked : ¬ (character = '\\' || character = '"') = true) : Plain character := by
  have visible : character ≠ '\n' ∧ character ≠ '\r' := by
    constructor
    · rintro rfl
      exact absurd printable (by decide)
    · rintro rfl
      exact absurd printable (by decide)
  simp only [Bool.or_eq_true, decide_eq_true_eq, not_or] at unmarked
  simp only [Plain, List.mem_cons, List.not_mem_nil, or_false, not_or]
  exact ⟨unmarked.2, unmarked.1, visible⟩

/-- An escaped text is spelled in a string literal. -/
theorem spells_escapeString (printable : Within Printable text) :
    Spells (escapeString text).toList text.toList := by
  unfold escapeString
  rw [String.toList_ofList]
  unfold Within at printable
  generalize text.toList = characters at printable ⊢
  induction characters with
  | nil => exact .nil
  | cons character rest ih =>
      obtain ⟨here, later⟩ := List.forall_mem_cons.mp printable
      rw [List.flatMap_cons]
      split
      · rename_i marked
        simp only [Bool.or_eq_true, decide_eq_true_eq] at marked
        rcases marked with rfl | rfl
        · exact .escape rfl (ih later)
        · exact .escape rfl (ih later)
      · rename_i unmarked
        exact .plain (plain_of_printable here unmarked) (ih later)

/-- An argument as it stands in a message. -/
def writtenAs (argument : Argument) (text : String) : String :=
  "\\n" ++ argument.parameter.name ++ ":\\t" ++ escapeString text

theorem spells_writtenAs (plain : Within Plain argument.parameter.name)
    (printable : Within Printable text) :
    Spells (writtenAs argument text).toList (argument.shownAs text).toList := by
  have feed : Spells "\\n".toList "\n".toList := .escape rfl .nil
  have colon : Spells ":\\t".toList ":\t".toList := .plain (by decide) (.escape rfl .nil)
  exact ((feed.append_text (.of_plain plain)).append_text colon).append_text
    (spells_escapeString printable)

theorem mapM_messageArgument (written : HaveLiterals arguments literals) :
    arguments.mapM messageArgument = .ok (List.zipWith writtenAs arguments literals) := by
  refine mapM_eq_ok_iff.mpr ?_
  induction written with
  | nil => exact .nil
  | cons here _ ih => exact .cons (bind_eq_ok_iff.mpr ⟨_, here, rfl⟩) ih

theorem spells_arguments (written : HaveLiterals arguments literals)
    (names : ∀ argument ∈ arguments, Within Plain argument.parameter.name) :
    Spells (String.join (List.zipWith writtenAs arguments literals)).toList
      (String.join (List.zipWith Argument.shownAs arguments literals)).toList := by
  induction written with
  | nil => exact .nil
  | cons here _ ih =>
      obtain ⟨plain, later⟩ := List.forall_mem_cons.mp names
      rw [List.zipWith_cons_cons, List.zipWith_cons_cons, String.join_cons, String.join_cons]
      exact (spells_writtenAs plain (printable_literal here)).append_text (ih later)

theorem spells_subject (plain : Within Plain name) :
    Spells ("Test for method " ++ name ++ " failed.").toList
      ("Test for method " ++ name ++ " failed.").toList :=
  .of_plain (Within.append (Within.append (by decide) plain) (by decide))

theorem assertMessage_full (written : HaveLiterals test.arguments literals) :
    assertMessage .full test = .ok (some ("\"" ++
      ("Test for method " ++ test.method.name ++ " failed." ++
        ("\\nInput:" ++ String.join (List.zipWith writtenAs test.arguments literals))) ++
      "\"")) := by
  refine bind_eq_ok_iff.mpr ⟨_, mapM_messageArgument written, ?_⟩
  simp only [String.append_assoc]
  rfl

/-- What stands between the quotes of a message. -/
theorem exists_assertMessage {level : MessageLevel} (shown : level ≠ .off)
    (subject : Within Plain test.method.name)
    (names : ∀ argument ∈ test.arguments, Within Plain argument.parameter.name)
    (written : HaveLiterals test.arguments literals) :
    ∃ inner, assertMessage level test = .ok (some ("\"" ++ inner ++ "\"")) ∧
      Spells inner.toList (test.messageText level literals).toList := by
  cases level with
  | off => exact absurd rfl shown
  | short =>
      refine ⟨"Test for method " ++ test.method.name ++ " failed.", rfl, ?_⟩
      unfold TestCase.messageText
      rw [if_neg MessageLevel.noConfusion, String.append_empty]
      exact spells_subject subject
  | full =>
      refine ⟨_, assertMessage_full written, ?_⟩
      have plain : Within Plain "Input:" := by decide
      have input : Spells "\\nInput:".toList "\nInput:".toList :=
        .escape rfl (.of_plain plain)
      unfold TestCase.messageText
      rw [if_pos rfl]
      exact (spells_subject subject).append_text
        (input.append_text (spells_arguments written names))

/-- The message of a test case is one string literal.  It stands for the text that names
the method and lists the literals of the arguments, which a built test case has in the
order of declaration. -/
theorem assertMessage_standsFor {level : MessageLevel} (shown : level ≠ .off)
    (subject : Within Plain test.method.name)
    (names : ∀ argument ∈ test.arguments, Within Plain argument.parameter.name)
    (renders : ∀ argument ∈ test.arguments, argument.HasLiteral) :
    (∃ message literals, assertMessage level test = .ok (some message) ∧
      HaveLiterals test.arguments literals ∧
      StringLiteral.StandsFor message (test.messageText level literals)) ∧
    ∀ method given outcome, TestCase.build method given outcome = .ok test →
      Argument.Ascending test.arguments ∧
        (Parameter.Ascending method.parameters →
          test.arguments.map (·.parameter) = method.arguments) := by
  obtain ⟨literals, written⟩ := exists_forall₂ renders
  obtain ⟨inner, messageOk, spells⟩ := exists_assertMessage shown subject names written
  refine ⟨⟨_, literals, messageOk, written, StringLiteral.standsFor_of_spells spells⟩, ?_⟩
  intro method given outcome built
  exact ⟨(TestCase.build_eq_ok built).2.2.2,
    fun ordered => TestCase.parameters_of_build ordered built⟩

def quotingMethod : Method :=
  { declaringClass := { name := "demo.Marks", hasDefaultConstructor := true }
    name := "count"
    isStatic := true
    parameters := [
      { name := "expected", type := .arrayOf .char, ordinal := 0, isReceiver := false },
      { name := "n", type := .primitive .long, ordinal := 1, isReceiver := false }]
    returnType := .primitive .int
    thrown := [] }

/-- A test case with quotes and backslashes among its arguments. -/
def quotingTest : TestCase :=
  let array : ScalarArray :=
    { element := .char, elements := [.integer 34, .integer 92, .integer 39, .integer 10] }
  { method := quotingMethod
    arguments := (quotingMethod.arguments.zip [.array array, .scalar (.integer 4)]).map
      fun (parameter, value) => { parameter := parameter, value := value }
    outcome := .returned (.scalar (.integer 0)) }

theorem assertMessage_standsFor_quotes :
    ∃ message, assertMessage .full quotingTest = .ok (some message) ∧
      StringLiteral.StandsFor message
        ("Test for method count failed.\nInput:" ++
          "\nexpected:\t\x7b'\"', '\\\\', '\\'', (char) 10\x7d\nn:\t4L") := by
  have written : HaveLiterals quotingTest.arguments
      ["\x7b'\"', '\\\\', '\\'', (char) 10\x7d", "4L"] := .cons rfl (.cons rfl .nil)
  have shown : MessageLevel.full ≠ .off := MessageLevel.noConfusion
  have subject : Within Plain quotingTest.method.name := by decide
  have renders : ∀ argument ∈ quotingTest.arguments, argument.HasLiteral :=
    List.forall_mem_cons.mpr ⟨⟨_, rfl⟩, List.forall_mem_singleton.mpr ⟨_, rfl⟩⟩
  obtain ⟨⟨message, literals, messageOk, others, stands⟩, _⟩ :=
    assertMessage_standsFor shown subject (by decide) renders
  cases (mapM_eq_ok_iff.mpr others).symm.trans (mapM_eq_ok_iff.mpr written)
  exact ⟨message, messageOk, stands⟩

end JUnit

end TestSynth
