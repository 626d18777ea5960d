import TestSynth.Proofs.Json.RoundTrip
import TestSynth.Proofs.TestCase.Binding
import TestSynth.Proofs.TestCase.Collecting
import TestSynth.Report.Document

/-!
# Test cases in documents

A document shows the scenario of a test case: the names, types and values of the arguments
and the outcome.  Of a real that is not finite it shows only that it is one.  Test cases of
a method have the same text exactly if they are equal up to that.
-/

namespace TestSynth

section Blurring

/-- The bits that are taken for all reals that are not finite. -/
def blurredBits : UInt64 :=
  0x7ff8000000000000

/-- The scalar, with all reals that are not finite taken for one. -/
def Scalar.blurred : Scalar → Scalar
  | .real bits =>
      match realValue bits with
      | .finite _ _ => .real bits
      | _ => .real blurredBits
  | scalar => scalar

def Value.blurred : Value → Value
  | .scalar content => .scalar content.blurred
  | .array content =>
      .array { element := content.element, elements := content.elements.map Scalar.blurred }

def Argument.blurred (argument : Argument) : Argument :=
  { parameter := argument.parameter, value := argument.value.blurred }

def Outcome.blurred : Outcome → Outcome
  | .returned value => .returned value.blurred
  | outcome => outcome

def TestCase.blurred (test : TestCase) : TestCase :=
  { method := test.method
    arguments := test.arguments.map Argument.blurred
    outcome := test.outcome.blurred }

end Blurring

section Decoding

/-- The scalar that a document shows. -/
def Scalar.ofShown? : Json → Option Scalar
  | .integer value => some (.integer (.ofInt value))
  | .real bits => some (.real bits)
  | .boolean value => some (.boolean value)
  | .null => some (.real blurredBits)
  | _ => none

def Value.ofShown? : Json → Option Value
  | .object [(_, .string keyword), (_, .array items)] => do
      let element ← Primitive.ofKeyword? keyword
      let elements ← items.mapM Scalar.ofShown?
      pure (.array { element := element, elements := elements })
  | other => (Scalar.ofShown? other).map .scalar

def Outcome.ofShown? : Json → Option Outcome
  | .object [(_, .string "void")] => some .void
  | .object [(_, .string "returned"), (_, value)] => (Value.ofShown? value).map .returned
  | .object
      [(_, .string "threw"), (_, .object [(_, .string typeName), (_, message)])] =>
      some (.threw { typeName := typeName, message := message.string? })
  | _ => none

@[simp] theorem Primitive.ofKeyword?_keyword (primitive : Primitive) :
    ofKeyword? primitive.keyword = some primitive := by
  cases primitive <;> decide

theorem mapM_map_eq_some {α β γ : Type} {write : α → β} {read : β → Option γ} {kept : α → γ}
    (back : ∀ item, read (write item) = some (kept item)) (items : List α) :
    (items.map write).mapM read = some (items.map kept) := by
  induction items with
  | nil => rfl
  | cons item rest ih =>
      rw [List.map_cons, List.mapM_cons, back, ih]
      rfl

theorem Scalar.realValue_blurredBits : realValue blurredBits = .notANumber := by
  decide

theorem Scalar.ofShown?_shown (scalar : Scalar) :
    ofShown? scalar.toJson.shown = some scalar.blurred := by
  cases scalar with
  | integer value =>
      change some (Scalar.integer (.ofInt value.toInt)) = some (.integer value)
      rw [Int64.ofInt_toInt]
  | real bits =>
      cases value : realValue bits <;> rw [toJson, Json.shown, blurred, value] <;> rfl
  | boolean value => rfl

theorem Scalar.shown_blurred (scalar : Scalar) :
    scalar.blurred.toJson.shown = scalar.toJson.shown := by
  cases scalar with
  | integer value => rfl
  | real bits =>
      cases value : realValue bits with
      | finite negative magnitude => rw [blurred, value]
      | infinite negative =>
          rw [blurred, value]
          simp only [toJson, Json.shown, value, realValue_blurredBits]
      | notANumber =>
          rw [blurred, value]
          simp only [toJson, Json.shown, value, realValue_blurredBits]
  | boolean value => rfl

theorem Value.shown_scalar (content : Scalar) :
    (Value.scalar content).toJson.shown = content.toJson.shown :=
  rfl

/-- A scalar is shown as no array is. -/
theorem Value.ofShown?_scalar (content : Scalar) :
    ofShown? content.toJson.shown = (Scalar.ofShown? content.toJson.shown).map .scalar := by
  cases content with
  | integer value => rfl
  | real bits =>
      cases value : realValue bits <;> rw [Scalar.toJson, Json.shown, value] <;> rfl
  | boolean value => rfl

theorem Value.shown_array (content : ScalarArray) :
    (Value.array content).toJson.shown =
      .object
        [("element", .string content.element.keyword),
          ("elements", .array (content.elements.map fun element => element.toJson.shown))] := by
  rw [toJson, Json.shown_object, List.map_cons, List.map_cons, Json.shown_array, List.map_map]
  rfl

theorem Value.ofShown?_shown (value : Value) :
    ofShown? value.toJson.shown = some value.blurred := by
  cases value with
  | scalar content =>
      rw [shown_scalar, ofShown?_scalar, Scalar.ofShown?_shown]
      rfl
  | array content =>
      rw [shown_array, ofShown?, Primitive.ofKeyword?_keyword, Option.bind_eq_bind,
        Option.bind_some, mapM_map_eq_some Scalar.ofShown?_shown]
      rfl

theorem Value.shown_blurred (value : Value) :
    value.blurred.toJson.shown = value.toJson.shown := by
  cases value with
  | scalar content => exact Scalar.shown_blurred content
  | array content =>
      rw [blurred, shown_array, shown_array]
      simp only [List.map_map, Function.comp_def, Scalar.shown_blurred]

theorem Outcome.ofShown?_shown (outcome : Outcome) :
    ofShown? outcome.toJson.shown = some outcome.blurred := by
  cases outcome with
  | void => rfl
  | returned value =>
      rw [toJson, Json.shown_object]
      change (Value.ofShown? value.toJson.shown).map returned = _
      rw [Value.ofShown?_shown]
      rfl
  | threw exception =>
      rcases exception with ⟨typeName, none | message⟩ <;> rfl

theorem Outcome.shown_blurred (outcome : Outcome) :
    outcome.blurred.toJson.shown = outcome.toJson.shown := by
  cases outcome with
  | void => rfl
  | returned value =>
      rw [blurred, toJson, toJson, Json.shown_object, Json.shown_object]
      simp only [List.map_cons, List.map_nil, Value.shown_blurred]
  | threw exception => rfl

end Decoding

section Documents

/-- What a document tells of a test case. -/
structure Scenario where
  /-- The names and types of the arguments with their values. -/
  arguments : List (String × String × Value)
  outcome : Outcome

/-- What a document shows of an argument. -/
def Argument.shown (argument : Argument) : String × String × Value :=
  (argument.parameter.name, argument.parameter.type.sourceName, argument.value.blurred)

def TestCase.scenario (test : TestCase) : Scenario :=
  { arguments := test.arguments.map Argument.shown, outcome := test.outcome.blurred }

def Scenario.argument? : Json → Option (String × String × Value)
  | .object [(_, .string name), (_, .string type), (_, value)] =>
      (Value.ofShown? value).map fun value => (name, type, value)
  | _ => none

/-- The scenario that a document describes. -/
def Scenario.ofShown? : Json → Option Scenario
  | .object [_, (_, .array arguments), (_, outcome)] => do
      let arguments ← arguments.mapM argument?
      let outcome ← Outcome.ofShown? outcome
      pure { arguments := arguments, outcome := outcome }
  | _ => none

/-- How a document shows an argument. -/
def Scenario.argumentView (shown : String × String × Value) : Json :=
  .object
    [("name", .string shown.1), ("type", .string shown.2.1), ("value", shown.2.2.toJson.shown)]

def Scenario.view (number : Nat) (scenario : Scenario) : Json :=
  .object
    [("id", .count number),
      ("args", .array (scenario.arguments.map argumentView)),
      ("outcome", scenario.outcome.toJson.shown)]

theorem Scenario.shown_argumentView (argument : Argument) :
    (Document.argumentView argument).shown = argumentView argument.shown := by
  rw [Document.argumentView, Json.shown_object, argumentView, Argument.shown, Value.shown_blurred]
  rfl

/-- A document shows nothing of a test case but its scenario. -/
theorem Scenario.shown_caseView (number : Nat) (test : TestCase) :
    (Document.caseView number test).shown = test.scenario.view number := by
  have arguments : (test.arguments.map Document.argumentView).map Json.shown =
      test.scenario.arguments.map argumentView := by
    rw [TestCase.scenario, List.map_map, List.map_map]
    exact List.map_congr_left fun argument _ => shown_argumentView argument
  rw [Document.caseView, Json.shown_object, List.map_cons, List.map_cons, Json.shown_array,
    arguments, view, TestCase.scenario, Outcome.shown_blurred]
  rfl

theorem Scenario.argument?_view (argument : Argument) :
    argument? (argumentView argument.shown) = some argument.shown := by
  change (Value.ofShown? argument.value.blurred.toJson.shown).map _ = _
  rw [Value.shown_blurred, Value.ofShown?_shown]
  rfl

theorem Scenario.ofShown?_view (number : Nat) (test : TestCase) :
    ofShown? (test.scenario.view number) = some test.scenario := by
  rw [view, TestCase.scenario, ofShown?, List.map_map]
  change (((test.arguments.map fun argument => argumentView argument.shown).mapM argument?).bind
    _) = _
  rw [mapM_map_eq_some argument?_view, Option.bind_some, Outcome.shown_blurred]
  rw [Outcome.ofShown?_shown]
  rfl

end Documents

section Texts

theorem Scalar.readable_toJson (scalar : Scalar) : scalar.toJson.Readable := by
  cases scalar with
  | integer value =>
      apply Json.Readable.integer
      have lower : Int64.minValue.toInt ≤ value.toInt := Int64.le_toInt value
      have upper : value.toInt < UInt64.size := Int.lt_trans (Int64.toInt_lt value) (by decide)
      simp only [Json.fitsWord, lower, upper, decide_true, Bool.and_self]
  | real bits => exact .real bits
  | boolean value => exact .boolean value

theorem Value.readable_toJson (value : Value) : value.toJson.Readable := by
  cases value with
  | scalar content => exact content.readable_toJson
  | array content =>
      have elements : (Json.array (content.elements.map Scalar.toJson)).Readable :=
        .array (List.forall_mem_map.mpr fun element _ => element.readable_toJson)
      apply Json.Readable.object (by simp)
      simpa using ⟨.string content.element.keyword, elements⟩

theorem Outcome.readable_toJson (outcome : Outcome) : outcome.toJson.Readable := by
  cases outcome with
  | void =>
      apply Json.Readable.object (by simp)
      simpa using Json.Readable.string "void"
  | returned value =>
      apply Json.Readable.object (by simp)
      simpa using ⟨.string "returned", value.readable_toJson⟩
  | threw exception =>
      have message : (Json.orNull .string exception.message).Readable := by
        cases exception.message with
        | none => exact .null
        | some text => exact .string text
      have thrown : exception.toJson.Readable := by
        apply Json.Readable.object (by simp)
        simpa using ⟨.string exception.typeName, message⟩
      apply Json.Readable.object (by simp)
      simpa using ⟨.string "threw", thrown⟩

theorem Document.readable_argumentView (argument : Argument) :
    (argumentView argument).Readable := by
  apply Json.Readable.object (by simp)
  simpa using ⟨.string argument.parameter.name, .string argument.parameter.type.sourceName,
    argument.value.readable_toJson⟩

theorem Document.readable_caseView {number : Nat} (fits : Json.fitsWord number = true)
    (test : TestCase) : (caseView number test).Readable := by
  have arguments : (Json.array (test.arguments.map argumentView)).Readable :=
    .array (List.forall_mem_map.mpr fun argument _ => readable_argumentView argument)
  apply Json.Readable.object (by simp)
  simpa using ⟨.integer fits, arguments, test.outcome.readable_toJson⟩

/-- A reader of the text finds the scenario. -/
theorem Document.scenario_of_text {number : Nat} (fits : Json.fitsWord number = true)
    (test : TestCase) :
    (Json.ofText? ((caseView number test).indented 0)).bind Scenario.ofShown? =
      some test.scenario := by
  rw [Json.ofText?_indented (readable_caseView fits test), Option.bind_some,
    Scenario.shown_caseView, Scenario.ofShown?_view]

/-- Whatever their number, test cases have the same text exactly if they have the same
scenario. -/
theorem Document.indented_caseView_eq_iff (number : Nat) (left right : TestCase) :
    (caseView number left).indented 0 = (caseView number right).indented 0 ↔
      left.scenario = right.scenario := by
  have numbers : (caseView number left).indented 0 = (caseView number right).indented 0 ↔
      (caseView 0 left).indented 0 = (caseView 0 right).indented 0 :=
    Json.indented_cons_eq_iff 0 _ _ _ _
  have fits : Json.fitsWord (0 : Nat) = true := by decide
  rw [numbers]
  constructor
  · intro same
    have found := scenario_of_text fits left
    rw [same, scenario_of_text fits right] at found
    exact (Option.some.inj found).symm
  · intro same
    rw [Json.indented_eq_iff (readable_caseView fits left) (readable_caseView fits right),
      Scenario.shown_caseView, Scenario.shown_caseView, same]

theorem Argument.shown_eq_iff {left right : List Argument}
    (parameters : left.map (·.parameter) = right.map (·.parameter)) :
    left.map shown = right.map shown ↔ left.map blurred = right.map blurred := by
  induction left generalizing right with
  | nil =>
      cases right with
      | nil => exact iff_of_true rfl rfl
      | cons other others => cases parameters
  | cons argument rest ih =>
      cases right with
      | nil => cases parameters
      | cons other others =>
          obtain ⟨here, later⟩ := List.cons.inj parameters
          simp only [List.map_cons, List.cons.injEq, ih later]
          apply and_congr_left
          intro _
          simp only [shown, blurred, here, Prod.mk.injEq, Argument.mk.injEq, true_and]

/-- The parameters of a method are no part of a scenario, and they need not be. -/
theorem TestCase.scenario_eq_iff {left right : TestCase} (method : left.method = right.method)
    (parameters : left.arguments.map (·.parameter) = right.arguments.map (·.parameter)) :
    left.scenario = right.scenario ↔ left.blurred = right.blurred := by
  simp only [scenario, blurred, method, Scenario.mk.injEq, TestCase.mk.injEq, true_and,
    Argument.shown_eq_iff parameters]

end Texts

namespace Document

/-- Test cases of a method have the same text exactly if they are equal but for reals that
are not finite. -/
theorem formatTest_eq_iff {method : Method} {leftGiven rightGiven : List (Parameter × Value)}
    {leftOutcome rightOutcome : Outcome} {left right : TestCase}
    (distinct : (method.arguments.map (·.ordinal)).Nodup)
    (leftBuilt : TestCase.build method leftGiven leftOutcome = .ok left)
    (rightBuilt : TestCase.build method rightGiven rightOutcome = .ok right) (number : Nat) :
    ∃ leftText rightText,
      (formatTest number left).1 = .ok leftText ∧ (formatTest number right).1 = .ok rightText ∧
      (leftText = rightText ↔ left.blurred = right.blurred) ∧
      (left.blurred.same right.blurred = false → leftText ≠ rightText) := by
  have method : left.method = right.method :=
    (TestCase.build_eq_ok leftBuilt).1.trans (TestCase.build_eq_ok rightBuilt).1.symm
  have parameters := TestCase.parameters_eq_of_build distinct leftBuilt rightBuilt
  have texts := (indented_caseView_eq_iff number left right).trans
    (TestCase.scenario_eq_iff method parameters)
  refine ⟨_, _, rfl, rfl, texts, ?_⟩
  intro apart same
  rw [texts.mp same, TestCase.same_self] at apart
  cases apart

/-- A method without parameters that returns a real. -/
def limitMethod : Method :=
  { declaringClass := { name := "demo.Limits", hasDefaultConstructor := true }
    name := "value"
    isStatic := true
    parameters := []
    returnType := .primitive .double
    thrown := [] }

/-- The test case in which the method returns the real of the given bits. -/
def limitCase (bits : UInt64) : TestCase :=
  { method := limitMethod, arguments := [], outcome := .returned (.scalar (.real bits)) }

/-- The two zeros have different texts. -/
theorem formatTest_eq_iff_zeros :
    ∃ zero negativeZero, (formatTest 0 (limitCase 0)).1 = .ok zero ∧
      (formatTest 0 (limitCase 0x8000000000000000)).1 = .ok negativeZero ∧
      zero ≠ negativeZero := by
  have distinct : (limitMethod.arguments.map (·.ordinal)).Nodup := List.nodup_nil
  have zeroBuilt : TestCase.build limitMethod [] (.returned (.scalar (.real 0))) =
      .ok (limitCase 0) := rfl
  have negativeBuilt :
      TestCase.build limitMethod [] (.returned (.scalar (.real 0x8000000000000000))) =
        .ok (limitCase 0x8000000000000000) := rfl
  obtain ⟨zero, negativeZero, zeroOk, negativeOk, _, apart⟩ :=
    formatTest_eq_iff distinct zeroBuilt negativeBuilt 0
  exact ⟨zero, negativeZero, zeroOk, negativeOk, apart (by decide)⟩

/-- A result that is no number and an infinite one have the same text. -/
theorem formatTest_notANumber :
    Method.declare limitMethod.declaringClass "value" true [] (.primitive .double) [] =
        .ok limitMethod ∧
      TestCase.build limitMethod [] (.returned (.scalar (.real 0x7ff8000000000000))) =
        .ok (limitCase 0x7ff8000000000000) ∧
      TestCase.build limitMethod [] (.returned (.scalar (.real 0x7ff0000000000000))) =
        .ok (limitCase 0x7ff0000000000000) ∧
      (limitCase 0x7ff8000000000000).same (limitCase 0x7ff0000000000000) = false ∧
      (formatTest 0 (limitCase 0x7ff8000000000000)).1 =
        (formatTest 0 (limitCase 0x7ff0000000000000)).1 := by
  exact ⟨rfl, rfl, rfl, by decide, rfl⟩

end Document

end TestSynth
