import Mathlib.Data.List.Pairwise
import TestSynth.Proofs.Method.Declaring
import TestSynth.Proofs.Report.Decoding

/-!
# Local variables of test methods

An array argument stands in the call by the name of a local variable.  The names of
local variables are different unless one array parameter has a name that a test uses
itself and another has what that name is changed to.
-/

namespace TestSynth

theorem eq_of_nodup_filterMap {α β : Type} {select : α → Option β} {items : List α}
    {left right : α} {value : β} (distinct : (items.filterMap select).Nodup)
    (leftMember : left ∈ items) (rightMember : right ∈ items)
    (leftSelected : select left = some value) (rightSelected : select right = some value) :
    left = right := by
  let Both (left right : α) : Prop := select left = some value ∧ select right = some value
  have apart : items.Pairwise fun left right => ¬ Both left right :=
    (List.pairwise_filterMap.mp distinct).imp fun pair both =>
      pair value both.1 value both.2 rfl
  have symmetric : Std.Symm fun left right => ¬ Both left right :=
    ⟨fun _ _ pair both => pair both.symm⟩
  by_contra different
  exact apart.forall leftMember rightMember different ⟨leftSelected, rightSelected⟩

namespace TestMethod

/-- The local variables that a test method declares. -/
def locals (generated : TestMethod) : List String :=
  generated.body.filterMap Statement.local?

/-- A name is declared with a value, and with no other. -/
structure Denotes (generated : TestMethod) (name value : String) : Prop where
  declared : ∃ type, .declare type name value ∈ generated.body
  only : ∀ type other, .declare type name other ∈ generated.body → other = value

theorem denotes_of_nodup {generated : TestMethod} {type name value : String}
    (distinct : generated.locals.Nodup) (declared : .declare type name value ∈ generated.body) :
    generated.Denotes name value := by
  refine ⟨⟨type, declared⟩, fun otherType other otherDeclared => ?_⟩
  have same : Statement.declare otherType name other = .declare type name value :=
    eq_of_nodup_filterMap distinct otherDeclared declared rfl rfl
  exact (Statement.declare.inj same).2.2

end TestMethod

/-- The names of the array parameters of a method. -/
def Method.arrayNames (method : Method) : List String :=
  (method.arguments.filter (·.type.isArray)).map (·.name)

namespace JUnit

/-- The names that a test uses itself. -/
def reservedNames : List String :=
  [receiverName, expectedName, resultName]

variable {name left right : String} {names : List String}

theorem localName_of_reserved (reserved : name ∈ reservedNames) :
    localName name = name ++ "Arg" :=
  if_pos reserved

theorem localName_of_free (free : name ∉ reservedNames) : localName name = name :=
  if_neg free

theorem localName_free (name : String) : localName name ∉ reservedNames := by
  have changed : ∀ name ∈ reservedNames, name ++ "Arg" ∉ reservedNames := by decide
  by_cases reserved : name ∈ reservedNames
  · rw [localName_of_reserved reserved]
    exact changed name reserved
  · rw [localName_of_free reserved]
    exact reserved

/-- A changed name may be the name of another parameter. -/
theorem localName_eq_iff :
    localName left = localName right ↔
      left = right ∨ (left ∈ reservedNames ∧ right = left ++ "Arg") ∨
        right ∈ reservedNames ∧ left = right ++ "Arg" := by
  constructor
  · intro same
    by_cases leftReserved : left ∈ reservedNames
    · rw [localName_of_reserved leftReserved] at same
      by_cases rightReserved : right ∈ reservedNames
      · rw [localName_of_reserved rightReserved] at same
        exact .inl ((String.append_left_inj _).mp same)
      · rw [localName_of_free rightReserved] at same
        exact .inr (.inl ⟨leftReserved, same.symm⟩)
    · rw [localName_of_free leftReserved] at same
      by_cases rightReserved : right ∈ reservedNames
      · rw [localName_of_reserved rightReserved] at same
        exact .inr (.inr ⟨rightReserved, same⟩)
      · rw [localName_of_free rightReserved] at same
        exact .inl same
  · have changed {name : String} (reserved : name ∈ reservedNames) :
        localName (name ++ "Arg") = localName name := by
      rw [← localName_of_reserved reserved]
      exact localName_of_free (localName_free name)
    rintro (rfl | ⟨reserved, rfl⟩ | ⟨reserved, rfl⟩)
    · rfl
    · exact (changed reserved).symm
    · exact changed reserved

/-- One of the names is used by a test itself, and another is what it is changed to. -/
def Clash (names : List String) : Prop :=
  ∃ name ∈ reservedNames, name ∈ names ∧ name ++ "Arg" ∈ names

instance (names : List String) : Decidable (Clash names) :=
  inferInstanceAs (Decidable (∃ name ∈ reservedNames, name ∈ names ∧ name ++ "Arg" ∈ names))

theorem nodup_map_localName (distinct : names.Nodup) :
    (names.map localName).Nodup ↔ ¬ Clash names := by
  rw [List.nodup_map_iff_inj_on distinct]
  constructor
  · rintro injective ⟨name, reserved, given, changed⟩
    have same := injective name given _ changed
      (localName_eq_iff.mpr (.inr (.inl ⟨reserved, rfl⟩)))
    exact localName_free name (localName_of_reserved reserved ▸ same ▸ reserved)
  · intro unclashed left leftGiven right rightGiven same
    rcases localName_eq_iff.mp same with same | ⟨reserved, rfl⟩ | ⟨reserved, rfl⟩
    · exact same
    · exact absurd ⟨left, reserved, leftGiven, rightGiven⟩ unclashed
    · exact absurd ⟨right, reserved, rightGiven, leftGiven⟩ unclashed

variable {style : Style} {number : Nat} {test : TestCase} {statements : List Statement}

theorem locals_arrayLocals {arguments : List Argument}
    (written : arrayLocals arguments = .ok statements) :
    statements.filterMap Statement.local? =
      (((arguments.map (·.parameter)).filter (·.type.isArray)).map (·.name)).map localName := by
  induction arguments generalizing statements with
  | nil =>
      cases written
      rfl
  | cons argument rest ih =>
      cases isArray : argument.parameter.type.isArray with
      | true =>
          obtain ⟨text, others, _, othersOk, rfl⟩ := arrayLocals_of_array isArray written
          rw [List.map_cons, List.filter_cons_of_pos (by exact isArray)]
          exact congrArg (localName argument.parameter.name :: ·) (ih othersOk)
      | false =>
          rw [arrayLocals_of_not_array rest isArray] at written
          rw [List.map_cons, List.filter_cons_of_neg (by simp [isArray])]
          exact ih written

/-- The local variable of the receiver, if there is one. -/
def receiverNames (method : Method) : List String :=
  if method.isStatic then [] else [receiverName]

/-- The local variables that the check of an outcome needs. -/
def outcomeNames : Outcome → List String
  | .returned _ => [expectedName, resultName]
  | _ => []

theorem locals_receiverLocal (method : Method) :
    (receiverLocal method).filterMap Statement.local? = receiverNames method := by
  unfold receiverLocal receiverNames
  cases method.isStatic <;> rfl

theorem locals_checks {type : JavaType} {call : String}
    (checks : Checks style type test call statements) :
    statements.filterMap Statement.local? = outcomeNames test.outcome := by
  cases checks with
  | void outcome => rw [outcome]; rfl
  | threw outcome _ => rw [outcome]; rfl
  | returned outcome => rw [outcome]; rfl

theorem sublist_reservedNames (method : Method) (outcome : Outcome) :
    (receiverNames method ++ outcomeNames outcome).Sublist reservedNames := by
  have receiver : (receiverNames method).Sublist [receiverName] := by
    unfold receiverNames
    split
    · exact List.nil_sublist _
    · exact List.Sublist.refl _
  have checks : (outcomeNames outcome).Sublist [expectedName, resultName] := by
    cases outcome with
    | returned value => exact List.Sublist.refl _
    | void => exact List.nil_sublist _
    | threw exception => exact List.nil_sublist _
  exact receiver.append checks

variable {method : Method} {generated : TestMethod}

/-- Array parameters first, then the names that the test uses itself. -/
theorem locals_testMethod (bound : test.arguments.map (·.parameter) = test.method.arguments)
    (made : testMethod style number test = .ok generated) :
    generated.locals =
      test.method.arrayNames.map localName ++
        (receiverNames test.method ++ outcomeNames test.outcome) := by
  obtain ⟨arrays, arraysOk, rest⟩ := bind_eq_ok_iff.mp made
  obtain ⟨checks, checksOk, same⟩ := bind_eq_ok_iff.mp rest
  obtain ⟨_, _, checked⟩ := outcomeStatements_eq_ok_iff.mp checksOk
  cases same
  rw [TestMethod.locals, List.filterMap_append, List.filterMap_append,
    locals_arrayLocals arraysOk, locals_receiverLocal, locals_checks checked, bound,
    Method.arrayNames, List.append_assoc]

theorem nodup_locals (distinct : method.arrayNames.Nodup) (outcome : Outcome) :
    (method.arrayNames.map localName ++
        (receiverNames method ++ outcomeNames outcome)).Nodup ↔
      ¬ Clash method.arrayNames := by
  have own := sublist_reservedNames method outcome
  rw [← nodup_map_localName distinct]
  refine ⟨fun both => both.of_append_left, fun arrays => ?_⟩
  refine arrays.append (own.nodup (by decide)) ?_
  -- A changed name is never one of the reserved names.
  rintro _ changed reserved
  obtain ⟨name, _, rfl⟩ := List.mem_map.mp changed
  exact localName_free name (own.subset reserved)

theorem mem_arrayLocals {arguments : List Argument}
    (written : arrayLocals arguments = .ok statements) {argument : Argument}
    (member : argument ∈ arguments) (isArray : argument.parameter.type.isArray = true) :
    ∃ value, literal argument.parameter.type argument.value = .ok value ∧
      .declare argument.parameter.type.sourceName (localName argument.parameter.name) value ∈
        statements := by
  induction arguments generalizing statements with
  | nil => cases member
  | cons first rest ih =>
      cases firstArray : first.parameter.type.isArray with
      | true =>
          obtain ⟨value, others, valueOk, othersOk, rfl⟩ :=
            arrayLocals_of_array firstArray written
          rcases List.mem_cons.mp member with rfl | later
          · exact ⟨value, valueOk, List.mem_cons_self⟩
          · obtain ⟨value, valueOk, declared⟩ := ih othersOk later
            exact ⟨value, valueOk, List.mem_cons_of_mem _ declared⟩
      | false =>
          rw [arrayLocals_of_not_array rest firstArray] at written
          rcases List.mem_cons.mp member with rfl | later
          · exact absurd isArray (by simp [firstArray])
          · exact ih written later

/-- What stands for an argument in a call is its literal, or for an array the name of a
local variable that holds its literal. -/
def Stands (generated : TestMethod) (argument : Argument) (text : String) : Prop :=
  ∃ value, literal argument.parameter.type argument.value = .ok value ∧
    if argument.parameter.type.isArray then generated.Denotes text value else text = value

/-- The last statements of a test check the outcome of a call, in which every argument is
what the test case binds. -/
def CallsWith (style : Style) (test : TestCase) (generated : TestMethod) : Prop :=
  ∃ texts declarations checks, generated.body = declarations ++ checks ∧
    Checks style test.method.returnType test
      (callFront test.method ++ ", ".intercalate texts ++ ")") checks ∧
    List.Forall₂ (Stands generated) test.arguments texts

theorem callsWith_of_nodup (ascending : Argument.Ascending test.arguments)
    (bound : test.arguments.map (·.parameter) = test.method.arguments)
    (made : testMethod style number test = .ok generated)
    (distinct : generated.locals.Nodup) : CallsWith style test generated := by
  obtain ⟨arrays, arraysOk, rest⟩ := bind_eq_ok_iff.mp made
  obtain ⟨checks, checksOk, same⟩ := bind_eq_ok_iff.mp rest
  obtain ⟨call, callOk, checked⟩ := outcomeStatements_eq_ok_iff.mp checksOk
  obtain ⟨texts, textsOk, rfl⟩ := exists_argumentTexts ascending bound callOk
  have body : generated.body = (arrays ++ receiverLocal test.method) ++ checks := by
    cases same
    rfl
  refine ⟨texts, _, checks, body, checked, ?_⟩
  have each := (List.forall₂_and_left _ _).mpr ⟨fun _ member => member, textsOk⟩
  refine each.imp fun argument text ⟨member, textOk⟩ => ?_
  unfold argumentText at textOk
  cases isArray : argument.parameter.type.isArray with
  | true =>
      rw [if_pos isArray] at textOk
      cases textOk
      obtain ⟨value, valueOk, declared⟩ := mem_arrayLocals arraysOk member isArray
      refine ⟨value, valueOk, ?_⟩
      rw [if_pos isArray]
      apply TestMethod.denotes_of_nodup distinct
      rw [body]
      exact List.mem_append_left _ (List.mem_append_left _ declared)
  | false =>
      rw [if_neg (by simp [isArray])] at textOk
      exact ⟨text, textOk, by simp [isArray]⟩

/-- The local variables of a test are the array parameters under their local names, the
receiver, and the expected and actual results.  They have different names exactly if no
changed name is the name of another array parameter, and then every argument of the call
is what the test case binds. -/
theorem nodup_locals_iff {owner : DeclaringClass} {name : String} {isStatic : Bool}
    {given : List (String × JavaType)} {returnType : JavaType} {thrown : List String}
    {bindings : List (Parameter × Value)} {outcome : Outcome}
    (declared : Method.declare owner name isStatic given returnType thrown = .ok method)
    (built : TestCase.build method bindings outcome = .ok test)
    (made : testMethod style number test = .ok generated) :
    generated.locals =
        method.arrayNames.map localName ++ (receiverNames method ++ outcomeNames outcome) ∧
      (generated.locals.Nodup ↔ ¬ Clash method.arrayNames) ∧
      (generated.locals.Nodup → CallsWith style test generated) := by
  have parameters := TestCase.parameters_of_build (Method.ascending_of_declare declared) built
  obtain ⟨rfl, rfl, _, ascending⟩ := TestCase.build_eq_ok built
  have distinct : test.method.arrayNames.Nodup :=
    (Method.names_of_declare declared).sublist
      ((List.filter_sublist.trans List.filter_sublist).map _)
  have written := locals_testMethod parameters made
  exact ⟨written, written ▸ nodup_locals distinct test.outcome,
    callsWith_of_nodup ascending parameters made⟩

/-- A method with two array parameters. -/
def sumMethod (first second : String) : Method :=
  { declaringClass := { name := "demo.Sums", hasDefaultConstructor := true }
    name := "sum"
    isStatic := false
    parameters := [
      { name := "this", type := .reference "demo.Sums", ordinal := 0, isReceiver := true },
      { name := first, type := .arrayOf .int, ordinal := 1, isReceiver := false },
      { name := second, type := .arrayOf .int, ordinal := 2, isReceiver := false }]
    returnType := .primitive .int
    thrown := [] }

def sumTest (first second : String) : TestCase :=
  let method := sumMethod first second
  let array (content : Int64) : Value :=
    .array { element := .int, elements := [.integer content] }
  { method := method
    arguments := (method.arguments.zip [array 1, array 2]).map fun (parameter, value) =>
      { parameter := parameter, value := value }
    outcome := .returned (.scalar (.integer 3)) }

theorem nodup_locals_expected :
    ∃ generated,
      testMethod sampleStyle 0 (sumTest "expected" "xs") = .ok generated ∧
        generated.locals = ["expectedArg", "xs", "instance", "expected", "result"] ∧
        CallsWith sampleStyle (sumTest "expected" "xs") generated := by
  have declared : Method.declare { name := "demo.Sums", hasDefaultConstructor := true } "sum"
      false [("expected", .arrayOf .int), ("xs", .arrayOf .int)] (.primitive .int) [] =
        .ok (sumMethod "expected" "xs") := rfl
  have built : TestCase.build (sumMethod "expected" "xs")
      ((sumTest "expected" "xs").arguments.map Argument.pair)
      (sumTest "expected" "xs").outcome = .ok (sumTest "expected" "xs") := rfl
  have made : ∃ generated,
      testMethod sampleStyle 0 (sumTest "expected" "xs") = .ok generated := ⟨_, rfl⟩
  obtain ⟨generated, made⟩ := made
  obtain ⟨written, distinct, calls⟩ := nodup_locals_iff declared built made
  have unclashed : ¬ Clash ["expected", "xs"] := by decide
  exact ⟨generated, made, written, calls (distinct.mpr unclashed)⟩

/-- The array parameters `expected` and `expectedArg` have the same local variable. -/
theorem locals_clash :
    Method.declare { name := "demo.Sums", hasDefaultConstructor := true } "sum" false
        [("expected", .arrayOf .int), ("expectedArg", .arrayOf .int)] (.primitive .int) [] =
          .ok (sumMethod "expected" "expectedArg") ∧
      TestCase.build (sumMethod "expected" "expectedArg")
        ((sumTest "expected" "expectedArg").arguments.map Argument.pair)
        (sumTest "expected" "expectedArg").outcome = .ok (sumTest "expected" "expectedArg") ∧
      ∃ generated,
        testMethod sampleStyle 0 (sumTest "expected" "expectedArg") = .ok generated ∧
          generated.locals =
            ["expectedArg", "expectedArg", "instance", "expected", "result"] ∧
          ¬ generated.locals.Nodup := by
  refine ⟨rfl, rfl, _, rfl, rfl, ?_⟩
  intro distinct
  exact (List.nodup_cons.mp distinct).1 List.mem_cons_self

end JUnit

end TestSynth
