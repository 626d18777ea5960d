import TestSynth.Proofs.Json.Nesting
import TestSynth.Proofs.Report.Numbering

/-!
# Assembly of documents

A document contains the text of each of its test cases, further in, and besides only what
it says about the methods and about itself.
-/

namespace TestSynth.Document

open Json (block memberText quote)

/-- What a document says about a method, around the texts of its test cases. -/
def methodText (method : Method) (texts : List String) : String :=
  block "\x7b" "\x7d" 2
    [memberText "class" (quote method.declaringClass.name),
      memberText "name" (quote method.name),
      memberText "descriptor" (quote method.descriptor),
      memberText "is_static" (booleanText method.isStatic),
      memberText "tests" (block "[" "]" 3 (texts.map (blanksAfterFeeds 8)))]

/-- A document of methods with the texts of their test cases. -/
def documentText (style : Style) (entries : List (Method × List String)) : String :=
  let package :=
    match style.package with
    | some package => [memberText "package" (quote package)]
    | none => []
  block "\x7b" "\x7d" 0
    (package ++
      [memberText "class_name" (quote style.className),
        memberText "methods"
          (block "[" "]" 1 (entries.map fun entry => methodText entry.1 entry.2))])

/-- A text of two lines goes eight blanks further in. -/
example : documentText { package := none, className := "T" }
    [((JUnit.sampleTest 1).method, ["\x7b\n\x7d"])] =
      "\x7b\n  \"class_name\": \"T\",\n  \"methods\": [\n    \x7b\n" ++
        "      \"class\": \"demo.Sample\",\n      \"name\": \"count\",\n" ++
        "      \"descriptor\": \"([II)I\",\n      \"is_static\": false,\n" ++
        "      \"tests\": [\n        \x7b\n        \x7d\n      ]\n    \x7d\n  ]\n\x7d" := by
  decide +kernel

/-- The texts of test cases with consecutive numbers, each on its own. -/
def caseTexts (number : Nat) (tests : List TestCase) : List String :=
  (tests.zipIdx number).map fun item => (caseView item.2 item.1).indented 0

/-- The methods of groups with the texts of their test cases, which have consecutive
numbers throughout. -/
def groupEntries (number : Nat) : List MethodGroup → List (Method × List String)
  | [] => []
  | group :: rest =>
      (group.method, caseTexts number group.tests) ::
        groupEntries (number + group.tests.length) rest

/-- A test case stands four levels deep in a document. -/
theorem indented_caseViews (number : Nat) (tests : List TestCase) :
    (caseViews number tests).map (Json.indented 4) =
      (caseTexts number tests).map (blanksAfterFeeds 8) := by
  rw [caseViews_eq_map, caseTexts, List.map_map, List.map_map]
  exact List.map_congr_left fun item _ => Json.indented_add 4 0 _

theorem indented_groupView (number : Nat) (group : MethodGroup) :
    (groupView number group).indented 2 =
      methodText group.method (caseTexts number group.tests) := by
  have tests := Json.indented_array 3 (caseViews number group.tests)
  rw [indented_caseViews] at tests
  rw [groupView, Json.indented_object, methodText, ← tests]
  rfl

theorem indented_groupViews (number : Nat) (groups : List MethodGroup) :
    (groupViews number groups).map (Json.indented 2) =
      (groupEntries number groups).map fun entry => methodText entry.1 entry.2 := by
  induction groups generalizing number with
  | nil => rfl
  | cons group rest ih =>
      rw [groupViews, groupEntries, List.map_cons, List.map_cons, indented_groupView, ih]

theorem indented_suiteView (style : Style) (number : Nat) (groups : List MethodGroup) :
    (suiteView style number groups).indented 0 =
      documentText style (groupEntries number groups) := by
  have methods := Json.indented_array 1 (groupViews number groups)
  rw [indented_groupViews] at methods
  rw [suiteView, Json.indented_object, documentText, ← methods]
  cases style.package <;> rfl

theorem methods_groupEntries (number : Nat) (groups : List MethodGroup) :
    (groupEntries number groups).map (·.1) = groups.map (·.method) := by
  induction groups generalizing number with
  | nil => rfl
  | cons group rest ih => rw [groupEntries, List.map_cons, List.map_cons, ih]

theorem sizes_groupEntries (number : Nat) (groups : List MethodGroup) :
    (groupEntries number groups).map (·.2.length) = groups.map (·.tests.length) := by
  induction groups generalizing number with
  | nil => rfl
  | cons group rest ih =>
      rw [groupEntries, List.map_cons, List.map_cons, ih, caseTexts, List.length_map,
        List.length_zipIdx]

theorem texts_groupEntries (number : Nat) (groups : List MethodGroup) :
    (groupEntries number groups).flatMap (·.2) =
      caseTexts number (groups.flatMap (·.tests)) := by
  induction groups generalizing number with
  | nil => rfl
  | cons group rest ih =>
      rw [groupEntries, List.flatMap_cons, ih, List.flatMap_cons, caseTexts, caseTexts, caseTexts,
        List.zipIdx_append, List.map_append]

/-- Each test case has in a document the text that it has on its own under its number,
with eight blanks more after each line feed.  The texts stand method by method, and the
document has nothing around them but what it says about the methods and about itself. -/
theorem formatAll_assembles (style : Style) (counter : Nat) (collection : Collection) :
    ∃ entries : List (Method × List String),
      entries.map (·.1) = collection.renderableGroups.map (·.method) ∧
      entries.map (·.2.length) = collection.renderableGroups.map (·.tests.length) ∧
      List.Forall₂ (fun item text => (formatTest item.2 item.1).1 = .ok text)
        collection.renderableTests.zipIdx (entries.flatMap (·.2)) ∧
      ∀ sink : Sink,
        let delivery := formatAll style counter collection sink
        (sink.room = none → sink.canFlush = true → delivery.result = .ok ()) ∧
        (delivery.result = .ok () →
          delivery.sink.received = sink.received ++
            (documentText style entries).toUTF8.toList ++ "\n".toUTF8.toList) := by
  refine ⟨groupEntries 0 collection.renderableGroups, methods_groupEntries 0 _,
    sizes_groupEntries 0 _, ?_, fun sink => ⟨formatAll_of_reliable, fun succeeded => ?_⟩⟩
  · rw [texts_groupEntries]
    exact List.forall₂_map_right_iff.mpr (List.forall₂_same.mpr fun item _ => rfl)
  · rw [received_of_formatAll succeeded, suiteText, indented_suiteView]

/-- Two test cases of one method. -/
theorem formatAll_assembles_sample :
    let style : Style := { package := none, className := "SampleTest" }
    let delivery := formatAll style 7 JUnit.sampleCollection .unlimited
    delivery.result = .ok () ∧
      ∃ first second,
        (formatTest 0 (JUnit.sampleTest 1)).1 = .ok first ∧
        (formatTest 1 (JUnit.sampleTest 2)).1 = .ok second ∧
        delivery.sink.received =
          (documentText style [((JUnit.sampleTest 1).method, [first, second])]).toUTF8.toList ++
            "\n".toUTF8.toList := by
  intro style delivery
  obtain ⟨entries, methods, _, texts, sinks⟩ :=
    formatAll_assembles style 7 JUnit.sampleCollection
  obtain ⟨succeeds, received⟩ := sinks .unlimited
  have groups : JUnit.sampleCollection.renderableGroups.map (·.method) =
      [(JUnit.sampleTest 1).method] := by decide +kernel
  have tests : JUnit.sampleCollection.renderableTests =
      [JUnit.sampleTest 1, JUnit.sampleTest 2] := by decide +kernel
  rw [groups] at methods
  obtain ⟨⟨method, shown⟩, rfl, rfl⟩ := List.map_eq_singleton_iff.mp methods
  rw [tests, List.flatMap_singleton] at texts
  obtain ⟨first, others, firstOk, othersOk, rfl⟩ := List.forall₂_cons_left_iff.mp texts
  obtain ⟨second, rest, secondOk, restOk, rfl⟩ := List.forall₂_cons_left_iff.mp othersOk
  cases restOk
  exact ⟨succeeds rfl rfl, first, second, firstOk, secondOk, received (succeeds rfl rfl)⟩

end TestSynth.Document
