import TestSynth.Json.Form
import TestSynth.Proofs.Report.Concatenation
import TestSynth.Proofs.Report.Narrowing
import TestSynth.Proofs.Report.Scenarios
import TestSynth.Proofs.Report.TestMethods

/-!
# Numbers of test cases

Reports of all kinds agree on which test cases they show and on their numbers: these
are the places of the test cases among those whose receivers can be made.  What is
left out takes no number, but a warning for each method.
-/

namespace TestSynth

/-- The warning about a method whose receiver cannot be made. -/
def MethodGroup.dropWarning (group : MethodGroup) : LogEvent :=
  { level := .warn
    message :=
      (Fault.noDefaultConstructor group.method.baseName
        group.method.declaringClass.name).message ++
        ", dropping " ++ toString group.tests.length ++ " test case(s)" }

theorem Method.isOk_checkReceiver (method : Method) :
    method.checkReceiver.isOk = method.isRenderable := by
  unfold checkReceiver
  cases method.isRenderable <;> rfl

theorem MethodGroup.dropEvents_eq (group : MethodGroup) :
    group.dropEvents =
      if group.method.checkReceiver.isOk then [] else [group.dropWarning] := by
  unfold dropEvents Method.checkReceiver
  cases group.method.isRenderable <;> rfl

namespace Collection

variable {collection : Collection}

/-- The test cases that are reported, with their numbers. -/
def cases (collection : Collection) : List (TestCase × Nat) :=
  collection.renderableTests.zipIdx

theorem renderableGroups_eq :
    collection.renderableGroups =
      collection.groups.filter (·.method.checkReceiver.isOk) := by
  simp only [renderableGroups, Method.isOk_checkReceiver]

/-- There is one warning for each group that is left out. -/
theorem dropEvents_eq :
    collection.dropEvents =
      (collection.groups.filter (!·.method.checkReceiver.isOk)).map
        MethodGroup.dropWarning := by
  unfold dropEvents
  induction collection.groups with
  | nil => rfl
  | cons group rest ih =>
      rw [List.flatMap_cons, ih, MethodGroup.dropEvents_eq]
      cases passes : group.method.checkReceiver.isOk with
      | true =>
          rw [if_pos rfl, List.filter_cons_of_neg (by simp [passes])]
          rfl
      | false =>
          rw [if_neg Bool.false_ne_true, List.filter_cons_of_pos (by simp [passes])]
          rfl

theorem tests_cases :
    collection.cases.map Prod.fst =
      (collection.groups.filter (·.method.checkReceiver.isOk)).flatMap (·.tests) := by
  rw [← renderableGroups_eq]
  exact List.zipIdx_map_fst 0 _

theorem numbers_cases :
    collection.cases.map Prod.snd = List.range collection.cases.length := by
  rw [cases, List.zipIdx_map_snd, List.length_zipIdx, List.range_eq_range']

end Collection

namespace Sink

variable {sink : Sink} {text : String}

theorem received_of_writeText (written : (sink.writeText text).1 = .ok ()) :
    (sink.writeText text).2.received = sink.received ++ text.toUTF8.toList := by
  unfold writeText write at written ⊢
  cases limited : sink.room with
  | none => rfl
  | some room =>
      rw [limited] at written
      simp only at written ⊢
      split at written
      · rename_i fits
        rw [List.take_of_length_le fits]
      · cases written

/-- A sink that accepted a text and was flushed has received all of it. -/
theorem received_of_deliver (delivered : (sink.deliver text).1 = .ok ()) :
    (sink.deliver text).2.received = sink.received ++ text.toUTF8.toList := by
  rcases written : sink.writeText text with ⟨result, after⟩
  have accepted := @received_of_writeText sink text
  simp only [deliver, written] at delivered accepted ⊢
  obtain ⟨value, first, _⟩ := bind_eq_ok_iff.mp delivered
  cases result with
  | ok value => exact accepted rfl
  | error failure => cases first

end Sink

namespace JUnit

/-- The lines of a test method inside its class, with the empty line after it. -/
def memberLines (dialect : Dialect) (method : TestMethod) : List Line :=
  (method.lines dialect).map Line.nested ++ [.blank]

/-- The lines of a class that consists of test methods. -/
def unitLines (style : Style) (methods : List TestMethod) : List Line :=
  headerLines style ++ methods.flatMap (memberLines style.dialect) ++ [.code 0 "\x7d"]

variable {style : Style} {number : Nat} {test : TestCase} {tests : List TestCase}
  {method : TestMethod} {lines : List Line}

/-- Test cases that can all be written become test methods with consecutive
numbers. -/
theorem testsLines_eq_ok (written : (testsLines style number tests).1 = .ok lines) :
    (testsLines style number tests).2 = number + tests.length ∧
      ∃ methods, List.Forall₂ (Shows style) (tests.zipIdx number) methods ∧
        lines = methods.flatMap (memberLines style.dialect) := by
  induction tests generalizing number lines with
  | nil =>
      cases written
      exact ⟨rfl, [], .nil, rfl⟩
  | cons test rest ih =>
      simp only [testsLines] at written ⊢
      cases first : testLines style number test with
      | error fault =>
          rw [first] at written
          cases written
      | ok here =>
          rw [first] at written
          obtain ⟨others, othersOk, same⟩ := map_eq_ok_iff.mp written
          obtain ⟨last, methods, shows, rfl⟩ := ih othersOk
          obtain ⟨method, made, hereEq⟩ := bind_eq_ok_iff.mp first
          cases hereEq
          refine ⟨last.trans (by rw [List.length_cons]; omega), method :: methods, ?_, ?_⟩
          · rw [List.zipIdx_cons]
            exact .cons (shows_of_testMethod made) shows
          · rw [← same, List.flatMap_cons, memberLines, List.append_assoc]
            rfl

theorem exists_testsLines_of_methods
    (made : ∀ item ∈ tests.zipIdx number,
      ∃ method, testMethod style item.2 item.1 = .ok method) :
    ∃ lines, (testsLines style number tests).1 = .ok lines := by
  induction tests generalizing number with
  | nil => exact ⟨[], rfl⟩
  | cons test rest ih =>
      rw [List.zipIdx_cons] at made
      obtain ⟨⟨method, here⟩, others⟩ := List.forall_mem_cons.mp made
      obtain ⟨lines, linesOk⟩ := ih others
      have first : testLines style number test = .ok (method.lines style.dialect) :=
        bind_eq_ok_iff.mpr ⟨method, here, rfl⟩
      simp only [testsLines, first, linesOk]
      exact ⟨_, rfl⟩

/-- If every test case can be written, only the sink can fail. -/
theorem formatAll_of_methods {counter : Nat} {collection : Collection} {sink : Sink}
    (accepts : sink.room = none) (flushes : sink.canFlush = true)
    (made : ∀ item ∈ collection.cases,
      ∃ method, testMethod style item.2 item.1 = .ok method) :
    (formatAll style counter collection sink).result = .ok () := by
  obtain ⟨lines, linesOk⟩ := exists_testsLines_of_methods made
  have unit : (unitText style (resetCounter counter) collection).1 =
      Line.compose (headerLines style ++ lines ++ [.code 0 "\x7d"]) := by
    rw [unitText_eq, resetCounter, firstNumber, linesOk]
    rfl
  rw [Line.compose_eq] at unit
  rcases written : unitText style (resetCounter counter) collection with ⟨text, last⟩
  rw [written] at unit
  obtain rfl := unit
  simp only [formatAll, written, Sink.deliver_of_reliable accepts flushes]

theorem log_formatAll (style : Style) (counter : Nat) (collection : Collection)
    (sink : Sink) :
    (formatAll style counter collection sink).log = collection.dropEvents := by
  unfold formatAll
  rcases unitText style (resetCounter counter) collection with ⟨_ | _, _⟩ <;> rfl

/-- A report that succeeds is a class of the test methods. -/
theorem received_of_formatAll {counter : Nat} {collection : Collection} {sink : Sink}
    (succeeded : (formatAll style counter collection sink).result = .ok ()) :
    (formatAll style counter collection sink).counter = collection.cases.length ∧
      ∃ methods, List.Forall₂ (Shows style) collection.cases methods ∧
        let text := String.join ((unitLines style methods).map Line.text)
        (formatAll style counter collection sink).sink.received =
          sink.received ++ text.toUTF8.toList := by
  rcases body : testsLines style 0 collection.renderableTests with ⟨written, last⟩
  have unit : unitText style (resetCounter counter) collection =
      (written.bind fun lines =>
        Line.compose (headerLines style ++ lines ++ [.code 0 "\x7d"]), last) := by
    rw [unitText_eq, resetCounter, firstNumber, body]
  cases written with
  | error fault =>
      simp only [formatAll, unit, Except.bind] at succeeded
      cases succeeded
  | ok lines =>
      have shown := testsLines_eq_ok (congrArg Prod.fst body)
      rw [body, Nat.zero_add] at shown
      obtain ⟨lastEq, methods, shows, rfl⟩ := shown
      simp only [formatAll, unit, Except.bind, Line.compose_eq] at succeeded ⊢
      refine ⟨lastEq.trans List.length_zipIdx.symm, methods, shows, ?_⟩
      exact Sink.received_of_deliver succeeded

end JUnit

namespace Document

/-- The entries of a document, one for each method. -/
def entries (document : Json) : List Json :=
  ((document.field? "methods").bind Json.items?).getD []

/-- The test cases under an entry of a document. -/
def entryCases (entry : Json) : List Json :=
  ((entry.field? "tests").bind Json.items?).getD []

theorem entries_suiteView (style : Style) (number : Nat) (groups : List MethodGroup) :
    entries (suiteView style number groups) = groupViews number groups := by
  cases package : style.package with
  | none => simp [entries, suiteView, package, Json.field?, Json.member?, Json.items?]
  | some name => simp [entries, suiteView, package, Json.field?, Json.member?, Json.items?]

theorem entryCases_groupView (number : Nat) (group : MethodGroup) :
    entryCases (groupView number group) = caseViews number group.tests := by
  simp [entryCases, groupView, Json.field?, Json.member?, Json.items?]

theorem caseViews_eq_map (number : Nat) (tests : List TestCase) :
    caseViews number tests =
      (tests.zipIdx number).map fun item => caseView item.2 item.1 := by
  induction tests generalizing number with
  | nil => rfl
  | cons test rest ih => simp [caseViews, List.zipIdx_cons, ih]

theorem flatMap_entryCases (number : Nat) (groups : List MethodGroup) :
    (groupViews number groups).flatMap entryCases =
      ((groups.flatMap (·.tests)).zipIdx number).map fun item =>
        caseView item.2 item.1 := by
  induction groups generalizing number with
  | nil => rfl
  | cons group rest ih =>
      simp only [groupViews, List.flatMap_cons, entryCases_groupView, caseViews_eq_map,
        ih, List.zipIdx_append, List.map_append]

/-- An entry of a document is about the method of a group and has as many test
cases. -/
structure Lists (group : MethodGroup) (entry : Json) : Prop where
  className : entry.field? "class" = some (.string group.method.declaringClass.name)
  name : entry.field? "name" = some (.string group.method.name)
  descriptor : entry.field? "descriptor" = some (.string group.method.descriptor)
  size : (entryCases entry).length = group.tests.length

theorem lists_groupView (number : Nat) (group : MethodGroup) :
    Lists group (groupView number group) := by
  constructor
  · simp [groupView, Json.field?, Json.member?]
  · simp [groupView, Json.field?, Json.member?]
  · simp [groupView, Json.field?, Json.member?]
  · rw [entryCases_groupView, caseViews_eq_map, List.length_map, List.length_zipIdx]

theorem lists_groupViews (number : Nat) (groups : List MethodGroup) :
    List.Forall₂ Lists groups (groupViews number groups) := by
  induction groups generalizing number with
  | nil => exact .nil
  | cons group rest ih => exact .cons (lists_groupView number group) (ih _)

/-- A case of a document is made of a test case and identified by its number: a reader
finds the names, types and values of the arguments in it, and the outcome. -/
structure Shows (item : TestCase × Nat) (view : Json) : Prop where
  made : view = caseView item.2 item.1
  identified : view.field? "id" = some (.count item.2)
  described : Scenario.ofShown? view.shown = some item.1.scenario

theorem shows_caseView (item : TestCase × Nat) : Shows item (caseView item.2 item.1) :=
  { made := rfl
    identified := by simp [caseView, Json.field?, Json.member?]
    described := by rw [Scenario.shown_caseView, Scenario.ofShown?_view] }

theorem shows_caseViews (items : List (TestCase × Nat)) :
    List.Forall₂ Shows items (items.map fun item => caseView item.2 item.1) := by
  rw [List.forall₂_map_right_iff]
  exact List.forall₂_same.mpr fun item _ => shows_caseView item

variable {style : Style} {counter : Nat} {collection : Collection} {sink : Sink}

/-- Whatever becomes of a report, each of its test cases has taken a number, and it
has warned about what it leaves out. -/
theorem counter_log_formatAll :
    (formatAll style counter collection sink).counter = collection.cases.length ∧
      (formatAll style counter collection sink).log = collection.dropEvents := by
  have length : collection.cases.length = collection.renderableTests.length :=
    List.length_zipIdx
  rcases written : sink.writeText (suiteText style 0 collection) with ⟨result, after⟩
  cases result with
  | error failure =>
      simp only [formatAll, resetCounter, firstNumber, written, length, Nat.zero_add,
        and_self]
  | ok value =>
      simp only [formatAll, resetCounter, firstNumber, written, length, Nat.zero_add,
        and_self]

/-- A report that succeeds is the text of the document and a line feed. -/
theorem received_of_formatAll
    (succeeded : (formatAll style counter collection sink).result = .ok ()) :
    (formatAll style counter collection sink).sink.received =
      sink.received ++ (suiteText style 0 collection).toUTF8.toList ++
        "\n".toUTF8.toList := by
  have accepted := @Sink.received_of_writeText sink (suiteText style 0 collection)
  rcases written : sink.writeText (suiteText style 0 collection) with ⟨result, after⟩
  simp only [formatAll, resetCounter, firstNumber, written] at succeeded accepted ⊢
  cases result with
  | error failure => cases succeeded
  | ok value =>
      have first := accepted rfl
      have second := Sink.received_of_deliver succeeded
      rw [second, first]

theorem formatAll_of_reliable (accepts : sink.room = none)
    (flushes : sink.canFlush = true) :
    (formatAll style counter collection sink).result = .ok () := by
  let text := suiteText style 0 collection
  let filled : Sink := { sink with received := sink.received ++ text.toUTF8.toList }
  have written : sink.writeText text = (.ok (), filled) := by
    simp only [Sink.writeText, Sink.write, accepts, filled]
  have accepted : filled.room = none := accepts
  have flushed : filled.canFlush = true := flushes
  have delivered : (filled.deliver "\n").1 = .ok () :=
    congrArg Prod.fst (Sink.deliver_of_reliable accepted flushed "\n")
  simp only [formatAll, resetCounter, firstNumber, text, written, delivered]

end Document

/-- Reports in source text and as documents show the test cases whose receivers can
be made, in the order of the collection and each of them once.  They number them
alike, from zero and without a gap, and warn once about each method that is left
out.  What they show of a test case are its arguments, the call and the outcome. -/
theorem formatAll_numbers (config : Config) (collection : Collection)
    (counter : Nat) (sink : Sink) :
    let cases := collection.cases
    let shown := collection.groups.filter (·.method.checkReceiver.isOk)
    let dropped := collection.groups.filter (!·.method.checkReceiver.isOk)
    let warnings := dropped.map MethodGroup.dropWarning
    cases.map Prod.fst = shown.flatMap (·.tests) ∧
    cases.map Prod.snd = List.range cases.length ∧
    (∀ dialect,
      let style := JUnit.Style.ofConfig dialect config
      let delivery := (JUnit.formatter dialect config).formatAll counter collection sink
      delivery.log = warnings ∧
      (sink.room = none → sink.canFlush = true →
        (∀ item ∈ cases, ∃ method, JUnit.testMethod style item.2 item.1 = .ok method) →
          delivery.result = .ok ()) ∧
      (delivery.result = .ok () →
        delivery.counter = cases.length ∧
        ∃ methods, List.Forall₂ (JUnit.Shows style) cases methods ∧
          let text := String.join ((JUnit.unitLines style methods).map Line.text)
          delivery.sink.received = sink.received ++ text.toUTF8.toList)) ∧
    (∀ type value text, literal type value = .ok text → value.Spelled type text) ∧
    let delivery := (Document.formatter config).formatAll counter collection sink
    let document := Document.suiteView (.ofConfig config) 0 shown
    let entries := Document.entries document
    delivery.log = warnings ∧
    delivery.counter = cases.length ∧
    (sink.room = none → sink.canFlush = true → delivery.result = .ok ()) ∧
    (delivery.result = .ok () →
      delivery.sink.received =
        sink.received ++ (document.indented 0).toUTF8.toList ++
          "\n".toUTF8.toList) ∧
    List.Forall₂ Document.Lists shown entries ∧
    List.Forall₂ Document.Shows cases (entries.flatMap Document.entryCases) := by
  intro cases shown dropped warnings
  have groups : collection.renderableGroups = shown := Collection.renderableGroups_eq
  have events : collection.dropEvents = warnings := Collection.dropEvents_eq
  refine ⟨Collection.tests_cases, Collection.numbers_cases, ?_,
    fun _ _ _ => spelled_of_literal, ?_⟩
  · intro dialect style delivery
    have log := JUnit.log_formatAll style counter collection sink
    exact ⟨log.trans events, JUnit.formatAll_of_methods, JUnit.received_of_formatAll⟩
  · intro delivery document entries
    have entriesEq : entries = Document.groupViews 0 shown :=
      Document.entries_suiteView _ _ _
    have listed : entries.flatMap Document.entryCases =
        cases.map fun item => Document.caseView item.2 item.1 := by
      rw [entriesEq, Document.flatMap_entryCases, ← groups]
      rfl
    obtain ⟨numbered, log⟩ : delivery.counter = cases.length ∧
        delivery.log = collection.dropEvents := Document.counter_log_formatAll
    refine ⟨log.trans events, numbered, Document.formatAll_of_reliable, ?_, ?_, ?_⟩
    · intro succeeded
      have received := Document.received_of_formatAll succeeded
      rw [Document.suiteText, groups] at received
      exact received
    · rw [entriesEq]
      exact Document.lists_groupViews 0 shown
    · rw [listed]
      exact Document.shows_caseViews cases

end TestSynth
