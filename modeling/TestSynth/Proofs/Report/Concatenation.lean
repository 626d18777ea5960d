import TestSynth.Proofs.Report.SingleLines

/-!
# Reports as concatenations

The report of a collection is the concatenation of the texts of its test cases, each
one level further in, between the front of the class and its closing brace.
-/

namespace TestSynth

/-- A sink that accepts everything has the text in the end. -/
theorem Sink.deliver_of_reliable {sink : Sink} (accepts : sink.room = none)
    (flushes : sink.canFlush = true) (text : String) :
    sink.deliver text =
      (.ok (), { sink with received := sink.received ++ text.toUTF8.toList }) := by
  simp only [deliver, writeText, write, accepts, flush, flushes]
  rfl

namespace JUnit

/-- The lines in front of the test methods, as they are read. -/
def Style.frontLines (style : Style) : List String :=
  let package :=
    match style.package with
    | some package => ["package " ++ package ++ ";", ""]
    | none => []
  package ++ style.dialect.imports ++ ["", "public class " ++ style.className ++ " \x7b"]

/-- The report that test methods with the given texts make. -/
def Style.enclose (style : Style) (texts : List String) : String :=
  String.join (style.frontLines.map (· ++ "\n")) ++
    String.join (texts.map fun text => prefixLines defaultUnit text ++ "\n") ++ "\x7d\n"

/-- What comes of each test case alone, by its number. -/
def testTexts (style : Style) (number : Nat) (tests : List TestCase) :
    List (Except Fault String) :=
  (tests.zipIdx number).map fun (test, place) => (formatTest style place test).1

variable {style : Style} {number : Nat} {test : TestCase} {tests : List TestCase}
  {text : String} {texts : List String} {fault : Fault}
  {later : List (Except Fault String)}

theorem formatTest_eq_ok_iff :
    (formatTest style number test).1 = .ok text ↔
      ∃ lines, testLines style number test = .ok lines ∧
        String.join (lines.map Line.text) = text := by
  rw [formatTest_eq]
  cases testLines style number test with
  | error fault => simp [Except.bind]
  | ok lines => simp [Except.bind, Line.compose_eq]

theorem formatTest_eq_error_iff :
    (formatTest style number test).1 = .error fault ↔
      testLines style number test = .error fault := by
  rw [formatTest_eq]
  cases testLines style number test with
  | error fault => simp [Except.bind]
  | ok lines => simp [Except.bind, Line.compose_eq]

/-- A test method leaves every block it enters, wherever it is written. -/
theorem depth_writeTest {writer written : IndentWriter}
    (writes : writeTest style number writer test = .ok written) :
    written.depth = writer.depth := by
  rw [writeTest_eq] at writes
  cases lines : testLines style number test with
  | error fault =>
      rw [lines] at writes
      cases writes
  | ok lines' =>
      rw [lines] at writes
      cases writes
      exact (IndentWriter.frame_writeLines writer lines').2

theorem testTexts_cons (style : Style) (number : Nat) (test : TestCase)
    (rest : List TestCase) :
    testTexts style number (test :: rest) =
      (formatTest style number test).1 :: testTexts style (number + 1) rest := by
  simp [testTexts, List.zipIdx_cons]

/-- If every test case has a text, the lines of all are these texts further in. -/
theorem testsLines_of_texts
    (names : ∀ test ∈ tests, test.NamesWithin (· ≠ '\n'))
    (written : testTexts style number tests = texts.map .ok) :
    ∃ lines, (testsLines style number tests).1 = .ok lines ∧
      String.join (lines.map Line.text) =
        String.join (texts.map fun text => prefixLines defaultUnit text ++ "\n") := by
  induction tests generalizing number texts with
  | nil =>
      have none : texts = [] := List.map_eq_nil_iff.mp written.symm
      subst none
      exact ⟨[], rfl, rfl⟩
  | cons test rest ih =>
      obtain ⟨here, others⟩ := List.forall_mem_cons.mp names
      rw [testTexts_cons] at written
      obtain ⟨text, others', rfl, first, last⟩ := List.map_eq_cons_iff.mp written.symm
      obtain ⟨lines, linesOk, rfl⟩ := formatTest_eq_ok_iff.mp first.symm
      obtain ⟨rest, restOk, joined⟩ := ih others last.symm
      refine ⟨lines.map Line.nested ++ .blank :: rest, ?_, ?_⟩
      · simp only [testsLines, linesOk, restOk]
        rfl
      · have prefixed := Line.prefixLines_text (single_testLines here linesOk)
        simp only [List.map_append, List.map_cons, String.join_append, String.join_cons,
          ← prefixed, joined, Line.text, Line.shown, String.append_assoc,
          String.empty_append]

/-- The first test case that has no text is the one that fails. -/
theorem testsLines_of_fault
    (written : testTexts style number tests = texts.map .ok ++ .error fault :: later) :
    (testsLines style number tests).1 = .error fault := by
  induction tests generalizing number texts with
  | nil => simp [testTexts] at written
  | cons test rest ih =>
      rw [testTexts_cons] at written
      cases texts with
      | nil =>
          obtain ⟨first, _⟩ := List.cons.inj written
          simp only [testsLines, formatTest_eq_error_iff.mp first]
      | cons text others =>
          obtain ⟨first, last⟩ := List.cons.inj written
          obtain ⟨lines, linesOk, _⟩ := formatTest_eq_ok_iff.mp first
          simp only [testsLines, linesOk, ih last]
          rfl

theorem text_headerLines (style : Style) :
    (headerLines style).map Line.text = style.frontLines.map (· ++ "\n") := by
  have outermost (content : String) : (Line.code 0 content).text = content ++ "\n" :=
    congrArg (· ++ "\n") String.empty_append
  have blank : Line.blank.text = "" ++ "\n" := rfl
  have imports : (style.dialect.imports.map (.code 0)).map Line.text =
      style.dialect.imports.map (· ++ "\n") := by
    rw [List.map_map]
    exact List.map_congr_left fun content _ => outermost content
  unfold headerLines Style.frontLines
  cases style.package <;>
    simp only [List.map_append, List.map_cons, List.map_nil, imports, outermost, blank]

/-- The text of a report whose test cases all have texts. -/
theorem unitText_of_texts {collection : Collection}
    (names : ∀ test ∈ collection.renderableTests, test.NamesWithin (· ≠ '\n'))
    (written : testTexts style number collection.renderableTests = texts.map .ok) :
    (unitText style number collection).1 = .ok (style.enclose texts) := by
  obtain ⟨lines, linesOk, joined⟩ := testsLines_of_texts names written
  have closing : Line.text (.code 0 "\x7d") = "\x7d\n" := rfl
  rw [unitText_eq, linesOk]
  refine (Line.compose_eq _).trans (congrArg Except.ok ?_)
  simp only [List.map_append, String.join_append, text_headerLines, joined,
    List.map_cons, List.map_nil, closing, String.join_cons, String.join_nil,
    String.append_empty, Style.enclose]

theorem unitText_of_fault {collection : Collection}
    (written : testTexts style number collection.renderableTests =
      texts.map .ok ++ .error fault :: later) :
    (unitText style number collection).1 = .error fault := by
  rw [unitText_eq, testsLines_of_fault written]
  rfl

/-- A report is put together from what comes of its test cases one by one.  It
fails as the first of them does, without a byte written; if none does, it is their
texts further in, each followed by an empty line.  On the way the writer of the class is
after every test case as deep as before it. -/
theorem formatAll_concatenates (style : Style) (counter : Nat)
    (collection : Collection) (sink : Sink) (accepts : sink.room = none)
    (flushes : sink.canFlush = true)
    (names : ∀ test ∈ collection.renderableTests, test.NamesWithin (· ≠ '\n')) :
    let results := testTexts style 0 collection.renderableTests
    let delivery := formatAll style counter collection sink
    (delivery.result = .ok () ↔ ∀ result ∈ results, ∃ text, result = .ok text) ∧
      (∀ (texts : List String) fault later, results = texts.map .ok ++ .error fault :: later →
        delivery.result = .error fault ∧ delivery.sink = sink) ∧
      (∀ texts : List String, results = texts.map .ok →
        delivery.sink =
          { sink with
            received := sink.received ++ (style.enclose texts).toUTF8.toList }) ∧
      ∀ number test writer written, writeTest style number writer test = .ok written →
        written.depth = writer.depth := by
  intro results delivery
  have failed : ∀ (texts : List String) fault later,
      results = texts.map .ok ++ .error fault :: later →
        delivery.result = .error fault ∧ delivery.sink = sink := by
    intro texts fault later written
    have unit := unitText_of_fault written
    rcases pair : unitText style (resetCounter counter) collection with ⟨_, last⟩
    obtain rfl := (congrArg Prod.fst pair).symm.trans unit
    simp only [delivery, formatAll, pair, and_self]
  have succeeded : ∀ texts : List String, results = texts.map .ok →
      delivery.result = .ok () ∧ delivery.sink =
        { sink with
          received := sink.received ++ (style.enclose texts).toUTF8.toList } := by
    intro texts written
    have unit := unitText_of_texts names written
    rcases pair : unitText style (resetCounter counter) collection with ⟨_, last⟩
    obtain rfl := (congrArg Prod.fst pair).symm.trans unit
    simp only [delivery, formatAll, pair, Sink.deliver_of_reliable accepts flushes,
      and_self]
  refine ⟨⟨?_, ?_⟩, failed, fun texts written => (succeeded texts written).2,
    fun _ _ _ _ writes => depth_writeTest writes⟩
  · intro ok
    rcases eq_map_ok_or_first_fault results with
      ⟨texts, written⟩ | ⟨texts, fault, later, written⟩
    · rw [written]
      exact List.forall_mem_map.mpr fun text _ => ⟨text, rfl⟩
    · rw [(failed texts fault later written).1] at ok
      cases ok
  · intro each
    rcases eq_map_ok_or_first_fault results with
      ⟨texts, written⟩ | ⟨texts, fault, later, written⟩
    · exact (succeeded texts written).1
    · obtain ⟨text, impossible⟩ := each (.error fault) (by simp [written])
      cases impossible

/-- A test case of an instance method that takes an array and a scalar. -/
def sampleTest (content : Int64) : TestCase :=
  let parameters : List Parameter :=
    [{ name := "this", type := .reference "demo.Sample", ordinal := 0, isReceiver := true },
      { name := "xs", type := .arrayOf .int, ordinal := 1, isReceiver := false },
      { name := "n", type := .primitive .int, ordinal := 2, isReceiver := false }]
  let values : List Value :=
    [.array { element := .int, elements := [.integer content] }, .scalar (.integer content)]
  { method :=
      { declaringClass := { name := "demo.Sample", hasDefaultConstructor := true }
        name := "count"
        isStatic := false
        parameters := parameters
        returnType := .primitive .int
        thrown := ["java.io.IOException"] }
    arguments := (parameters.tail.zip values).map fun (parameter, value) =>
      { parameter := parameter, value := value }
    outcome := .returned (.scalar (.integer content)) }

def sampleStyle : Style :=
  { dialect := .junit4, package := some "demo", className := "SampleTest", message := .full }

def sampleCollection : Collection :=
  (Collection.empty.insert (sampleTest 1)).insert (sampleTest 2)

theorem formatAll_concatenates_sample :
    let delivery := formatAll sampleStyle 7 sampleCollection .unlimited
    delivery.result = .ok () ∧
      ∃ texts : List String,
        testTexts sampleStyle 0 [sampleTest 1, sampleTest 2] = texts.map .ok ∧
          delivery.sink.received = (sampleStyle.enclose texts).toUTF8.toList := by
  intro delivery
  have tests : sampleCollection.renderableTests = [sampleTest 1, sampleTest 2] := by
    decide +kernel
  have names : ∀ test ∈ sampleCollection.renderableTests,
      test.NamesWithin (· ≠ '\n') := by
    rw [tests]
    simp only [List.forall_mem_cons]
    exact ⟨⟨by decide, by decide, by decide, by decide, by decide, nofun⟩,
      ⟨by decide, by decide, by decide, by decide, by decide, nofun⟩,
      List.forall_mem_nil _⟩
  have written : ∃ texts : List String,
      testTexts sampleStyle 0 [sampleTest 1, sampleTest 2] = texts.map .ok :=
    ⟨[_, _], rfl⟩
  obtain ⟨texts, textsOk⟩ := written
  have results := textsOk
  rw [← tests] at results
  obtain ⟨succeeds, _, received, _⟩ := formatAll_concatenates sampleStyle 7
    sampleCollection .unlimited rfl rfl names
  refine ⟨succeeds.mpr ?_, texts, textsOk, ?_⟩
  · rw [results]
    exact List.forall_mem_map.mpr fun text _ => ⟨text, rfl⟩
  · rw [congrArg Sink.received (received texts results)]
    rfl

end JUnit

end TestSynth
