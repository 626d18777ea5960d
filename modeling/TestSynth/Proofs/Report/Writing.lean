import TestSynth.Proofs.Report.Indentation
import TestSynth.Report.JUnit

/-!
# Lines that are written

What a test method is in lines, whatever depth it is written at.  The writer enters and
leaves blocks on its way through a test method; it ends as deep as it started, and what it
has written are these lines.  So the same lines stand in the text of a test case alone, on
a writer of its own, and one level further in inside the class, on a writer that all test
cases share.
-/

namespace TestSynth

namespace Statement

def lines (dialect : Dialect) : Statement → List Line
  | .declare type name value => [.code 0 (type ++ " " ++ name ++ " = " ++ value ++ ";")]
  | .perform expression => [.code 0 (expression ++ ";")]
  | .assertEqual assertion expected actual tolerance message =>
      let arguments :=
        dialect.leadingMessage message ++ [expected, actual] ++ tolerance.toList ++
          dialect.trailingMessage message
      [.code 0 (assertion ++ "(" ++ ", ".intercalate arguments ++ ");")]
  | .assertThrows className call message =>
      let opening := dialect.leadingMessage message ++ [className ++ ".class", "() -> \x7b"]
      let closing := "\x7d" :: dialect.trailingMessage message
      [.code 0 ("assertThrows(" ++ ", ".intercalate opening),
        .code 1 (call ++ ";"),
        .code 0 (", ".intercalate closing ++ ");")]

/-- A statement is written in its lines, also if it enters a block. -/
theorem write_eq (dialect : Dialect) (writer : IndentWriter) (statement : Statement) :
    statement.write dialect writer = .ok (writer.writeLines (statement.lines dialect)) := by
  cases statement with
  | declare | perform | assertEqual => rfl
  | assertThrows className call message =>
      let opening := dialect.leadingMessage message ++ [className ++ ".class", "() -> \x7b"]
      let opened := writer.line ("assertThrows(" ++ ", ".intercalate opening)
      have inside : (opened.indent.line (call ++ ";")).dedent =
          .ok (opened.writeLine (.code 1 (call ++ ";"))) := rfl
      simp only [write, opened, opening] at inside ⊢
      rw [inside]
      rfl

theorem foldlM_write (dialect : Dialect) (writer : IndentWriter)
    (statements : List Statement) :
    statements.foldlM (write dialect) writer =
      .ok (writer.writeLines (statements.flatMap (lines dialect))) := by
  induction statements generalizing writer with
  | nil => rfl
  | cons statement rest ih =>
      rw [List.foldlM_cons, write_eq, List.flatMap_cons, IndentWriter.writeLines_append]
      exact ih _

end Statement

namespace TestMethod

def lines (dialect : Dialect) (test : TestMethod) : List Line :=
  [.code 0 ("// Testing method " ++ test.subject),
    .code 0 "@Test",
    .code 0
      ("public void test" ++ toString test.number ++ "()" ++ test.throwsClause ++ " \x7b")] ++
    (test.body.flatMap (Statement.lines dialect)).map Line.nested ++
    [.code 0 "\x7d"]

/-- A test method is written in its lines, and every block it enters is left. -/
theorem write_eq (dialect : Dialect) (writer : IndentWriter) (test : TestMethod) :
    test.write dialect writer = .ok (writer.writeLines (test.lines dialect)) := by
  simp only [write, lines, Statement.foldlM_write, IndentWriter.writeLines_indent,
    IndentWriter.writeLines_append, IndentWriter.writeLines_cons, IndentWriter.writeLines_nil,
    IndentWriter.writeLine_code_zero, bind, Except.bind, IndentWriter.dedent_indent]
  rfl

end TestMethod

namespace JUnit

variable {style : Style} {number : Nat} {test : TestCase} {writer : IndentWriter}

/-- The lines of a test case. -/
def testLines (style : Style) (number : Nat) (test : TestCase) : Except Fault (List Line) := do
  let method ← testMethod style number test
  return method.lines style.dialect

/-- The lines of test cases inside a class, and the number after the last one
that was tried. -/
def testsLines (style : Style) (number : Nat) :
    List TestCase → Except Fault (List Line) × Nat
  | [] => (.ok [], number)
  | test :: rest =>
      match testLines style number test with
      | .error fault => (.error fault, number + 1)
      | .ok lines =>
          let (others, last) := testsLines style (number + 1) rest
          (others.map fun others => lines.map Line.nested ++ .blank :: others, last)

/-- The lines in front of the test methods. -/
def headerLines (style : Style) : List Line :=
  let package :=
    match style.package with
    | some package => [.code 0 ("package " ++ package ++ ";"), .blank]
    | none => []
  package ++ style.dialect.imports.map (.code 0) ++
    [.blank, .code 0 ("public class " ++ style.className ++ " \x7b")]

/-- At any depth a test case is written in its lines, and the writer ends as deep as it
started. -/
theorem writeTest_eq (style : Style) (number : Nat) (writer : IndentWriter)
    (test : TestCase) :
    writeTest style number writer test = (testLines style number test).map writer.writeLines := by
  unfold writeTest testLines
  cases testMethod style number test with
  | error fault => rfl
  | ok method => exact method.write_eq style.dialect writer

/-- Inside a block test cases are written in their lines one level further in. -/
theorem writeTests_indent (style : Style) (number : Nat) (writer : IndentWriter)
    (tests : List TestCase) :
    writeTests style number writer.indent tests =
      ((testsLines style number tests).1.map fun lines => (writer.writeLines lines).indent,
        (testsLines style number tests).2) := by
  induction tests generalizing number writer with
  | nil => rfl
  | cons test rest ih =>
      rw [writeTests, testsLines, writeTest_eq]
      cases testLines style number test with
      | error fault => rfl
      | ok lines =>
          have written : (writer.indent.writeLines lines).blank =
              (writer.writeLines (lines.map Line.nested ++ [.blank])).indent := by
            rw [IndentWriter.writeLines_indent, IndentWriter.writeLines_append]
            rfl
          dsimp only [Except.map]
          rw [written, ih]
          rcases testsLines style (number + 1) rest with ⟨_ | others, last⟩
          · rfl
          · simp [Except.map]

theorem writeHeader_eq (style : Style) (writer : IndentWriter) :
    (writeHeader style writer).line ("public class " ++ style.className ++ " \x7b") =
      writer.writeLines (headerLines style) := by
  unfold writeHeader headerLines
  cases style.package <;> simp [IndentWriter.writeLines_map_code]

/-- The text of a report, on a writer that all test cases share, is that of its lines. -/
theorem unitText_eq (style : Style) (number : Nat) (collection : Collection) :
    unitText style number collection =
      ((testsLines style number collection.renderableTests).1.bind fun lines =>
          Line.compose (headerLines style ++ lines ++ [.code 0 "\x7d"]),
        (testsLines style number collection.renderableTests).2) := by
  unfold unitText
  simp only [writeHeader_eq, writeTests_indent]
  cases (testsLines style number collection.renderableTests).1 with
  | error fault => rfl
  | ok lines =>
      simp only [Line.compose, IndentWriter.writeLines_append]
      rfl

/-- The text of a test case alone, on a writer of its own, is that of its lines. -/
theorem formatTest_eq (style : Style) (counter : Nat) (test : TestCase) :
    formatTest style counter test =
      ((testLines style counter test).bind Line.compose, counter + 1) := by
  unfold formatTest
  rw [writeTest_eq]
  cases testLines style counter test <;> rfl

end JUnit

end TestSynth
