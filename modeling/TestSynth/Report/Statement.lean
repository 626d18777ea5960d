import TestSynth.Report.IndentWriter

/-!
# Test methods

The statements of a generated test, and how an indenting writer writes them.  Two
dialects of the test framework differ in where an assertion takes its message and in
whether the comparison of reals takes a tolerance.
-/

namespace TestSynth

inductive Dialect
  | junit5
  | junit4
  deriving DecidableEq

namespace Dialect

def name : Dialect → String
  | .junit5 => "junit5"
  | .junit4 => "junit4"

def imports : Dialect → List String
  | .junit5 =>
      ["import org.junit.jupiter.api.Test;",
        "import static org.junit.jupiter.api.Assertions.*;"]
  | .junit4 => ["import org.junit.Test;", "import static org.junit.Assert.*;"]

/-- Whether the message of an assertion is its first argument or its last. -/
def messageFirst : Dialect → Bool
  | .junit5 => false
  | .junit4 => true

/-- Whether reals are compared with a tolerance. -/
def takesTolerance : Dialect → Bool
  | .junit5 => false
  | .junit4 => true

/-- The message as an argument before the others. -/
def leadingMessage (dialect : Dialect) (message : Option String) : List String :=
  if dialect.messageFirst then message.toList else []

/-- The message as an argument after the others. -/
def trailingMessage (dialect : Dialect) (message : Option String) : List String :=
  if dialect.messageFirst then [] else message.toList

end Dialect

inductive Statement
  /-- Declares a local variable with its value. -/
  | declare (type name value : String)
  /-- Evaluates an expression for its effect. -/
  | perform (expression : String)
  /-- Asserts that a value is the expected one. -/
  | assertEqual (assertion expected actual : String) (tolerance message : Option String)
  /-- Asserts that a call throws an exception of a class. -/
  | assertThrows (className call : String) (message : Option String)
  deriving DecidableEq

namespace Statement

/-- The name of the local variable that a statement declares. -/
def local? : Statement → Option String
  | .declare _ name _ => some name
  | _ => none

/-- Writes a statement at the depth of a writer.  A call that has to throw stands one
level further in. -/
def write (dialect : Dialect) (writer : IndentWriter) : Statement → Except Fault IndentWriter
  | .declare type name value =>
      return writer.line (type ++ " " ++ name ++ " = " ++ value ++ ";")
  | .perform expression => return writer.line (expression ++ ";")
  | .assertEqual assertion expected actual tolerance message =>
      let arguments :=
        dialect.leadingMessage message ++ [expected, actual] ++ tolerance.toList ++
          dialect.trailingMessage message
      return writer.line (assertion ++ "(" ++ ", ".intercalate arguments ++ ");")
  | .assertThrows className call message => do
      let opening := dialect.leadingMessage message ++ [className ++ ".class", "() -> \x7b"]
      let closing := "\x7d" :: dialect.trailingMessage message
      let opened := writer.line ("assertThrows(" ++ ", ".intercalate opening)
      let closed ← (opened.indent.line (call ++ ";")).dedent
      return closed.line (", ".intercalate closing ++ ");")

end Statement

/-- A generated test: the method it tests, its number, the exceptions it declares
and its statements. -/
structure TestMethod where
  subject : String
  number : Nat
  thrown : List String
  body : List Statement
  deriving DecidableEq

namespace TestMethod

def throwsClause (test : TestMethod) : String :=
  if test.thrown.isEmpty then "" else " throws " ++ ", ".intercalate test.thrown

/-- Writes a test method at the depth of a writer, with its body one level further
in. -/
def write (dialect : Dialect) (writer : IndentWriter) (test : TestMethod) :
    Except Fault IndentWriter := do
  let titled := (writer.line ("// Testing method " ++ test.subject)).line "@Test"
  let opened :=
    titled.line
      ("public void test" ++ toString test.number ++ "()" ++ test.throwsClause ++ " \x7b")
  let written ← test.body.foldlM (Statement.write dialect) opened.indent
  let closed ← written.dedent
  return closed.line "\x7d"

end TestMethod

end TestSynth
