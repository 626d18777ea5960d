import TestSynth.Report.Formatter
import TestSynth.Report.Literal
import TestSynth.Report.Statement

/-!
# JUnit reports

Every test case becomes a test method.  Scalar arguments stand as literals in
the call.  Array arguments are declared as local variables first, because array
literals may not stand in a call.
-/

namespace TestSynth

namespace JUnit

/-- What a report depends on besides the test cases. -/
structure Style where
  dialect : Dialect
  package : Option String
  className : String
  message : MessageLevel
  deriving DecidableEq

def Style.ofConfig (dialect : Dialect) (config : Config) : Style :=
  { dialect := dialect
    package := config.package
    className := config.className
    message := config.message }

/-- The local variable that holds the receiver. -/
def receiverName : String :=
  "instance"

def expectedName : String :=
  "expected"

def resultName : String :=
  "result"

/-- The local variable of an array parameter.  A name that a test uses itself is
changed. -/
def localName (name : String) : String :=
  if name ∈ [receiverName, expectedName, resultName] then name ++ "Arg" else name

/-- A class name in source text, where nested classes are joined by dots. -/
def sourceClassName (name : String) : String :=
  String.ofList (name.toList.map fun character => if character = '$' then '.' else character)

/-- The text inside a string literal. -/
def escapeString (text : String) : String :=
  String.ofList
    (text.toList.flatMap fun character =>
      if character = '\\' || character = '"' then ['\\', character] else [character])

/-- The tolerance zero, typed like the compared reals. -/
def tolerance? (type : JavaType) : Option String :=
  match type.primitive? <|> type.basicElement? with
  | some .float => some "0.0f"
  | some .double => some "0.0"
  | _ => none

/-- The declarations of the array arguments. -/
def arrayLocals : List Argument → Except Fault (List Statement)
  | [] => .ok []
  | argument :: rest => do
      if argument.parameter.type.isArray then
        let value ← literal argument.parameter.type argument.value
        let others ← arrayLocals rest
        return .declare argument.parameter.type.sourceName
          (localName argument.parameter.name) value :: others
      else arrayLocals rest

/-- The declaration of the receiver of an instance method. -/
def receiverLocal (method : Method) : List Statement :=
  if method.isStatic then []
  else
    let className := sourceClassName method.declaringClass.name
    [.declare className receiverName ("new " ++ className ++ "()")]

/-- An argument as it stands in the call. -/
def callArgument (test : TestCase) (parameter : Parameter) : Except Fault String :=
  match test.valueOf? parameter with
  | none => .error (.contract (.missingValue parameter.name test.method.baseName))
  | some value =>
      if parameter.type.isArray then .ok (localName parameter.name)
      else literal parameter.type value

/-- The call of the method under test. -/
def callExpression (test : TestCase) : Except Fault String := do
  let method := test.method
  let target :=
    if method.isStatic then sourceClassName method.declaringClass.name else receiverName
  let arguments ← method.arguments.mapM (callArgument test)
  return target ++ "." ++ method.name ++ "(" ++ ", ".intercalate arguments ++ ")"

/-- An argument as the message of an assertion lists it. -/
def messageArgument (argument : Argument) : Except Fault String := do
  let value ← literal argument.parameter.type argument.value
  return "\\n" ++ argument.parameter.name ++ ":\\t" ++ escapeString value

/-- The message of the assertions of a test, as a string literal. -/
def assertMessage (level : MessageLevel) (test : TestCase) : Except Fault (Option String) := do
  let subject := "Test for method " ++ test.method.name ++ " failed."
  match level with
  | .off => return none
  | .short => return some ("\"" ++ subject ++ "\"")
  | .full =>
      let arguments ← test.arguments.mapM messageArgument
      return some ("\"" ++ subject ++ "\\nInput:" ++ String.join arguments ++ "\"")

/-- The statements that call the method and check what comes of it. -/
def outcomeStatements (style : Style) (test : TestCase) : Except Fault (List Statement) :=
  match test.outcome with
  | .void => do
      let call ← callExpression test
      return [.perform call]
  | .threw exception => do
      let message ← assertMessage style.message test
      let call ← callExpression test
      return [.assertThrows (sourceClassName exception.typeName) call message]
  | .returned value => do
      let type := test.method.returnType
      let expected ← literal type value
      let call ← callExpression test
      let message ← assertMessage style.message test
      let tolerance := if style.dialect.takesTolerance then tolerance? type else none
      return [
        .declare type.sourceName expectedName expected,
        .declare type.sourceName resultName call,
        .assertEqual (if type.isArray then "assertArrayEquals" else "assertEquals")
          expectedName resultName tolerance message]

/-- The test method of a test case. -/
def testMethod (style : Style) (number : Nat) (test : TestCase) : Except Fault TestMethod := do
  let arrays ← arrayLocals test.arguments
  let outcome ← outcomeStatements style test
  return {
    subject := test.method.name
    number := number
    thrown := if test.didThrow then [] else test.method.thrown.map sourceClassName
    body := arrays ++ receiverLocal test.method ++ outcome }

/-- Writes the test method of a test case at the depth of a writer. -/
def writeTest (style : Style) (number : Nat) (writer : IndentWriter) (test : TestCase) :
    Except Fault IndentWriter := do
  let method ← testMethod style number test
  method.write style.dialect writer

/-- Writes test cases, each with an empty line after it, and gives the number after the
last one that was tried. -/
def writeTests (style : Style) (number : Nat) (writer : IndentWriter) :
    List TestCase → Except Fault IndentWriter × Nat
  | [] => (.ok writer, number)
  | test :: rest =>
      match writeTest style number writer test with
      | .error fault => (.error fault, number + 1)
      | .ok written => writeTests style (number + 1) written.blank rest

/-- Writes the package and the imports. -/
def writeHeader (style : Style) (writer : IndentWriter) : IndentWriter :=
  let opened :=
    match style.package with
    | some package => (writer.line ("package " ++ package ++ ";")).blank
    | none => writer
  (style.dialect.imports.foldl IndentWriter.line opened).blank

/-- The text of a whole report whose tests are numbered from a given number on, and
the number after the last test tried.  The tests stand one level inside the class. -/
def unitText (style : Style) (number : Nat) (collection : Collection) :
    Except Fault String × Nat :=
  let opened :=
    (writeHeader style .new).line ("public class " ++ style.className ++ " \x7b")
  let (written, last) := writeTests style number opened.indent collection.renderableTests
  let text := do
    let inside ← written
    let closed ← inside.dedent
    (closed.line "\x7d").finish
  (text, last)

def formatTest (style : Style) (counter : Nat) (test : TestCase) : Except Fault String × Nat :=
  ((writeTest style counter .new test).bind IndentWriter.finish, counter + 1)

/-- Numbering starts anew, whatever was numbered before. -/
def resetCounter (_counter : Nat) : Nat :=
  firstNumber

/-- Writes a report, which resets the counter.  Nothing is written if a test case
cannot be. -/
def formatAll (style : Style) (counter : Nat) (collection : Collection) (sink : Sink) :
    Delivery :=
  let (text, counter) := unitText style (resetCounter counter) collection
  let log := collection.dropEvents
  match text with
  | .error fault => { result := .error fault, counter := counter, sink := sink, log := log }
  | .ok text =>
      let (result, after) := sink.deliver text
      { result := result, counter := counter, sink := after, log := log }

/-- The formatter of a dialect. -/
def formatter (dialect : Dialect) (config : Config) : Formatter :=
  let style := Style.ofConfig dialect config
  { name := dialect.name
    formatTest := formatTest style
    formatAll := formatAll style
    resetCounter := resetCounter }

end JUnit

end TestSynth
