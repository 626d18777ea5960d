import TestSynth.Json.Printer
import TestSynth.Report.Formatter
import TestSynth.TestCase.Json

/-!
# JSON reports

A report is one document with an entry for every method.  Test cases are numbered
through the whole document.
-/

namespace TestSynth

namespace Document

/-- What a report depends on besides the test cases. -/
structure Style where
  package : Option String
  className : String
  deriving DecidableEq

def Style.ofConfig (config : Config) : Style :=
  { package := config.package, className := config.className }

def argumentView (argument : Argument) : Json :=
  .object
    [("name", .string argument.parameter.name),
      ("type", .string argument.parameter.type.sourceName),
      ("value", argument.value.toJson)]

/-- A test case with its number. -/
def caseView (number : Nat) (test : TestCase) : Json :=
  .object
    [("id", .count number),
      ("args", .array (test.arguments.map argumentView)),
      ("outcome", test.outcome.toJson)]

/-- Test cases with consecutive numbers. -/
def caseViews (number : Nat) : List TestCase → List Json
  | [] => []
  | test :: rest => caseView number test :: caseViews (number + 1) rest

/-- A group whose first test case has the given number. -/
def groupView (number : Nat) (group : MethodGroup) : Json :=
  .object
    [("class", .string group.method.declaringClass.name),
      ("name", .string group.method.name),
      ("descriptor", .string group.method.descriptor),
      ("is_static", .boolean group.method.isStatic),
      ("tests", .array (caseViews number group.tests))]

/-- Groups whose test cases have consecutive numbers throughout. -/
def groupViews (number : Nat) : List MethodGroup → List Json
  | [] => []
  | group :: rest => groupView number group :: groupViews (number + group.tests.length) rest

/-- The document of groups whose test cases are numbered from a given number on; a
missing package is left out. -/
def suiteView (style : Style) (number : Nat) (groups : List MethodGroup) : Json :=
  let package :=
    match style.package with
    | some package => [("package", .string package)]
    | none => []
  .object
    (package ++
      [("class_name", .string style.className), ("methods", .array (groupViews number groups))])

/-- The text of a document. -/
def suiteText (style : Style) (number : Nat) (collection : Collection) : String :=
  (suiteView style number collection.renderableGroups).indented 0

def formatTest (counter : Nat) (test : TestCase) : Except Fault String × Nat :=
  (.ok ((caseView counter test).indented 0), counter + 1)

/-- Numbering starts anew, whatever was numbered before. -/
def resetCounter (_counter : Nat) : Nat :=
  firstNumber

/-- Writes a document and a line feed, which resets the counter.  A failure inside
the document is one of the document, a later one is one of the stream. -/
def formatAll (style : Style) (counter : Nat) (collection : Collection) (sink : Sink) :
    Delivery :=
  let first := resetCounter counter
  let counter := first + collection.renderableTests.length
  let log := collection.dropEvents
  match sink.writeText (suiteText style first collection) with
  | (.error failure, after) =>
      { result := .error (.document failure.reason)
        counter := counter
        sink := after
        log := log }
  | (.ok (), after) =>
      let (result, last) := after.deliver "\n"
      { result := result, counter := counter, sink := last, log := log }

def formatter (config : Config) : Formatter :=
  { name := "json"
    formatTest := formatTest
    formatAll := formatAll (Style.ofConfig config)
    resetCounter := resetCounter }

end Document

end TestSynth
