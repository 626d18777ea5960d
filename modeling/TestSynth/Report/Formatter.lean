import TestSynth.Config.Basic
import TestSynth.Log
import TestSynth.Method.Admissible
import TestSynth.Report.Sink
import TestSynth.TestCase.Collection

/-!
# Formatters

A formatter writes test cases as text.  It numbers them by a counter, which is
the only thing it remembers from one request to the next.
-/

namespace TestSynth

/-- What is left of a request to write a report. -/
structure Delivery where
  result : Except Fault Unit
  counter : Nat
  sink : Sink
  log : List LogEvent

structure Formatter where
  name : String
  /-- The text of one test case, and the counter afterwards. -/
  formatTest : Nat → TestCase → Except Fault String × Nat
  /-- Writes the report of a whole collection. -/
  formatAll : Nat → Collection → Sink → Delivery
  resetCounter : Nat → Nat

/-- The number of the first test after a reset. -/
def firstNumber : Nat :=
  0

/-- A stream failure as a fault of the stream. -/
def streamFault (result : Except SinkFailure Unit) : Except Fault Unit :=
  result.mapError fun failure => .stream failure.reason

/-- Writes a text and flushes the sink. -/
def Sink.deliver (sink : Sink) (text : String) : Except Fault Unit × Sink :=
  let (written, after) := sink.writeText text
  let result := do
    streamFault written
    streamFault after.flush
  (result, after)

/-- Writes the text of one test case. -/
def Formatter.writeTest (formatter : Formatter) (counter : Nat) (test : TestCase)
    (sink : Sink) : Delivery :=
  match formatter.formatTest counter test with
  | (.error fault, after) => { result := .error fault, counter := after, sink := sink, log := [] }
  | (.ok text, after) =>
      let (written, filled) := sink.writeText text
      { result := streamFault written, counter := after, sink := filled, log := [] }

/-- What is reported about a group that is left out. -/
def MethodGroup.dropEvents (group : MethodGroup) : List LogEvent :=
  match group.method.checkReceiver with
  | .ok () => []
  | .error fault =>
      [{ level := .warn
         message :=
          fault.message ++ ", dropping " ++ toString group.tests.length ++ " test case(s)" }]

namespace Collection

/-- The groups tests can be reported for. -/
def renderableGroups (collection : Collection) : List MethodGroup :=
  collection.groups.filter (·.method.isRenderable)

/-- The test cases that are reported, in the order of their numbers. -/
def renderableTests (collection : Collection) : List TestCase :=
  collection.renderableGroups.flatMap (·.tests)

/-- What is reported about the groups left out. -/
def dropEvents (collection : Collection) : List LogEvent :=
  collection.groups.flatMap MethodGroup.dropEvents

end Collection

end TestSynth
