import TestSynth.Fault

/-!
# Indented text

A writer that starts each line with as many indentation units as it is nested
deep.  The indentation of a depth is built once and kept in a table.
-/

namespace TestSynth

/-- Four blanks. -/
def defaultUnit : String :=
  "    "

structure IndentWriter where
  buffer : String
  depth : Nat
  unit : String
  /-- The indentation of each depth, as far as it was needed. -/
  indents : List String
  /-- Whether a text that was pushed could not be written. -/
  failed : Bool
  deriving DecidableEq

namespace IndentWriter

def withUnit (unit : String) : IndentWriter :=
  { buffer := "", depth := 0, unit := unit, indents := [""], failed := false }

def new : IndentWriter :=
  withUnit defaultUnit

/-- Enters a nested block. -/
def indent (writer : IndentWriter) : IndentWriter :=
  { writer with depth := writer.depth + 1 }

/-- Leaves a nested block. -/
def dedent (writer : IndentWriter) : Except Fault IndentWriter :=
  match writer.depth with
  | 0 => .error (.contract .unbalancedDedent)
  | outer + 1 => .ok { writer with depth := outer }

/-- Extends the table by so many depths, each one unit deeper than the last. -/
def growIndents (unit : String) : Nat → List String → List String
  | 0, indents => indents
  | missing + 1, indents =>
      growIndents unit missing (indents ++ [indents.getLastD "" ++ unit])

/-- Writes the indentation of a line. -/
def startLine (writer : IndentWriter) : IndentWriter :=
  let missing := writer.depth + 1 - writer.indents.length
  let indents := growIndents writer.unit missing writer.indents
  { writer with
    buffer := writer.buffer ++ indents.getD writer.depth ""
    indents := indents }

/-- Appends to the current line. -/
def push (writer : IndentWriter) (text : String) : IndentWriter :=
  { writer with buffer := writer.buffer ++ text }

/-- Notes that a text could not be written. -/
def pushBroken (writer : IndentWriter) : IndentWriter :=
  { writer with failed := true }

def endLine (writer : IndentWriter) : IndentWriter :=
  writer.push "\n"

/-- Writes a line at the current depth. -/
def line (writer : IndentWriter) (text : String) : IndentWriter :=
  (writer.startLine.push text).endLine

/-- Writes an empty line, which is not indented. -/
def blank (writer : IndentWriter) : IndentWriter :=
  writer.endLine

/-- The text written, if all of it could be written and every block was left. -/
def finish (writer : IndentWriter) : Except Fault String :=
  if writer.failed then .error .unprintable
  else if writer.depth ≠ 0 then .error (.contract (.finishedInside writer.depth))
  else .ok writer.buffer

end IndentWriter

end TestSynth
