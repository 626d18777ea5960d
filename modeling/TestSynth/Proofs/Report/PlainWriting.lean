import TestSynth.Proofs.Report.Indentation

/-!
# Writing without a table

The table of an indenting writer only saves work.  A writer that has none, and puts
the indentation together anew for every line, gives the same answers and writes the
same text, whatever is asked of the two.
-/

namespace TestSynth

/-- What a writer can be asked for.  A value that is pushed is given by its text, or by
none if it turns out that it cannot be written. -/
inductive WriterRequest
  | indent
  | dedent
  | startLine
  | push (shown : Option String)
  | endLine
  | line (shown : Option String)
  | blank
  | writeText (text : String)

namespace WriterRequest

/-- Whether a value is pushed that cannot be written. -/
def breaks : WriterRequest → Bool
  | .push shown => shown.isNone
  | .line shown => shown.isNone
  | _ => false

/-- What is left after requests, one answered after the other. -/
def run {State : Type} (answer : State → WriterRequest → Except Fault Unit × State)
    (state : State) (requests : List WriterRequest) : State :=
  requests.foldl (fun current request => (answer current request).2) state

end WriterRequest

namespace IndentWriter

/-- Pushes a value, or notes that it could not be written. -/
def pushValue (writer : IndentWriter) : Option String → IndentWriter
  | some text => writer.push text
  | none => writer.pushBroken

def answer (writer : IndentWriter) : WriterRequest → Except Fault Unit × IndentWriter
  | .indent => (.ok (), writer.indent)
  | .dedent =>
      match writer.dedent with
      | .ok outer => (.ok (), outer)
      | .error fault => (.error fault, writer)
  | .startLine => (.ok (), writer.startLine)
  | .push shown => (.ok (), writer.pushValue shown)
  | .endLine => (.ok (), writer.endLine)
  | .line (some text) => (.ok (), writer.line text)
  | .line none => (.ok (), writer.startLine.pushBroken.endLine)
  | .blank => (.ok (), writer.blank)
  | .writeText text => (.ok (), writer.push text)

/-- The writer after requests. -/
def after (writer : IndentWriter) (requests : List WriterRequest) : IndentWriter :=
  WriterRequest.run answer writer requests

end IndentWriter

/-- A writer that remembers no indentation. -/
structure PlainWriter where
  unit : String
  buffer : String
  depth : Nat
  deriving DecidableEq

namespace PlainWriter

def withUnit (unit : String) : PlainWriter :=
  { unit := unit, buffer := "", depth := 0 }

def write (writer : PlainWriter) (text : String) : PlainWriter :=
  { writer with buffer := writer.buffer ++ text }

/-- Writes the unit as often as the writer is nested deep. -/
def startLine (writer : PlainWriter) : PlainWriter :=
  writer.write (indentation writer.unit writer.depth)

def answer (writer : PlainWriter) : WriterRequest → Except Fault Unit × PlainWriter
  | .indent => (.ok (), { writer with depth := writer.depth + 1 })
  | .dedent =>
      if writer.depth = 0 then (.error (.contract .unbalancedDedent), writer)
      else (.ok (), { writer with depth := writer.depth - 1 })
  | .startLine => (.ok (), writer.startLine)
  | .push shown => (.ok (), writer.write (shown.getD ""))
  | .endLine => (.ok (), writer.write "\n")
  | .line shown => (.ok (), (writer.startLine.write (shown.getD "")).write "\n")
  | .blank => (.ok (), writer.write "\n")
  | .writeText text => (.ok (), writer.write text)

def after (writer : PlainWriter) (requests : List WriterRequest) : PlainWriter :=
  WriterRequest.run answer writer requests

theorem unit_after (writer : PlainWriter) (requests : List WriterRequest) :
    (writer.after requests).unit = writer.unit := by
  induction requests generalizing writer with
  | nil => rfl
  | cons request rest ih =>
      have answered : (writer.answer request).2.unit = writer.unit := by
        cases request with
        | dedent => cases nested : writer.depth <;> simp [answer, nested]
        | _ => rfl
      exact (ih (writer.answer request).2).trans answered

end PlainWriter

namespace IndentWriter

/-- A writer whose table is right has written what a plain writer has. -/
structure Mirrors (writer : IndentWriter) (plain : PlainWriter) : Prop where
  tabulated : writer.Tabulated
  unit : writer.unit = plain.unit
  buffer : writer.buffer = plain.buffer
  depth : writer.depth = plain.depth

variable {writer : IndentWriter} {plain : PlainWriter}

theorem mirrors_withUnit (unit : String) :
    (withUnit unit).Mirrors (PlainWriter.withUnit unit) :=
  ⟨tabulated_withUnit unit, rfl, rfl, rfl⟩

namespace Mirrors

theorem push (mirrors : writer.Mirrors plain) (text : String) :
    (writer.push text).Mirrors (plain.write text) where
  tabulated := mirrors.tabulated
  unit := mirrors.unit
  buffer := congrArg (· ++ text) mirrors.buffer
  depth := mirrors.depth

theorem pushValue (mirrors : writer.Mirrors plain) (shown : Option String) :
    (writer.pushValue shown).Mirrors (plain.write (shown.getD "")) := by
  cases shown with
  | some text => exact mirrors.push text
  | none =>
      refine ⟨mirrors.tabulated, mirrors.unit, ?_, mirrors.depth⟩
      exact mirrors.buffer.trans String.append_empty.symm

theorem startLine (mirrors : writer.Mirrors plain) :
    writer.startLine.Mirrors plain.startLine := by
  obtain ⟨tabulated, buffer⟩ := startLine_of_tabulated mirrors.tabulated
  refine ⟨tabulated, mirrors.unit, ?_, mirrors.depth⟩
  rw [buffer, mirrors.buffer, mirrors.unit, mirrors.depth]
  rfl

theorem line (mirrors : writer.Mirrors plain) (shown : Option String) :
    (writer.startLine.pushValue shown).endLine.Mirrors
      ((plain.startLine.write (shown.getD "")).write "\n") :=
  (mirrors.startLine.pushValue shown).push "\n"

/-- One request is answered alike. -/
theorem answer (mirrors : writer.Mirrors plain) (request : WriterRequest) :
    (writer.answer request).1 = (plain.answer request).1 ∧
      (writer.answer request).2.Mirrors (plain.answer request).2 := by
  cases request with
  | indent =>
      exact ⟨rfl, mirrors.tabulated, mirrors.unit, mirrors.buffer,
        congrArg (· + 1) mirrors.depth⟩
  | dedent =>
      have depth := mirrors.depth
      cases nested : writer.depth with
      | zero =>
          rw [nested] at depth
          simpa [IndentWriter.answer, dedent, nested, PlainWriter.answer, ← depth] using mirrors
      | succ outer =>
          rw [nested] at depth
          simp only [IndentWriter.answer, dedent, nested, PlainWriter.answer, ← depth]
          exact ⟨rfl, mirrors.tabulated, mirrors.unit, mirrors.buffer, rfl⟩
  | startLine => exact ⟨rfl, mirrors.startLine⟩
  | push shown => exact ⟨rfl, mirrors.pushValue shown⟩
  | endLine | blank => exact ⟨rfl, mirrors.push "\n"⟩
  | line shown =>
      cases shown with
      | some text => exact ⟨rfl, mirrors.line (some text)⟩
      | none => exact ⟨rfl, mirrors.line none⟩
  | writeText text => exact ⟨rfl, mirrors.push text⟩

theorem after (mirrors : writer.Mirrors plain) (requests : List WriterRequest) :
    (writer.after requests).Mirrors (plain.after requests) := by
  induction requests generalizing writer plain with
  | nil => exact mirrors
  | cons request rest ih => exact ih (mirrors.answer request).2

end Mirrors

/-- Every entry of the table is the indentation of its depth. -/
theorem Tabulated.getElem (tabulated : writer.Tabulated) {index : Nat}
    (inside : index < writer.indents.length) :
    writer.indents[index] = indentation writer.unit index := by
  obtain ⟨deepest, indents⟩ := tabulated
  simp [indents]

theorem Tabulated.ne_nil (tabulated : writer.Tabulated) : writer.indents ≠ [] := by
  obtain ⟨deepest, indents⟩ := tabulated
  simp [indents]

theorem length_growIndents (unit : String) (missing : Nat) (indents : List String) :
    (growIndents unit missing indents).length = indents.length + missing := by
  induction missing generalizing indents with
  | zero => rfl
  | succ missing ih =>
      rw [growIndents, ih, List.length_append, List.length_singleton, Nat.add_assoc,
        Nat.add_comm 1]

/-- The table reaches the depth of a line that is started, whatever it held before. -/
theorem depth_lt_length_startLine (writer : IndentWriter) :
    writer.depth < writer.startLine.indents.length := by
  have length : writer.startLine.indents.length =
      writer.indents.length + (writer.depth + 1 - writer.indents.length) :=
    length_growIndents writer.unit _ writer.indents
  omega

theorem failed_pushValue (writer : IndentWriter) (shown : Option String) :
    (writer.pushValue shown).failed = (writer.failed || shown.isNone) := by
  cases shown <;> simp [pushValue, push, pushBroken]

/-- Only a value that cannot be written is noted as a failure, and it stays noted. -/
theorem failed_answer (writer : IndentWriter) (request : WriterRequest) :
    (writer.answer request).2.failed = (writer.failed || request.breaks) := by
  have unbroken : writer.failed = (writer.failed || false) := (Bool.or_false _).symm
  cases request with
  | indent | startLine | endLine | blank | writeText _ => exact unbroken
  | dedent =>
      cases nested : writer.depth <;>
        simp [answer, dedent, nested, WriterRequest.breaks]
  | push shown => exact failed_pushValue writer shown
  | line shown =>
      cases shown with
      | some text => exact failed_pushValue writer.startLine (some text)
      | none => exact failed_pushValue writer.startLine none

theorem failed_after (writer : IndentWriter) (requests : List WriterRequest) :
    (writer.after requests).failed =
      (writer.failed || requests.any WriterRequest.breaks) := by
  induction requests generalizing writer with
  | nil => simp [after, WriterRequest.run]
  | cons request rest ih =>
      have later := ih (writer.answer request).2
      rw [failed_answer, Bool.or_assoc] at later
      exact later

/-- Whatever a writer is asked for, it answers and writes like a writer without a table.
Its table holds the indentation of every depth that it has an entry for, the depth of a
line that is started is one of them, the outermost block cannot be left, and the text is
given exactly if every value could be written and every block was left. -/
theorem after_like_plain (unit : String) (requests : List WriterRequest) :
    let writer := (withUnit unit).after requests
    let plain := (PlainWriter.withUnit unit).after requests
    writer.buffer = plain.buffer ∧ writer.depth = plain.depth ∧
    (∀ request, (writer.answer request).1 = (plain.answer request).1) ∧
    writer.indents ≠ [] ∧
    (∀ index (inside : index < writer.indents.length),
      writer.indents[index] = indentation unit index) ∧
    writer.startLine.indents[writer.depth]? = some (indentation unit writer.depth) ∧
    (writer.depth = 0 →
      writer.answer .dedent = (.error (.contract .unbalancedDedent), writer)) ∧
    writer.finish =
      if requests.any WriterRequest.breaks then .error .unprintable
      else if writer.depth ≠ 0 then .error (.contract (.finishedInside writer.depth))
      else .ok writer.buffer := by
  intro writer plain
  have mirrors : writer.Mirrors plain := (mirrors_withUnit unit).after requests
  have unitKept : writer.unit = unit := mirrors.unit.trans (PlainWriter.unit_after _ requests)
  have failed : writer.failed = requests.any WriterRequest.breaks :=
    (failed_after (withUnit unit) requests).trans (Bool.false_or _)
  refine ⟨mirrors.buffer, mirrors.depth, fun request => (mirrors.answer request).1,
    mirrors.tabulated.ne_nil, ?_, ?_, ?_, ?_⟩
  · intro index inside
    rw [← unitKept]
    exact mirrors.tabulated.getElem inside
  · have started : writer.startLine.Tabulated := mirrors.startLine.tabulated
    have inside := depth_lt_length_startLine writer
    rw [List.getElem?_eq_getElem inside, started.getElem inside, ← unitKept]
    rfl
  · intro outermost
    simp [answer, dedent, outermost]
  · rw [← failed]
    rfl

end IndentWriter

end TestSynth
