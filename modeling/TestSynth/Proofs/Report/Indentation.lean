import TestSynth.Proofs.Text.Lines
import TestSynth.Report.IndentWriter

/-!
# Indentation of lines

The indenting writer starts a line with the unit as often as the line is nested
deep, whatever its table holds by then.  Lines that are written inside a block are
the nested lines, and leaving the block undoes nothing but entering it.  So the text
of nested lines is the text of the lines themselves with the unit in front of each.
-/

namespace TestSynth

/-- The unit, as often as a line is nested deep. -/
def indentation (unit : String) (depth : Nat) : String :=
  String.join (List.replicate depth unit)

theorem indentation_succ (unit : String) (depth : Nat) :
    indentation unit (depth + 1) = unit ++ indentation unit depth := by
  simp [indentation, List.replicate_succ, String.join_cons]

/-- The unit may as well come last. -/
theorem indentation_succ' (unit : String) (depth : Nat) :
    indentation unit (depth + 1) = indentation unit depth ++ unit := by
  simp [indentation, List.replicate_succ', String.join_append, String.join_cons]

namespace IndentWriter

/-- The table holds the indentation of every depth up to some depth. -/
def Tabulated (writer : IndentWriter) : Prop :=
  ∃ deepest,
    writer.indents = (List.range (deepest + 1)).map (indentation writer.unit)

theorem tabulated_withUnit (unit : String) : (withUnit unit).Tabulated :=
  ⟨0, rfl⟩

theorem growIndents_tabulated (unit : String) (missing deepest : Nat) :
    growIndents unit missing ((List.range (deepest + 1)).map (indentation unit)) =
      (List.range (deepest + missing + 1)).map (indentation unit) := by
  induction missing generalizing deepest with
  | zero => rfl
  | succ missing ih =>
      have next : ((List.range (deepest + 1)).map (indentation unit)).getLastD "" ++
          unit = indentation unit (deepest + 1) := by
        rw [List.range_succ, List.map_append, indentation_succ']
        simp
      have grown : (List.range (deepest + 1)).map (indentation unit) ++
          [indentation unit (deepest + 1)] =
          (List.range (deepest + 1 + 1)).map (indentation unit) := by
        rw [List.range_succ (n := deepest + 1), List.map_append, List.map_singleton]
      rw [growIndents, next, grown, ih (deepest + 1), Nat.add_right_comm deepest 1,
        Nat.add_assoc deepest missing 1]

variable {writer : IndentWriter}

theorem startLine_of_tabulated (tabulated : writer.Tabulated) :
    writer.startLine.Tabulated ∧
      writer.startLine.buffer =
        writer.buffer ++ indentation writer.unit writer.depth := by
  obtain ⟨deepest, indents⟩ := tabulated
  let missing := writer.depth + 1 - writer.indents.length
  have table : growIndents writer.unit missing writer.indents =
      (List.range (deepest + missing + 1)).map (indentation writer.unit) := by
    rw [indents]
    exact growIndents_tabulated writer.unit missing deepest
  have reached : writer.depth < deepest + missing + 1 := by
    have length : writer.indents.length = deepest + 1 := by
      rw [indents, List.length_map, List.length_range]
    omega
  refine ⟨⟨deepest + missing, table⟩, ?_⟩
  have buffer : writer.startLine.buffer =
      writer.buffer ++
        (growIndents writer.unit missing writer.indents).getD writer.depth "" := rfl
  rw [buffer, table]
  simp [reached]

end IndentWriter

/-- A line and how much deeper it is nested than the lines around it. -/
inductive Line
  | code (depth : Nat) (text : String)
  | blank
  deriving DecidableEq

namespace Line

/-- The line one level further in. -/
def nested : Line → Line
  | .code depth text => .code (depth + 1) text
  | .blank => .blank

/-- A line as it is read. -/
def shown : Line → String
  | .code depth content => indentation defaultUnit depth ++ content
  | .blank => ""

/-- A line as it is written. -/
def text (line : Line) : String :=
  line.shown ++ "\n"

end Line

namespace IndentWriter

/-- Writes a line so much deeper than the writer is, which stays where it is. -/
def writeLine (writer : IndentWriter) : Line → IndentWriter
  | .code depth content =>
      { { writer with depth := writer.depth + depth }.line content with depth := writer.depth }
  | .blank => writer.blank

def writeLines (writer : IndentWriter) (lines : List Line) : IndentWriter :=
  lines.foldl writeLine writer

variable {writer : IndentWriter}

@[simp] theorem writeLine_code_zero (writer : IndentWriter) (content : String) :
    writer.writeLine (.code 0 content) = writer.line content :=
  rfl

@[simp] theorem writeLine_blank (writer : IndentWriter) :
    writer.writeLine .blank = writer.blank :=
  rfl

@[simp] theorem writeLines_nil (writer : IndentWriter) : writer.writeLines [] = writer :=
  rfl

@[simp] theorem writeLines_cons (writer : IndentWriter) (line : Line) (rest : List Line) :
    writer.writeLines (line :: rest) = (writer.writeLine line).writeLines rest :=
  rfl

@[simp] theorem writeLines_append (writer : IndentWriter) (first second : List Line) :
    writer.writeLines (first ++ second) = (writer.writeLines first).writeLines second :=
  List.foldl_append

theorem writeLines_map_code (writer : IndentWriter) (contents : List String) :
    writer.writeLines (contents.map (.code 0)) = contents.foldl line writer :=
  List.foldl_map

/-- A block that was entered can be left. -/
theorem dedent_indent (writer : IndentWriter) : writer.indent.dedent = .ok writer :=
  rfl

theorem writeLine_indent (writer : IndentWriter) (line : Line) :
    writer.indent.writeLine line = (writer.writeLine line.nested).indent := by
  cases line with
  | blank => rfl
  | code depth content =>
      have deeper : writer.depth + 1 + depth = writer.depth + (depth + 1) := by omega
      simp only [writeLine, indent, Line.nested, deeper]

/-- Inside a block the nested lines are written. -/
theorem writeLines_indent (writer : IndentWriter) (lines : List Line) :
    writer.indent.writeLines lines = (writer.writeLines (lines.map Line.nested)).indent := by
  induction lines generalizing writer with
  | nil => rfl
  | cons line rest ih =>
      rw [writeLines_cons, writeLine_indent, ih, List.map_cons, writeLines_cons]

theorem writeLine_of_tabulated (unit : writer.unit = defaultUnit)
    (outermost : writer.depth = 0) (tabulated : writer.Tabulated) (line : Line) :
    (writer.writeLine line).Tabulated ∧ (writer.writeLine line).unit = defaultUnit ∧
      (writer.writeLine line).depth = 0 ∧
      (writer.writeLine line).buffer = writer.buffer ++ line.text := by
  cases line with
  | blank => exact ⟨tabulated, unit, outermost, rfl⟩
  | code depth content =>
      let moved : IndentWriter := { writer with depth := writer.depth + depth }
      have movedTabulated : moved.Tabulated := tabulated
      obtain ⟨started, buffer⟩ := startLine_of_tabulated movedTabulated
      refine ⟨started, unit, outermost, ?_⟩
      have deep : moved.depth = depth := by
        change writer.depth + depth = depth
        rw [outermost, Nat.zero_add]
      have indented : moved.startLine.buffer =
          writer.buffer ++ indentation defaultUnit depth := by
        rw [buffer, deep, ← unit]
      have written : (writer.writeLine (.code depth content)).buffer =
          moved.startLine.buffer ++ content ++ "\n" := rfl
      rw [written, indented]
      simp only [Line.text, Line.shown, String.append_assoc]

theorem buffer_writeLines (unit : writer.unit = defaultUnit) (outermost : writer.depth = 0)
    (tabulated : writer.Tabulated) (lines : List Line) :
    (writer.writeLines lines).buffer =
      writer.buffer ++ String.join (lines.map Line.text) := by
  induction lines generalizing writer with
  | nil => simp [writeLines]
  | cons line rest ih =>
      obtain ⟨tabulatedNext, unitNext, outermostNext, buffer⟩ :=
        writeLine_of_tabulated unit outermost tabulated line
      rw [writeLines_cons, ih unitNext outermostNext tabulatedNext, buffer, List.map_cons,
        String.join_cons, String.append_assoc]

/-- Lines are written without a failure, and leave the writer as deep as it was. -/
theorem frame_writeLines (writer : IndentWriter) (lines : List Line) :
    (writer.writeLines lines).failed = writer.failed ∧
      (writer.writeLines lines).depth = writer.depth := by
  induction lines generalizing writer with
  | nil => exact ⟨rfl, rfl⟩
  | cons line rest ih =>
      obtain ⟨failed, depth⟩ := ih (writer.writeLine line)
      have here : (writer.writeLine line).failed = writer.failed ∧
          (writer.writeLine line).depth = writer.depth := by
        cases line <;> exact ⟨rfl, rfl⟩
      exact ⟨failed.trans here.1, depth.trans here.2⟩

end IndentWriter

/-- The text of lines that a new writer writes. -/
def Line.compose (lines : List Line) : Except Fault String :=
  (IndentWriter.new.writeLines lines).finish

/-- A new writer has left all blocks after it wrote lines. -/
theorem Line.compose_eq (lines : List Line) :
    Line.compose lines = .ok (String.join (lines.map Line.text)) := by
  obtain ⟨unbroken, outside⟩ := IndentWriter.frame_writeLines .new lines
  have written : (IndentWriter.new.writeLines lines).buffer =
      String.join (lines.map Line.text) :=
    (IndentWriter.buffer_writeLines rfl rfl
      (IndentWriter.tabulated_withUnit defaultUnit) lines).trans String.empty_append
  have whole : IndentWriter.new.failed = false := rfl
  have outermost : IndentWriter.new.depth = 0 := rfl
  unfold compose IndentWriter.finish
  simp [unbroken, outside, written, whole, outermost]

namespace Line

/-- The line has code, on nothing but this line. -/
def Single : Line → Prop
  | .code _ content => SingleLine content
  | .blank => False

namespace Single

variable {line : Line}

theorem shown (single : line.Single) : SingleLine line.shown := by
  have unit : SingleLine defaultUnit := by decide
  cases line with
  | blank => cases single
  | code depth content =>
      exact .append (.join fun text member => List.eq_of_mem_replicate member ▸ unit) single

theorem nested (single : line.Single) : line.nested.Single := by
  cases line with
  | blank => exact single
  | code depth content => exact single

theorem shown_nested (single : line.Single) :
    line.nested.shown = defaultUnit ++ line.shown := by
  cases line with
  | blank => cases single
  | code depth content =>
      simp only [Line.nested, Line.shown, indentation_succ, String.append_assoc]

end Single

/-- One level further in, every line has the unit in front. -/
theorem prefixLines_text {lines : List Line} (single : ∀ line ∈ lines, line.Single) :
    prefixLines defaultUnit (String.join (lines.map Line.text)) =
      String.join ((lines.map Line.nested).map Line.text) := by
  induction lines with
  | nil => rfl
  | cons line rest ih =>
      obtain ⟨here, later⟩ := List.forall_mem_cons.mp single
      simp only [List.map_cons, String.join_cons, text]
      rw [prefixLines_line defaultUnit _ here.shown, ih later, here.shown_nested]

/-- Lines are told apart in their text. -/
theorem eq_of_join_text {left right : List Line}
    (leftSingle : ∀ line ∈ left, line.Single)
    (rightSingle : ∀ line ∈ right, line.Single)
    (same : String.join (left.map Line.text) = String.join (right.map Line.text)) :
    left.map Line.shown = right.map Line.shown := by
  have texts (lines : List Line) :
      lines.map Line.text = (lines.map Line.shown).map (· ++ "\n") := by
    rw [List.map_map]
    rfl
  rw [texts, texts] at same
  exact eq_of_join_lines
    (List.forall_mem_map.mpr fun line member => (leftSingle line member).shown)
    (List.forall_mem_map.mpr fun line member => (rightSingle line member).shown) same

end Line

end TestSynth
