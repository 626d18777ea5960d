import Mathlib.Data.Char

/-!
# Texts on one line

Which characters a text is made of, and what putting another text in front of each
of its lines comes to.
-/

namespace TestSynth

/-- All characters of the text are allowed. -/
def Within (allowed : Char → Prop) (text : String) : Prop :=
  ∀ character ∈ text.toList, allowed character

instance {allowed : Char → Prop} [DecidablePred allowed] (text : String) :
    Decidable (Within allowed text) :=
  List.decidableBAll allowed text.toList

namespace Within

variable {allowed wider : Char → Prop} {left right : String} {texts : List String}

theorem imp (wide : ∀ character, allowed character → wider character)
    (within : Within allowed left) : Within wider left :=
  fun character member => wide character (within character member)

theorem append (leftWithin : Within allowed left) (rightWithin : Within allowed right) :
    Within allowed (left ++ right) := by
  intro character member
  rw [String.toList_append, List.mem_append] at member
  exact member.elim (leftWithin character) (rightWithin character)

theorem join (within : ∀ text ∈ texts, Within allowed text) :
    Within allowed (String.join texts) := by
  intro character member
  rw [String.toList_join] at member
  obtain ⟨text, given, inside⟩ := List.mem_flatMap.mp member
  exact within text given character inside

theorem intercalate {separator : String} (between : Within allowed separator)
    (within : ∀ text ∈ texts, Within allowed text) :
    Within allowed (separator.intercalate texts) := by
  induction texts with
  | nil => exact fun _ member => absurd member List.not_mem_nil
  | cons text rest ih =>
      obtain ⟨here, later⟩ := List.forall_mem_cons.mp within
      cases rest with
      | nil =>
          rw [String.intercalate_singleton]
          exact here
      | cons next others =>
          rw [String.intercalate_cons_cons]
          exact (here.append between).append (ih later)

end Within

/-- A printable character of ASCII. -/
def Printable (character : Char) : Prop :=
  ' ' ≤ character ∧ character ≤ '~'

instance : DecidablePred Printable :=
  fun character => inferInstanceAs (Decidable (' ' ≤ character ∧ character ≤ '~'))

theorem printable_of_isDigit {character : Char} (digit : character.isDigit = true) :
    Printable character := by
  obtain ⟨lower, upper⟩ := Bool.and_eq_true_iff.mp digit
  exact ⟨le_trans (by decide) (of_decide_eq_true lower),
    le_trans (of_decide_eq_true upper) (by decide)⟩

theorem printable_natText (number : Nat) : Within Printable (toString number) := by
  intro character member
  rw [Nat.toString_eq_repr, Nat.toList_repr] at member
  exact printable_of_isDigit
    (Nat.isDigit_of_mem_toDigits (by decide) (by decide) member)

theorem printable_intText (number : Int) : Within Printable (toString number) := by
  have sign : Within Printable "-" := by decide
  cases number with
  | ofNat magnitude => exact printable_natText magnitude
  | negSucc magnitude => exact sign.append (printable_natText (magnitude + 1))

/-- No line ends inside the text. -/
abbrev SingleLine (text : String) : Prop :=
  Within (· ≠ '\n') text

theorem SingleLine.of_printable {text : String} (printable : Within Printable text) :
    SingleLine text := by
  refine Within.imp ?_ printable
  rintro character ⟨lower, _⟩ rfl
  exact absurd lower (by decide)

/-- Characters with others in front of each that starts a line. -/
def prefixChars (front : List Char) (starting : Bool) : List Char → List Char
  | [] => []
  | character :: rest =>
      (if starting then front else []) ++
        character :: prefixChars front (character == '\n') rest

/-- A text with another in front of each line. -/
def prefixLines (front text : String) : String :=
  String.ofList (prefixChars front.toList true text.toList)

theorem prefixChars_continue (front rest : List Char) {line : List Char}
    (single : ∀ character ∈ line, character ≠ '\n') :
    prefixChars front false (line ++ '\n' :: rest) =
      line ++ '\n' :: prefixChars front true rest := by
  induction line with
  | nil => rfl
  | cons character others ih =>
      obtain ⟨here, later⟩ := List.forall_mem_cons.mp single
      simp [prefixChars, beq_false_of_ne here, ih later]

theorem prefixLines_line (front rest : String) {line : String}
    (single : SingleLine line) :
    prefixLines front (line ++ "\n" ++ rest) =
      front ++ line ++ "\n" ++ prefixLines front rest := by
  apply String.toList_inj.mp
  have newline : "\n".toList = ['\n'] := rfl
  simp only [prefixLines, String.toList_ofList, String.toList_append, newline,
    List.append_assoc, List.singleton_append]
  cases characters : line.toList with
  | nil => simp [prefixChars]
  | cons character others =>
      unfold SingleLine Within at single
      rw [characters] at single
      obtain ⟨here, later⟩ := List.forall_mem_cons.mp single
      simp [prefixChars, beq_false_of_ne here, prefixChars_continue _ _ later]

/-- What stands before the first of a mark is told apart from what stands after it. -/
theorem eq_of_first_mark {mark : Char} {left right leftRest rightRest : List Char}
    (leftFree : ∀ character ∈ left, character ≠ mark)
    (rightFree : ∀ character ∈ right, character ≠ mark)
    (same : left ++ mark :: leftRest = right ++ mark :: rightRest) :
    left = right ∧ leftRest = rightRest := by
  have front (before rest : List Char) (free : ∀ character ∈ before, character ≠ mark) :
      (before ++ mark :: rest).takeWhile (· != mark) = before := by
    rw [List.takeWhile_append_of_pos (by simpa using free)]
    simp
  have fronts : left = right := by
    rw [← front left leftRest leftFree, same, front right rightRest rightFree]
  subst fronts
  exact ⟨rfl, (List.cons.inj (List.append_cancel_left same)).2⟩

/-- What stands after the last of a mark is told apart from what stands before it. -/
theorem eq_of_last_mark {mark : Char} {left right leftRest rightRest : List Char}
    (leftFree : ∀ character ∈ leftRest, character ≠ mark)
    (rightFree : ∀ character ∈ rightRest, character ≠ mark)
    (same : left ++ mark :: leftRest = right ++ mark :: rightRest) :
    left = right ∧ leftRest = rightRest := by
  have reversed : leftRest.reverse ++ mark :: left.reverse =
      rightRest.reverse ++ mark :: right.reverse := by
    simpa using congrArg List.reverse same
  have parts := eq_of_first_mark (by simpa using leftFree) (by simpa using rightFree) reversed
  exact ⟨List.reverse_inj.mp parts.2, List.reverse_inj.mp parts.1⟩

/-- Lines are told apart by the line feeds after them. -/
theorem eq_of_join_lines {left right : List String}
    (leftSingle : ∀ line ∈ left, SingleLine line)
    (rightSingle : ∀ line ∈ right, SingleLine line)
    (same : String.join (left.map (· ++ "\n")) = String.join (right.map (· ++ "\n"))) :
    left = right := by
  have joined (line : String) (rest : List String) :
      (String.join ((line :: rest).map (· ++ "\n"))).toList =
        line.toList ++ '\n' :: (String.join (rest.map (· ++ "\n"))).toList := by
    have newline : "\n".toList = ['\n'] := rfl
    rw [List.map_cons, String.join_cons, String.toList_append, String.toList_append,
      newline, List.append_assoc, List.singleton_append]
  have characters := congrArg String.toList same
  clear same
  induction left generalizing right with
  | nil =>
      cases right with
      | nil => rfl
      | cons line rest =>
          rw [joined] at characters
          exact absurd characters.symm (List.append_ne_nil_of_right_ne_nil _ nofun)
  | cons line rest ih =>
      obtain ⟨here, later⟩ := List.forall_mem_cons.mp leftSingle
      cases right with
      | nil =>
          rw [joined] at characters
          exact absurd characters (List.append_ne_nil_of_right_ne_nil _ nofun)
      | cons other others =>
          obtain ⟨otherHere, otherLater⟩ := List.forall_mem_cons.mp rightSingle
          rw [joined, joined] at characters
          obtain ⟨first, last⟩ := eq_of_first_mark here otherHere characters
          rw [String.toList_inj.mp first, ih later otherLater last]

end TestSynth
