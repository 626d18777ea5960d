import TestSynth.Proofs.Json.RoundTrip
import TestSynth.Proofs.Report.SingleLines

/-!
# Nested documents

A value that stands deeper in a document has the same text, with more blanks after each
line feed.  Strings have no line feeds of their own.
-/

namespace TestSynth

/-- The text with blanks after each line feed. -/
def blanksAfterFeeds (count : Nat) (text : String) : String :=
  String.ofList (text.toList.flatMap fun character =>
    if character = '\n' then '\n' :: List.replicate count ' ' else [character])

section

variable {count : Nat}

theorem blanksAfterFeeds_append (left right : String) :
    blanksAfterFeeds count (left ++ right) =
      blanksAfterFeeds count left ++ blanksAfterFeeds count right := by
  simp only [blanksAfterFeeds, String.toList_append, List.flatMap_append, String.ofList_append]

theorem blanksAfterFeeds_of_single {text : String} (single : SingleLine text) :
    blanksAfterFeeds count text = text := by
  have same : text.toList.flatMap (fun character =>
      if character = '\n' then '\n' :: List.replicate count ' ' else [character]) =
        text.toList.flatMap fun character => [character] :=
    List.flatMap_congr fun character member => if_neg (single character member)
  rw [blanksAfterFeeds, same, List.flatMap_singleton', String.ofList_toList]

theorem blanksAfterFeeds_intercalate {separator : String} (single : SingleLine separator)
    (texts : List String) :
    blanksAfterFeeds count (separator.intercalate texts) =
      separator.intercalate (texts.map (blanksAfterFeeds count)) := by
  induction texts with
  | nil => rfl
  | cons text rest ih =>
      cases rest with
      | nil => rfl
      | cons next others =>
          simp only [List.map_cons, String.intercalate_cons_cons, blanksAfterFeeds_append,
            blanksAfterFeeds_of_single single] at ih ⊢
          rw [ih]

end

namespace Json

theorem single_escapeChar (character : Char) :
    ∀ written ∈ escapeChar character, written ≠ '\n' := by
  have digit (value : Nat) : hexDigit value ≠ '\n' := by
    have each : ∀ digit < 16, Nat.digitChar digit ≠ '\n' := by decide
    exact each _ (Nat.mod_lt _ (by decide))
  unfold escapeChar
  split_ifs with quote backslash backspace page feed
  case neg => simpa using feed
  all_goals simp [digit]

theorem single_quote (text : String) : SingleLine (quote text) := by
  have quotes : SingleLine "\"" := by decide
  refine (quotes.append fun character member => ?_).append quotes
  rw [String.toList_ofList] at member
  obtain ⟨original, _, written⟩ := List.mem_flatMap.mp member
  exact single_escapeChar original character written

theorem single_realNumber (bits : UInt64) : SingleLine (realNumber bits) := by
  unfold realNumber
  split
  · exact .of_printable (Decimal.Layout.printable_finite (by decide) _ _)
  · decide

theorem blanksAfterFeeds_lineStart (extra depth : Nat) :
    blanksAfterFeeds (2 * extra) (lineStart depth) = lineStart (depth + extra) := by
  have feed : blanksAfterFeeds (2 * extra) "\n" =
      "\n" ++ String.ofList (List.replicate (2 * extra) ' ') := by
    apply String.toList_inj.mp
    simp [blanksAfterFeeds]
  have blanks : SingleLine (String.ofList (List.replicate (2 * depth) ' ')) := by
    intro character member
    rw [String.toList_ofList] at member
    rw [List.eq_of_mem_replicate member]
    decide
  rw [lineStart, blanksAfterFeeds_append, feed, blanksAfterFeeds_of_single blanks, lineStart,
    String.append_assoc, ← String.ofList_append, List.replicate_append_replicate, ← Nat.mul_add,
    Nat.add_comm extra depth]

/-- Texts between brackets, each on lines of its own. -/
def block (opening closing : String) (depth : Nat) : List String → String
  | [] => opening ++ closing
  | text :: rest =>
      opening ++ ",".intercalate ((text :: rest).map (lineStart (depth + 1) ++ ·)) ++
        lineStart depth ++ closing

/-- A member of an object. -/
def memberText (name value : String) : String :=
  quote name ++ ": " ++ value

theorem indented_array (depth : Nat) (items : List Json) :
    (Json.array items).indented depth =
      block "[" "]" depth (items.map (indented (depth + 1))) := by
  cases items with
  | nil => rfl
  | cons item rest =>
      simp only [indented, indentedItems_eq, block, List.map_cons, List.map_map,
        Function.comp_def]

theorem indented_object (depth : Nat) (members : List (String × Json)) :
    (Json.object members).indented depth =
      block "\x7b" "\x7d" depth
        (members.map fun member => memberText member.1 (member.2.indented (depth + 1))) := by
  cases members with
  | nil => rfl
  | cons member rest =>
      simp only [indented, indentedMembers_eq, block, memberText, List.map_cons, List.map_map,
        Function.comp_def, String.append_assoc]

theorem blanksAfterFeeds_block {opening closing : String} (openingSingle : SingleLine opening)
    (closingSingle : SingleLine closing) (extra depth : Nat) (texts : List String) :
    blanksAfterFeeds (2 * extra) (block opening closing depth texts) =
      block opening closing (depth + extra) (texts.map (blanksAfterFeeds (2 * extra))) := by
  have comma : SingleLine "," := by decide
  cases texts with
  | nil => exact blanksAfterFeeds_of_single (openingSingle.append closingSingle)
  | cons text rest =>
      simp only [block, blanksAfterFeeds_append, blanksAfterFeeds_intercalate comma,
        blanksAfterFeeds_of_single openingSingle, blanksAfterFeeds_of_single closingSingle,
        blanksAfterFeeds_lineStart, List.map_cons, List.map_map, Function.comp_def,
        Nat.add_right_comm depth 1 extra]

theorem blanksAfterFeeds_memberText (count : Nat) (name value : String) :
    blanksAfterFeeds count (memberText name value) =
      memberText name (blanksAfterFeeds count value) := by
  have front : SingleLine (quote name ++ ": ") := (single_quote name).append (by decide)
  rw [memberText, blanksAfterFeeds_append, blanksAfterFeeds_of_single front, memberText]

/-- A value on one line has the same text everywhere. -/
theorem indented_add_of_flat {value : Json} {text : String} {extra depth : Nat}
    (flat : ∀ depth, value.indented depth = text) (single : SingleLine text) :
    value.indented (depth + extra) = blanksAfterFeeds (2 * extra) (value.indented depth) := by
  rw [flat, flat, blanksAfterFeeds_of_single single]

mutual

/-- Deeper in a document, every line of a value but the first starts with more blanks. -/
theorem indented_add (extra depth : Nat) :
    ∀ value : Json, value.indented (depth + extra) =
      blanksAfterFeeds (2 * extra) (value.indented depth)
  | .null => indented_add_of_flat (fun _ => rfl) (show SingleLine "null" by decide)
  | .boolean value =>
      indented_add_of_flat (fun _ => rfl) (.of_printable (printable_booleanText value))
  | .integer value =>
      indented_add_of_flat (fun _ => rfl) (.of_printable (printable_intText value))
  | .real bits => indented_add_of_flat (fun _ => rfl) (single_realNumber bits)
  | .string text => indented_add_of_flat (fun _ => rfl) (single_quote text)
  | .array items => by
      rw [indented_array, indented_array, blanksAfterFeeds_block (by decide) (by decide),
        Nat.add_right_comm, map_indented_add extra (depth + 1) items]
  | .object members => by
      rw [indented_object, indented_object, blanksAfterFeeds_block (by decide) (by decide),
        Nat.add_right_comm, map_memberText_add extra (depth + 1) members]

theorem map_indented_add (extra depth : Nat) :
    ∀ items : List Json, items.map (indented (depth + extra)) =
      (items.map (indented depth)).map (blanksAfterFeeds (2 * extra))
  | [] => rfl
  | item :: rest => by
      rw [List.map_cons, List.map_cons, List.map_cons, indented_add extra depth item,
        map_indented_add extra depth rest]

theorem map_memberText_add (extra depth : Nat) :
    ∀ members : List (String × Json),
      members.map (fun member => memberText member.1 (member.2.indented (depth + extra))) =
        (members.map fun member => memberText member.1 (member.2.indented depth)).map
          (blanksAfterFeeds (2 * extra))
  | [] => rfl
  | (name, value) :: rest => by
      rw [List.map_cons, List.map_cons, List.map_cons, indented_add extra depth value,
        map_memberText_add extra depth rest, blanksAfterFeeds_memberText]

end

end Json

end TestSynth
