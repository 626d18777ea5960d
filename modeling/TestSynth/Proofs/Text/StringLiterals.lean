import TestSynth.Proofs.Text.Lines
import TestSynth.Proofs.Text.Reading

/-!
# String literals

What a string literal of source text stands for, as a relation and as a reader.  A text
that is spelled between two quotes is read back, and holds no other quote that would end
the literal.
-/

namespace TestSynth

open Text

namespace StringLiteral

/-- The character that stands behind a backslash.  Escapes by number are left out. -/
def escaped? : Char → Option Char
  | 'b' => some '\x08'
  | 's' => some ' '
  | 't' => some '\t'
  | 'n' => some '\n'
  | 'f' => some '\x0c'
  | 'r' => some '\r'
  | '"' => some '"'
  | '\'' => some '\''
  | '\\' => some '\\'
  | _ => none

/-- Whether a character may not stand in a string literal as it is. -/
def isBarred (character : Char) : Bool :=
  character ∈ ['"', '\n', '\r']

/-- A character inside a string literal. -/
def readChar : Reader Char := do
  let first ← Reader.oneOf (!isBarred ·)
  if first = '\\' then
    match escaped? (← Reader.oneOf fun _ => true) with
    | some character => pure character
    | none => Reader.refuse
  else pure first

/-- A string literal, as the text it stands for. -/
def readString : Reader String := do
  Reader.char '"'
  let characters ← Reader.repeated readChar
  Reader.char '"'
  pure (String.ofList characters)

/-- How many quotes have no backslash of their own in front. -/
def bareQuotes : List Char → Nat
  | [] => 0
  | '\\' :: _ :: rest => bareQuotes rest
  | character :: rest => (if character = '"' then 1 else 0) + bareQuotes rest

/-- The character stands for itself in a string literal. -/
def Plain (character : Char) : Prop :=
  character ∉ ['"', '\\', '\n', '\r']

instance : DecidablePred Plain :=
  fun character => inferInstanceAs (Decidable (character ∉ ['"', '\\', '\n', '\r']))

/-- What stands between the quotes of a string literal, and what it stands for. -/
inductive Spells : List Char → List Char → Prop
  | nil : Spells [] []
  | plain {character : Char} {written meant : List Char} : Plain character →
      Spells written meant → Spells (character :: written) (character :: meant)
  | escape {mark character : Char} {written meant : List Char} :
      escaped? mark = some character → Spells written meant →
      Spells ('\\' :: mark :: written) (character :: meant)

variable {character mark : Char} {written meant later laterMeant rest : List Char}

theorem Plain.ne_backslash (plain : Plain character) : character ≠ '\\' := by
  rintro rfl
  exact absurd plain (by decide)

theorem Plain.not_isBarred (plain : Plain character) : isBarred character = false := by
  unfold isBarred
  simp only [Plain, List.mem_cons, not_or] at plain ⊢
  simp [plain]

theorem reads_plain (plain : Plain character) (rest : List Char) :
    readChar.Reads [character] rest character := by
  have allowed : (!isBarred character) = true := by rw [plain.not_isBarred, Bool.not_false]
  refine (Reader.reads_oneOf allowed rest).bind_pure ?_
  rw [if_neg plain.ne_backslash]
  exact Reader.reads_pure character rest

theorem reads_escape (stands : escaped? mark = some character) (rest : List Char) :
    readChar.Reads ['\\', mark] rest character := by
  have backslash : (Reader.oneOf (!isBarred ·)).Reads ['\\'] ([mark] ++ rest) '\\' :=
    Reader.reads_oneOf (by decide) _
  refine backslash.bind ?_
  rw [if_pos rfl]
  refine (Reader.reads_oneOf rfl rest).bind_pure ?_
  rw [stands]
  exact Reader.reads_pure character rest

namespace Spells

theorem append (first : Spells written meant) (second : Spells later laterMeant) :
    Spells (written ++ later) (meant ++ laterMeant) := by
  induction first with
  | nil => exact second
  | plain plain _ ih => exact .plain plain ih
  | escape stands _ ih => exact .escape stands ih

/-- Texts are spelled one after the other. -/
theorem append_text {front frontMeant back backMeant : String}
    (first : Spells front.toList frontMeant.toList)
    (second : Spells back.toList backMeant.toList) :
    Spells (front ++ back).toList (frontMeant ++ backMeant).toList := by
  rw [String.toList_append, String.toList_append]
  exact first.append second

theorem of_plain (plain : ∀ character ∈ written, Plain character) : Spells written written := by
  induction written with
  | nil => exact .nil
  | cons character rest ih =>
      obtain ⟨here, later⟩ := List.forall_mem_cons.mp plain
      exact .plain here (ih later)

/-- The front of a text that is spelled has no bare quote, and ends outside any escape. -/
theorem bareQuotes_append (spells : Spells written meant) (rest : List Char) :
    bareQuotes (written ++ rest) = bareQuotes rest := by
  induction spells with
  | nil => rfl
  | @plain character written _ plain _ ih =>
      have other : character ≠ '"' := by
        rintro rfl
        exact absurd plain (by decide)
      rw [List.cons_append, bareQuotes, if_neg other, Nat.zero_add, ih]
      rintro _ _ rfl
      exact absurd rfl plain.ne_backslash
  | escape _ _ ih => exact ih

theorem unbarred (spells : Spells written meant) :
    ∀ character ∈ written, character ≠ '\n' ∧ character ≠ '\r' := by
  induction spells with
  | nil => exact List.forall_mem_nil _
  | plain plain _ ih =>
      simp only [Plain, List.mem_cons, not_or] at plain
      exact List.forall_mem_cons.mpr ⟨⟨plain.2.2.1, plain.2.2.2.1⟩, ih⟩
  | escape stands _ ih =>
      refine List.forall_mem_cons.mpr ⟨by decide, ?_⟩
      refine List.forall_mem_cons.mpr ⟨⟨?_, ?_⟩, ih⟩
      · rintro rfl
        cases stands
      · rintro rfl
        cases stands

/-- Each character is read off what is written for it. -/
theorem exists_items (spells : Spells written meant) :
    ∃ items : List (List Char × Char), items.flatMap (·.1) = written ∧
      items.map (·.2) = meant ∧ ∀ item ∈ items, item.1 ≠ [] ∧
        ∀ rest, readChar.Reads item.1 rest item.2 := by
  induction spells with
  | nil => exact ⟨[], rfl, rfl, List.forall_mem_nil _⟩
  | @plain character _ _ plain _ ih =>
      obtain ⟨items, rfl, rfl, each⟩ := ih
      exact ⟨([character], character) :: items, rfl, rfl, List.forall_mem_cons.mpr
        ⟨⟨List.cons_ne_nil _ _, reads_plain plain⟩, each⟩⟩
  | @escape mark character _ _ stands _ ih =>
      obtain ⟨items, rfl, rfl, each⟩ := ih
      exact ⟨(['\\', mark], character) :: items, rfl, rfl, List.forall_mem_cons.mpr
        ⟨⟨List.cons_ne_nil _ _, reads_escape stands⟩, each⟩⟩

theorem reads (spells : Spells written meant) (rest : List Char) :
    readString.Reads ('"' :: (written ++ ['"'])) rest (String.ofList meant) := by
  obtain ⟨items, rfl, rfl, each⟩ := spells.exists_items
  have characters : (Reader.repeated readChar).Reads (items.flatMap (·.1)) ('"' :: rest)
      (items.map (·.2)) := by
    refine Reader.reads_repeated (fun _ => True) ?_ (fun _ _ _ => trivial) ?_ trivial ?_
    · exact fun item member rest _ => (each item member).2 rest
    · exact fun item member => (each item member).1
    · exact (Reader.refuses_oneOf rfl rest).bind
  refine (Reader.reads_char '"' _).bind (characters.bind ?_)
  exact (Reader.reads_char '"' rest).bind_pure (Reader.reads_pure _ rest)

end Spells

/-- A text is one string literal, on one line, and stands for another text. -/
structure StandsFor (text meaning : String) : Prop where
  quoted : ∃ inner, text = "\"" ++ inner ++ "\""
  closed : bareQuotes text.toList = 2
  unbroken : Within (fun character => character ≠ '\n' ∧ character ≠ '\r') text
  read : readString.readAll? text.toList = some meaning

theorem standsFor_of_spells {inner meaning : String}
    (spells : Spells inner.toList meaning.toList) :
    StandsFor ("\"" ++ inner ++ "\"") meaning := by
  have written : ("\"" ++ inner ++ "\"").toList = '"' :: (inner.toList ++ ['"']) := by
    rw [String.toList_append, String.toList_append]
    rfl
  refine { quoted := ⟨inner, rfl⟩, closed := ?_, unbroken := ?_, read := ?_ }
  · rw [written, bareQuotes, if_pos rfl, spells.bareQuotes_append]
    · rfl
    · rintro _ _ same
      cases same
  · exact Within.append (Within.append (by decide) spells.unbarred) (by decide)
  · have read := (spells.reads []).readAll?
    rwa [← written, String.ofList_toList] at read

end StringLiteral

end TestSynth
