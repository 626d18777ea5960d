import TestSynth.Proofs.Json.Numerals
import TestSynth.Proofs.Json.Strings

/-!
# Reading between blanks

A reader of values skips the blanks around a value.  Values between brackets are read one
after the other, wherever their container has blanks.
-/

namespace TestSynth.Json

open Text

section Blanks

variable {α : Type} {reader : Reader α} {value : α} {before after rest text : List Char}

/-- What is skipped between the parts of a text. -/
def isSpace (character : Char) : Bool :=
  character == ' ' || character == '\t' || character == '\n' || character == '\r'

def Blanks (text : List Char) : Prop :=
  ∀ character ∈ text, isSpace character = true

/-- The text does not go on with a blank. -/
def EndsBlanks (rest : List Char) : Prop :=
  ∀ character ∈ rest.head?, isSpace character = false

/-- A value ends where its container goes on. -/
def EndsValue (rest : List Char) : Prop :=
  ∀ character ∈ rest.head?, character ∈ [',', ']', '\x7d']

theorem blanks_nil : Blanks [] :=
  fun _ member => nomatch member

theorem endsBlanks_cons {start : Char} (visible : isSpace start = false) (rest : List Char) :
    EndsBlanks (start :: rest) := by
  intro character head
  cases head
  exact visible

theorem reads_skipBlanks (blank : Blanks before) (ends : EndsBlanks rest) :
    skipBlanks.Reads before rest () := by
  have taken : (Reader.takeWhile isSpace).Reads before rest before :=
    Reader.reads_takeWhile blank ends
  exact taken.bind_pure (Reader.reads_pure () rest)

theorem EndsValue.endsBlanks (ends : EndsValue rest) : EndsBlanks rest := by
  intro character next
  have member := ends character next
  simp only [List.mem_cons, List.not_mem_nil, or_false] at member
  rcases member with rfl | rfl | rfl <;> rfl

/-- Neither blanks nor the end of a value are part of a number. -/
theorem EndsValue.endsNumber (ends : EndsValue rest) (blank : Blanks after) :
    EndsNumber (after ++ rest) := by
  have next : ∀ character ∈ (after ++ rest).head?,
      (character = ' ' ∨ character = '\t' ∨ character = '\n' ∨ character = '\r') ∨
        character = ',' ∨ character = ']' ∨ character = '\x7d' := by
    intro character first
    cases after with
    | nil =>
        right
        simpa using ends character first
    | cons space _ =>
        left
        have isSpace := blank space List.mem_cons_self
        obtain rfl := Option.some.inj first
        simpa [Json.isSpace, or_assoc] using isSpace
  have parts : ∀ character ∈ (after ++ rest).head?,
      isDigit character = false ∧ character ≠ '.' ∧ character ≠ 'e' ∧ character ≠ 'E' := by
    intro character first
    rcases next character first with (rfl | rfl | rfl | rfl) | rfl | rfl | rfl <;> decide
  exact
    { digits := fun character first => (parts character first).1
      point := fun character first => (parts character first).2.1
      mark := fun character first => (parts character first).2.2 }

/-- The reader takes a text that starts with no blank together with any blanks around
it. -/
structure ReadsPadded (reader : Reader α) (text : List Char) (value : α) : Prop where
  visible : ∃ start others, text = start :: others ∧ isSpace start = false
  reads : ∀ before after rest, Blanks before → Blanks after → EndsValue rest →
    reader.Reads (before ++ (text ++ after)) rest value

theorem reads_peek (rest : List Char) : Reader.peek?.Reads [] rest rest.head? :=
  rfl

/-- A value by its first character. -/
def readStart (depth : Nat) : Option Char → Reader Json
  | some 'n' => do Reader.text "null"; pure Json.null
  | some 't' => do Reader.text "true"; pure (Json.boolean true)
  | some 'f' => do Reader.text "false"; pure (Json.boolean false)
  | some '"' => Json.string <$> readString
  | some '[' => Json.array <$> readSequence '[' ']' (readValue depth)
  | some '\x7b' => Json.ofMembers <$> readSequence '\x7b' '\x7d' (readMember (readValue depth))
  | _ => readNumber

theorem readValue_succ (depth : Nat) :
    readValue (depth + 1) = (do
      skipBlanks
      let next ← Reader.peek?
      let value ← readStart depth next
      skipBlanks
      pure value) := by
  rw [readValue]
  apply bind_congr
  intro _
  apply bind_congr
  intro next
  unfold readStart
  split <;> simp only [bind_assoc, pure_bind]

/-- Only the blanks around a value have to be added. -/
theorem readsPadded_of_start {depth : Nat} {value : Json} {start : Char} {others : List Char}
    (visible : isSpace start = false)
    (reads : ∀ rest, EndsNumber rest →
      (readStart depth (some start)).Reads (start :: others) rest value) :
    ReadsPadded (readValue (depth + 1)) (start :: others) value := by
  refine ⟨⟨start, others, rfl, visible⟩, ?_⟩
  intro before after rest blankBefore blankAfter ends
  have first : EndsBlanks (start :: others ++ after ++ rest) := endsBlanks_cons visible _
  have next : Reader.peek?.Reads [] (start :: others ++ after ++ rest) (some start) :=
    reads_peek _
  rw [readValue_succ]
  apply (reads_skipBlanks blankBefore first).bind
  apply next.bind_skip
  apply (reads _ (ends.endsNumber blankAfter)).bind
  exact (reads_skipBlanks blankAfter ends.endsBlanks).bind_pure (Reader.reads_pure value rest)

end Blanks

section Sequences

variable {α : Type} {reader : Reader α} {opening closing : Char}
  {gap after rest : List Char} {items : List (List Char × α)}

/-- Blanks in front of the end of a sequence are read with its last item. -/
theorem reads_trailed (some : items ≠ [])
    (each : ∀ item ∈ items, ∀ after rest, Blanks after → EndsValue rest →
      reader.Reads (item.1 ++ after) rest item.2)
    (blank : Blanks after) (ends : EndsValue rest)
    (refuses : (Reader.char ',').Refuses rest) :
    (Reader.separated reader (Reader.char ',')).Reads
      ([','].intercalate (items.map (·.1)) ++ after) rest (items.map (·.2)) := by
  obtain none | ⟨items, last, rfl⟩ := List.eq_nil_or_concat items
  · exact absurd none some
  rw [List.concat_eq_append] at each ⊢
  obtain ⟨before, atLast⟩ := List.forall_mem_append.mp each
  have beforeRead : ∀ item ∈ items, ∀ rest, EndsValue rest →
      reader.Reads item.1 rest item.2 := by
    intro item member rest ends
    have read := before item member [] rest blanks_nil ends
    rwa [List.append_nil] at read
  have lastRead : ∀ item ∈ [(last.1 ++ after, last.2)], ∀ rest, EndsValue rest →
      reader.Reads item.1 rest item.2 := by
    intro item member rest ends
    rw [List.mem_singleton.mp member]
    exact atLast last List.mem_cons_self after rest blank ends
  have closedRead := List.forall_mem_append.mpr ⟨beforeRead, lastRead⟩
  have comma : ∀ rest, EndsValue ([','] ++ rest) := by
    intro rest character head
    cases head
    exact List.mem_cons_self
  have filled : items ++ [(last.1 ++ after, last.2)] ≠ [] :=
    List.append_ne_nil_of_right_ne_nil _ (List.cons_ne_nil _ _)
  have read := Reader.reads_separated EndsValue filled closedRead (Reader.reads_char ',') comma
    (List.cons_ne_nil _ _) ends refuses
  rw [List.map_append, List.map_singleton, Reader.intercalate_concat, List.map_append,
    List.map_singleton] at read
  rwa [List.map_append, List.map_singleton, List.map_append, List.map_singleton]

/-- Fronts between brackets, each with a gap before it. -/
def bracketed (opening closing : Char) (gap after : List Char) (fronts : List (List Char)) :
    List Char :=
  opening :: ([','].intercalate (fronts.map (gap ++ ·)) ++ after ++ [closing])

/-- The brackets leave enough of a bound to every front. -/
theorem exists_bound_of_bracketed {front : List Char} {fronts : List (List Char)} {bound : Nat}
    (member : front ∈ fronts)
    (enough : (bracketed opening closing gap after fronts).length ≤ bound) :
    ∃ inner, bound = inner + 1 ∧ front.length ≤ inner := by
  have fits : (gap ++ front).length ≤ ([','].intercalate (fronts.map (gap ++ ·))).length :=
    Reader.length_le_intercalate (List.mem_map_of_mem member)
  simp only [bracketed, List.length_cons, List.length_append] at fits enough
  exact ⟨bound - 1, by omega, by omega⟩

/-- The blanks in front of the first item are not read with the items. -/
theorem reads_items {first : List Char × α} {others : List (List Char × α)}
    (each : ∀ item ∈ first :: others, ReadsPadded reader item.1 item.2)
    (blankGap : Blanks gap) (blankAfter : Blanks after) (ends : EndsValue rest)
    (refuses : (Reader.char ',').Refuses rest) :
    (Reader.separated reader (Reader.char ',')).Reads
      ([','].intercalate (first.1 :: others.map fun other => gap ++ other.1) ++ after) rest
      ((first :: others).map (·.2)) := by
  obtain ⟨firstReads, othersRead⟩ := List.forall_mem_cons.mp each
  let bare := first :: others.map fun other => (gap ++ other.1, other.2)
  have bareRead : ∀ item ∈ bare, ∀ after rest, Blanks after → EndsValue rest →
      reader.Reads (item.1 ++ after) rest item.2 := by
    intro item member after rest blank ends
    rcases List.mem_cons.mp member with rfl | later
    · exact firstReads.reads [] after rest blanks_nil blank ends
    · obtain ⟨other, given, rfl⟩ := List.mem_map.mp later
      rw [List.append_assoc]
      exact (othersRead other given).reads gap after rest blankGap blank ends
  have read := reads_trailed (List.cons_ne_nil first _) bareRead blankAfter ends refuses
  rwa [List.map_cons, List.map_map, List.map_cons, List.map_map] at read

theorem endsValue_cons (closes : closing ∈ [']', '\x7d']) (rest : List Char) :
    EndsValue (closing :: rest) := by
  intro character head
  cases head
  exact List.mem_cons_of_mem ',' closes

theorem refuses_comma (closes : closing ∈ [']', '\x7d']) (rest : List Char) :
    (Reader.char ',').Refuses (closing :: rest) := by
  apply Reader.refuses_char
  intro comma
  rw [comma] at closes
  simp at closes

theorem reads_sequence (some : items ≠ [])
    (each : ∀ item ∈ items, ReadsPadded reader item.1 item.2)
    (blankGap : Blanks gap) (blankAfter : Blanks after)
    (closes : closing ∈ [']', '\x7d']) (rest : List Char) :
    (readSequence opening closing reader).Reads
      (bracketed opening closing gap after (items.map (·.1))) rest (items.map (·.2)) := by
  obtain ⟨first, others, rfl⟩ := List.exists_cons_of_ne_nil some
  have itemsRead := reads_items each blankGap blankAfter (endsValue_cons closes rest)
    (refuses_comma closes rest)
  have text : [','].intercalate (((first :: others).map (·.1)).map (gap ++ ·)) =
      gap ++ [','].intercalate (first.1 :: others.map fun other => gap ++ other.1) := by
    rw [List.map_cons, List.map_cons, Reader.intercalate_cons, Reader.intercalate_cons,
      List.append_assoc, List.map_map]
    rfl
  have start : EndsBlanks ([','].intercalate (first.1 :: others.map fun other => gap ++ other.1) ++
      after ++ [closing] ++ rest) := by
    obtain ⟨start, tail, shape, seen⟩ := (each first List.mem_cons_self).visible
    rw [Reader.intercalate_cons, shape]
    exact endsBlanks_cons seen _
  rw [bracketed, text, List.append_assoc, List.append_assoc, ← List.append_assoc _ after]
  apply (Reader.reads_char opening _).bind
  apply (reads_skipBlanks blankGap start).bind
  apply itemsRead.optional.bind
  exact (Reader.reads_char closing rest).bind_pure (Reader.reads_pure _ rest)

theorem reads_empty_sequence (visible : isSpace closing = false)
    (refuses : reader.Refuses (closing :: rest)) :
    (readSequence opening closing reader).Reads [opening, closing] rest [] := by
  have none : (Reader.optional (Reader.separated reader (Reader.char ','))).Reads []
      (closing :: rest) none :=
    refuses.bind.optional
  have start : EndsBlanks (closing :: rest) := endsBlanks_cons visible rest
  change (readSequence opening closing reader).Reads ([opening] ++ [closing]) rest []
  apply (Reader.reads_char opening _).bind
  apply (reads_skipBlanks blanks_nil start).bind_skip
  apply none.bind_skip
  exact (Reader.reads_char closing rest).bind_pure (Reader.reads_pure _ rest)

end Sequences

section Values

variable {depth : Nat} {text : List Char} {value : Json}

theorem readsPadded_member {reader : Reader Json} (name : String)
    (reads : ReadsPadded reader text value) :
    ReadsPadded (readMember reader) ((quote name).toList ++ ([':', ' '] ++ text))
      (name, value) := by
  refine ⟨⟨'"', _, by rw [toList_quote]; rfl, rfl⟩, ?_⟩
  intro before after rest blankBefore blankAfter ends
  have space : Blanks [' '] := List.forall_mem_singleton.mpr rfl
  have start : EndsBlanks ((quote name).toList ++ ([':', ' '] ++ text) ++ after ++ rest) := by
    rw [toList_quote]
    exact endsBlanks_cons rfl _
  have colon : EndsBlanks ([':', ' '] ++ text ++ after ++ rest) := endsBlanks_cons rfl _
  have valueRead := reads.reads [' '] after rest space blankAfter ends
  apply (reads_skipBlanks blankBefore start).bind
  rw [List.append_assoc]
  apply (reads_quote name _).bind
  apply (reads_skipBlanks blanks_nil colon).bind_skip
  rw [List.append_assoc]
  change Reader.Reads _ ([':'] ++ ([' '] ++ (text ++ after))) rest (name, value)
  apply (Reader.reads_char ':' _).bind
  exact valueRead.bind_pure (Reader.reads_pure _ rest)

/-- A number starts with its sign or a digit. -/
theorem refuses_number (other : ∀ start ∈ text.head?, isDigit start = false ∧ start ≠ '-') :
    readNumber.Refuses text := by
  have unsigned : (Reader.optional (Reader.char '-')).Reads [] text none := by
    apply Reader.Refuses.optional
    cases text with
    | nil => rfl
    | cons start others => exact Reader.refuses_char (other start rfl).2 others
  have noDigits : readWhole.Refuses text := by
    apply Reader.Refuses.bind
    cases text with
    | nil => rfl
    | cons start others => exact Reader.refuses_takeSome (other start rfl).1 others
  rw [readNumber_eq]
  exact unsigned.bind_refuses noDigits.bind

theorem readStart_number (depth : Nat) {start : Char} (starts : isDigit start = true ∨ start = '-') :
    isSpace start = false ∧ readStart depth (some start) = readNumber := by
  constructor
  · apply Bool.eq_false_iff.mpr
    intro space
    simp only [isSpace, Bool.or_eq_true, beq_iff_eq] at space
    rcases space with ((rfl | rfl) | rfl) | rfl <;> revert starts <;> decide
  · unfold readStart
    split
    all_goals first
      | rfl
      | next same => cases same; exact absurd starts (by decide)

/-- What is read as a number is read as a value. -/
theorem readsPadded_number
    (reads : ∀ rest, EndsNumber rest → readNumber.Reads text rest value) :
    ReadsPadded (readValue (depth + 1)) text value := by
  have atEnd : EndsNumber [] :=
    { digits := nofun, point := nofun, mark := nofun }
  have alone := reads [] atEnd
  unfold Reader.Reads at alone
  rw [List.append_nil] at alone
  have some : ∃ start ∈ text.head?, isDigit start = true ∨ start = '-' := by
    by_contra none
    have refused : readNumber.Refuses text := by
      apply refuses_number
      intro start head
      constructor
      · exact Bool.eq_false_iff.mpr fun digit => none ⟨start, head, .inl digit⟩
      · exact fun sign => none ⟨start, head, .inr sign⟩
    rw [refused] at alone
    cases alone
  obtain ⟨start, head, starts⟩ := some
  obtain ⟨others, rfl⟩ := List.head?_eq_some_iff.mp head
  obtain ⟨visible, number⟩ := readStart_number depth starts
  apply readsPadded_of_start visible
  rw [number]
  exact reads

theorem refuses_bracket (depth : Nat) (rest : List Char) :
    (readValue depth).Refuses (']' :: rest) := by
  cases depth with
  | zero => rfl
  | succ depth =>
      have start : EndsBlanks (']' :: rest) := endsBlanks_cons rfl rest
      have noNumber : readNumber.Refuses (']' :: rest) := by
        apply refuses_number
        intro character head
        cases head
        decide
      rw [readValue_succ]
      apply (reads_skipBlanks blanks_nil start).bind_refuses
      apply (reads_peek (']' :: rest)).bind_refuses
      exact noNumber.bind

theorem refuses_brace (reader : Reader Json) (rest : List Char) :
    (readMember reader).Refuses ('\x7d' :: rest) := by
  have start : EndsBlanks ('\x7d' :: rest) := endsBlanks_cons rfl rest
  have noQuote : readString.Refuses ('\x7d' :: rest) :=
    (Reader.refuses_char (by decide) rest).bind
  exact (reads_skipBlanks blanks_nil start).bind_refuses noQuote.bind

end Values

end TestSynth.Json
