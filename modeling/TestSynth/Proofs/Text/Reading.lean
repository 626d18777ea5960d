import Mathlib.Data.List.Basic
import TestSynth.Text.Reader

/-!
# What readers read

A reader takes a front off every text that goes on in a suitable way.  Readers put
together take the fronts put together.
-/

namespace TestSynth.Text.Reader

variable {α β : Type} {reader first second : Reader α} {next : α → Reader β}
  {front back rest text : List Char} {value : α} {result : β}

/-- The reader takes exactly the front off the text. -/
def Reads (reader : Reader α) (front rest : List Char) (value : α) : Prop :=
  reader.run (front ++ rest) = some (value, rest)

def Refuses (reader : Reader α) (text : List Char) : Prop :=
  reader.run text = none

/-- What is read, and what is left, depends on the text only. -/
theorem Reads.unique {otherFront otherRest : List Char} {other : α}
    (reads : Reads reader front rest value)
    (otherReads : Reads reader otherFront otherRest other)
    (same : front ++ rest = otherFront ++ otherRest) : value = other ∧ rest = otherRest := by
  unfold Reads at reads otherReads
  rw [same, otherReads] at reads
  cases reads
  exact ⟨rfl, rfl⟩

/-- What is read with nothing left over is the value of the whole text. -/
theorem Reads.readAll? (reads : Reads reader text [] value) : reader.readAll? text = some value := by
  unfold Reads at reads
  rw [List.append_nil] at reads
  rw [Reader.readAll?, reads]

theorem reads_pure (value : α) (rest : List Char) : Reads (pure value) [] rest value :=
  rfl

theorem Reads.bind (firstReads : Reads first front (back ++ rest) value)
    (nextReads : Reads (next value) back rest result) :
    Reads (first >>= next) (front ++ back) rest result := by
  unfold Reads at *
  rw [StateT.run_bind, List.append_assoc, firstReads]
  exact nextReads

/-- A step that takes nothing. -/
theorem Reads.bind_pure (firstReads : Reads first front rest value)
    (nextReads : Reads (next value) [] rest result) :
    Reads (first >>= next) front rest result := by
  have both : Reads (first >>= next) (front ++ []) rest result :=
    Reads.bind firstReads nextReads
  rwa [List.append_nil] at both

/-- A step after one that takes nothing. -/
theorem Reads.bind_skip (firstReads : Reads first [] (front ++ rest) value)
    (nextReads : Reads (next value) front rest result) :
    Reads (first >>= next) front rest result :=
  firstReads.bind nextReads

theorem Reads.map (change : α → β) (reads : Reads reader front rest value) :
    Reads (change <$> reader) front rest (change value) := by
  unfold Reads at *
  rw [StateT.run_map, reads]
  rfl

theorem Refuses.bind (refuses : Refuses first text) : Refuses (first >>= next) text := by
  unfold Refuses at *
  rw [StateT.run_bind, refuses]
  rfl

theorem Reads.orElse (reads : Reads first front rest value) :
    Reads (first <|> second) front rest value := by
  unfold Reads at *
  change (first.run (front ++ rest) <|> second.run (front ++ rest)) = _
  rw [reads]
  rfl

theorem Reads.bind_refuses (firstReads : Reads first front text value)
    (nextRefuses : Refuses (next value) text) :
    Refuses (first >>= next) (front ++ text) := by
  unfold Reads Refuses at *
  rw [StateT.run_bind, firstReads]
  exact nextRefuses

theorem Refuses.orElse (refuses : Refuses first (front ++ rest))
    (reads : Reads second front rest value) :
    Reads (first <|> second) front rest value := by
  unfold Reads Refuses at *
  change (first.run (front ++ rest) <|> second.run (front ++ rest)) = _
  rw [refuses]
  exact reads

theorem Refuses.or (firstRefuses : Refuses first text) (secondRefuses : Refuses second text) :
    Refuses (first <|> second) text := by
  unfold Refuses at *
  change (first.run text <|> second.run text) = _
  rw [firstRefuses]
  exact secondRefuses

theorem Reads.optional (reads : Reads reader front rest value) :
    Reads (optional reader) front rest (some value) :=
  (reads.map some).orElse

theorem Refuses.optional (refuses : Refuses reader rest) :
    Reads (optional reader) [] rest none := by
  have refused : Refuses (some <$> reader) ([] ++ rest) := by
    unfold Refuses at *
    rw [List.nil_append, StateT.run_map, refuses]
    rfl
  exact refused.orElse (reads_pure none rest)

theorem reads_oneOf {belongs : Char → Bool} {character : Char}
    (member : belongs character = true) (rest : List Char) :
    Reads (oneOf belongs) [character] rest character := by
  unfold Reads oneOf
  simp [StateT.run, member]

theorem refuses_oneOf {belongs : Char → Bool} {character : Char}
    (other : belongs character = false) (rest : List Char) :
    Refuses (oneOf belongs) (character :: rest) := by
  unfold Refuses oneOf
  simp [StateT.run, other]

theorem reads_char (character : Char) (rest : List Char) :
    Reads (char character) [character] rest () := by
  have taken : Reads (oneOf (· == character)) [character] rest character :=
    reads_oneOf (beq_self_eq_true character) rest
  exact taken.bind_pure (reads_pure () rest)

theorem refuses_char {expected character : Char} (other : character ≠ expected)
    (rest : List Char) : Refuses (char expected) (character :: rest) := by
  have unequal : (character == expected) = false := beq_false_of_ne other
  have refused : Refuses (oneOf (· == expected)) (character :: rest) := by
    apply refuses_oneOf
    exact unequal
  exact refused.bind

theorem reads_chars (expected rest : List Char) : Reads (chars expected) expected rest () := by
  induction expected with
  | nil => exact reads_pure () rest
  | cons character others ih => exact (reads_char character (others ++ rest)).bind ih

theorem reads_text (expected : String) (rest : List Char) :
    Reads (Reader.text expected) expected.toList rest () :=
  reads_chars expected.toList rest

/-- A text is refused at the first character that differs. -/
theorem refuses_text {expected : String} {others : List Char} {start character : Char}
    (splits : expected.toList = front ++ start :: others) (other : character ≠ start)
    (rest : List Char) : Refuses (Reader.text expected) (front ++ character :: rest) := by
  unfold Reader.text
  rw [splits]
  clear splits
  induction front with
  | nil => exact (refuses_char other rest).bind
  | cons first _ ih => exact (reads_char first _).bind_refuses ih

theorem refuses_text_start {expected : String} {others : List Char}
    {start character : Char} (starts : expected.toList = start :: others)
    (other : character ≠ start) (rest : List Char) :
    Refuses (Reader.text expected) (character :: rest) := by
  have refused : Refuses (Reader.text expected) ([] ++ character :: rest) :=
    refuses_text starts other rest
  exact refused

theorem reads_takeWhile {belongs : Char → Bool}
    (all : ∀ character ∈ front, belongs character = true)
    (ends : ∀ character ∈ rest.head?, belongs character = false) :
    Reads (takeWhile belongs) front rest front := by
  have stops : rest.takeWhile belongs = [] ∧ rest.dropWhile belongs = rest := by
    cases rest with
    | nil => exact ⟨rfl, rfl⟩
    | cons character others =>
        have other := ends character rfl
        simp [other]
  unfold Reads takeWhile
  simp only [StateT.run, List.takeWhile_append_of_pos all,
    List.dropWhile_append_of_pos all, stops, List.append_nil]

theorem reads_takeSome {belongs : Char → Bool} (some : front ≠ [])
    (all : ∀ character ∈ front, belongs character = true)
    (ends : ∀ character ∈ rest.head?, belongs character = false) :
    Reads (takeSome belongs) front rest front := by
  refine (reads_takeWhile all ends).bind_pure ?_
  rw [if_neg (by simpa using some)]
  exact reads_pure front rest

theorem refuses_takeSome {belongs : Char → Bool} {character : Char}
    (other : belongs character = false) (rest : List Char) :
    Refuses (takeSome belongs) (character :: rest) := by
  unfold Refuses takeSome takeWhile
  simp [StateT.run, other, refuse, bind, StateT.bind]

theorem reads_takeExactly {belongs : Char → Bool}
    (all : ∀ character ∈ front, belongs character = true) (rest : List Char) :
    Reads (takeExactly belongs front.length) front rest front := by
  induction front with
  | nil => exact reads_pure [] rest
  | cons character others ih =>
      obtain ⟨here, later⟩ := List.forall_mem_cons.mp all
      exact (reads_oneOf here (others ++ rest)).bind
        ((ih later).bind_pure (reads_pure (character :: others) rest))

section Repetition

variable (boundary : List Char → Prop) {items : List (List Char × α)}

/-- A repetition takes one front after the other, as long as each is followed by a
boundary and may follow as one itself. -/
theorem reads_many (each : ∀ item ∈ items, ∀ rest, boundary rest →
      Reads reader item.1 rest item.2)
    (starts : ∀ item ∈ items, ∀ rest, boundary (item.1 ++ rest))
    (ends : boundary rest) (refuses : Refuses reader rest) {fuel : Nat}
    (enough : items.length ≤ fuel) :
    Reads (many reader fuel) (items.flatMap (·.1)) rest (items.map (·.2)) := by
  induction items generalizing fuel with
  | nil =>
      cases fuel with
      | zero => exact reads_pure [] rest
      | succ fuel => exact refuses.optional.bind_pure (reads_pure [] rest)
  | cons item others ih =>
      obtain ⟨here, later⟩ := List.forall_mem_cons.mp each
      obtain ⟨_, laterStarts⟩ := List.forall_mem_cons.mp starts
      cases fuel with
      | zero => cases enough
      | succ fuel =>
          have next : boundary (others.flatMap (·.1) ++ rest) := by
            cases others with
            | nil => exact ends
            | cons other rest =>
                rw [List.flatMap_cons, List.append_assoc]
                exact laterStarts other List.mem_cons_self _
          have othersRead := ih later laterStarts (Nat.le_of_succ_le_succ enough)
          rw [List.flatMap_cons, List.map_cons]
          exact (here _ next).optional.bind (othersRead.bind_pure (reads_pure _ rest))

private theorem length_le_flatMap (filled : ∀ item ∈ items, item.1 ≠ []) :
    items.length ≤ (items.flatMap (·.1)).length := by
  induction items with
  | nil => exact Nat.zero_le _
  | cons item others ih =>
      obtain ⟨here, later⟩ := List.forall_mem_cons.mp filled
      have size := List.length_pos_iff.mpr here
      have sizes := ih later
      rw [List.flatMap_cons, List.length_append, List.length_cons]
      omega

/-- A repetition is bounded by the text, which is long enough if no front is empty. -/
theorem reads_repeated (each : ∀ item ∈ items, ∀ rest, boundary rest →
      Reads reader item.1 rest item.2)
    (starts : ∀ item ∈ items, ∀ rest, boundary (item.1 ++ rest))
    (filled : ∀ item ∈ items, item.1 ≠ []) (ends : boundary rest)
    (refuses : Refuses reader rest) :
    Reads (repeated reader) (items.flatMap (·.1)) rest (items.map (·.2)) := by
  have enough : items.length ≤ (items.flatMap (·.1) ++ rest).length := by
    rw [List.length_append]
    exact Nat.le_add_right_of_le (length_le_flatMap filled)
  exact reads_many boundary each starts ends refuses enough

theorem length_le_intercalate {separator front : List Char} {fronts : List (List Char)}
    (member : front ∈ fronts) : front.length ≤ (separator.intercalate fronts).length := by
  induction fronts with
  | nil => cases member
  | cons first others ih =>
      cases others with
      | nil =>
          apply Nat.le_of_eq
          rw [List.mem_singleton.mp member, List.intercalate_singleton]
      | cons other others =>
          rw [List.intercalate_cons_cons, List.length_append, List.length_append]
          rcases List.mem_cons.mp member with rfl | later
          · omega
          · have fits := ih later
            omega

theorem intercalate_cons (separator first : List Char) (others : List (List Char)) :
    separator.intercalate (first :: others) =
      first ++ others.flatMap (separator ++ ·) := by
  induction others generalizing first with
  | nil => simp
  | cons other rest ih =>
      rw [List.intercalate_cons_cons, ih, List.flatMap_cons, List.append_assoc,
        List.append_assoc]

theorem intercalate_concat (separator : List Char) (fronts : List (List Char))
    (last after : List Char) :
    separator.intercalate (fronts ++ [last ++ after]) =
      separator.intercalate (fronts ++ [last]) ++ after := by
  cases fronts with
  | nil => simp
  | cons first others =>
      rw [List.cons_append, List.cons_append, intercalate_cons, intercalate_cons,
        List.flatMap_append, List.flatMap_append]
      simp

/-- Values with separators between them, each followed by a boundary, as separators
are. -/
theorem reads_separated {separator : Reader Unit} {mark : List Char} (some : items ≠ [])
    (each : ∀ item ∈ items, ∀ rest, boundary rest → Reads reader item.1 rest item.2)
    (marks : ∀ rest, Reads separator mark rest ())
    (separates : ∀ rest, boundary (mark ++ rest)) (filled : mark ≠ [])
    (ends : boundary rest) (refuses : Refuses separator rest) :
    Reads (separated reader separator) (mark.intercalate (items.map (·.1))) rest
      (items.map (·.2)) := by
  cases items with
  | nil => exact absurd rfl some
  | cons first items =>
      obtain ⟨here, later⟩ := List.forall_mem_cons.mp each
      let followed := items.map fun other => (mark ++ other.1, other.2)
      have othersRead : Reads (repeated (do separator; reader)) (followed.flatMap (·.1)) rest
          (followed.map (·.2)) := by
        refine reads_repeated boundary ?_ ?_ ?_ ends refuses.bind
        · intro other member rest boundary
          obtain ⟨original, given, rfl⟩ := List.mem_map.mp member
          exact (marks _).bind (later original given rest boundary)
        · intro other member rest
          obtain ⟨original, given, rfl⟩ := List.mem_map.mp member
          rw [List.append_assoc]
          exact separates _
        · intro other member
          obtain ⟨original, given, rfl⟩ := List.mem_map.mp member
          exact List.append_ne_nil_of_left_ne_nil filled _
      have fronts : followed.flatMap (·.1) = (items.map (·.1)).flatMap (mark ++ ·) := by
        rw [List.flatMap_map, List.flatMap_map]
      have values : followed.map (·.2) = items.map (·.2) := by
        rw [List.map_map]
        rfl
      rw [fronts, values] at othersRead
      have next : boundary ((items.map (·.1)).flatMap (mark ++ ·) ++ rest) := by
        cases items with
        | nil => exact ends
        | cons other _ =>
            rw [List.map_cons, List.flatMap_cons, List.append_assoc, List.append_assoc]
            exact separates _
      rw [List.map_cons, intercalate_cons, List.map_cons]
      exact (here _ next).bind (othersRead.bind_pure (reads_pure _ rest))

end Repetition

end TestSynth.Text.Reader
