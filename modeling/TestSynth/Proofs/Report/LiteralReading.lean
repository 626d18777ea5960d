import TestSynth.Proofs.Fault.Propagation
import TestSynth.Proofs.Json.Digits
import TestSynth.Proofs.Text.Lines
import TestSynth.Report.Literal

/-!
# Reading literals back

A reader of the literals of integral and truth types and of lists of them.  What it
reads from the literal of a value is the value, narrowed to the declared width.
-/

namespace TestSynth

/-- Whether an integer is a value of an integral type. -/
def Primitive.Covers (primitive : Primitive) (value : Int) : Prop :=
  match primitive with
  | .byte => -128 ≤ value ∧ value < 128
  | .short => -32768 ≤ value ∧ value < 32768
  | .char => 0 ≤ value ∧ value < 65536
  | .int => -2147483648 ≤ value ∧ value < 2147483648
  | .long => -9223372036854775808 ≤ value ∧ value < 9223372036854775808
  | _ => False

namespace Primitive

variable {primitive : Primitive} {value : Int}

instance (primitive : Primitive) (value : Int) : Decidable (primitive.Covers value) :=
  match primitive with
  | .byte | .short | .char | .int | .long => inferInstanceAs (Decidable (_ ∧ _))
  | .float | .double | .boolean => inferInstanceAs (Decidable False)

theorem narrow_of_covers (covers : primitive.Covers value) :
    primitive.narrow value = value := by
  cases primitive with
  | char => exact Int.emod_eq_of_lt covers.1 covers.2
  | byte | short | int =>
      obtain ⟨lower, upper⟩ := covers
      exact Int.bmod_eq_of_le (by omega) (by omega)
  | _ => rfl

/-- Narrowing leads into the type. -/
theorem covers_narrow (integral : primitive.family = .integer) (value : Int64) :
    primitive.Covers (primitive.narrow value.toInt) := by
  have lower := value.le_toInt
  have upper := value.toInt_lt
  cases primitive with
  | float => cases integral
  | double => cases integral
  | boolean => cases integral
  | long => exact ⟨lower, upper⟩
  | char => exact ⟨Int.emod_nonneg _ (by decide), Int.emod_lt_of_pos _ (by decide)⟩
  | byte | short | int =>
      exact ⟨Int.le_bmod (by decide), Int.bmod_lt (by decide)⟩

end Primitive

/-- What a literal stands for. -/
inductive SourceValue
  | number (type : Primitive) (value : Int)
  | truth (value : Bool)
  deriving DecidableEq

namespace SourceValue

open Text

/-- An integer in decimal digits.  A needless zero in front would make it octal. -/
def readInteger : Reader Int := do
  let sign ← Reader.optional (Reader.char '-')
  let magnitude : Int := numberOfDigits 10 (← Json.readWhole)
  pure (if sign.isSome then -magnitude else magnitude)

/-- A number that has to be a value of the type of its literal. -/
def covered (type : Primitive) (value : Int) : Reader SourceValue :=
  if type.Covers value then pure (.number type value) else Reader.refuse

/-- A literal of type `int` or, with a suffix, `long`. -/
def readNumber : Reader SourceValue := do
  let value ← readInteger
  match ← Reader.optional (Reader.char 'L') with
  | some _ => covered .long value
  | none => covered .int value

/-- A literal of type `int` that is cast to a narrower type. -/
def readCast (type : Primitive) : Reader SourceValue := do
  Reader.text ("(" ++ type.keyword ++ ") ")
  let value ← readInteger
  let _ ← covered .int value
  pure (.number type (type.narrow value))

/-- Whether a character stands for itself between quotes.  A character that takes two
units has no literal. -/
def isPlain (character : Char) : Bool :=
  character ∉ ['\'', '\\', '\n', '\r'] && character.toNat < 0x10000

/-- A character between quotes. -/
def readQuoted : Reader SourceValue := do
  Reader.char '\''
  let character ←
    (do Reader.char '\\'; Reader.oneOf ['\'', '\\'].contains) <|> Reader.oneOf isPlain
  Reader.char '\''
  pure (.number .char character.toNat)

/-- A literal of an integral or truth type. -/
def readScalar : Reader SourceValue :=
  (do Reader.text "true"; pure (.truth true)) <|>
    (do Reader.text "false"; pure (.truth false)) <|>
    readCast .byte <|> readCast .short <|> readCast .char <|> readQuoted <|> readNumber

/-- Literals in braces, separated by commas. -/
def readList : Reader (List SourceValue) := do
  Reader.char '\x7b'
  let values ← Reader.optional (Reader.separated readScalar (Reader.text ", "))
  Reader.char '\x7d'
  pure (values.getD [])

/-- The text does not go on with what may be part of a number. -/
structure Ends (rest : List Char) : Prop where
  digits : EndsDigits rest
  suffix : ∀ character ∈ rest.head?, character ≠ 'L'

theorem Ends.of_cons {character : Char} (rest : List Char)
    (digit : isDigit character = false) (suffix : character ≠ 'L') :
    Ends (character :: rest) :=
  { digits := fun _ next => Option.some.inj next ▸ digit
    suffix := fun _ next => Option.some.inj next ▸ suffix }

variable {rest : List Char} {primitive : Primitive}

theorem reads_integer (value : Int) (ends : EndsDigits rest) :
    readInteger.Reads (toString value).toList rest value := by
  have magnitude := Json.reads_toDigits value.natAbs ends
  rw [toList_toString_int]
  by_cases negative : value < 0
  · rw [if_pos negative]
    refine (Reader.reads_char '-' _).optional.bind (magnitude.bind_pure ?_)
    have same : -(value.natAbs : Int) = value := by omega
    rw [numberOfDigits_toDigits]
    change Reader.Reads (pure (-(value.natAbs : Int))) [] rest value
    rw [same]
    exact Reader.reads_pure value rest
  · have unsigned : (Reader.optional (Reader.char '-')).Reads []
        (Nat.toDigits 10 value.natAbs ++ rest) none :=
      Json.reads_unsigned Nat.toDigits_ne_nil fun _ => isDigit_of_mem_toDigits
    rw [if_neg negative]
    refine unsigned.bind (magnitude.bind_pure ?_)
    have same : (value.natAbs : Int) = value := by omega
    rw [numberOfDigits_toDigits]
    change Reader.Reads (pure (value.natAbs : Int)) [] rest value
    rw [same]
    exact Reader.reads_pure value rest

theorem reads_covered {type : Primitive} {value : Int} (covers : type.Covers value) :
    (covered type value).Reads [] rest (.number type value) := by
  unfold covered
  rw [if_pos covers]
  exact Reader.reads_pure _ rest

theorem reads_unsuffixed (ends : Ends rest) :
    (Reader.optional (Reader.char 'L')).Reads [] rest none := by
  apply Reader.Refuses.optional
  cases rest with
  | nil => rfl
  | cons character others => exact Reader.refuses_char (ends.suffix character rfl) others

theorem reads_number (value : Int) (covers : Primitive.int.Covers value)
    (ends : Ends rest) :
    readNumber.Reads (toString value).toList rest (.number .int value) := by
  refine (reads_integer value ends.digits).bind_pure ?_
  exact (reads_unsuffixed ends).bind_pure (reads_covered covers)

/-- A suffix ends the digits in front of it. -/
theorem reads_suffixed (value : Int64) (rest : List Char) :
    readNumber.Reads (toString value.toInt ++ "L").toList rest
      (.number .long value.toInt) := by
  have stops : EndsDigits ('L' :: rest) := by
    rintro character ⟨⟩
    decide
  have covers : Primitive.long.Covers value.toInt := ⟨value.le_toInt, value.toInt_lt⟩
  rw [String.toList_append]
  refine (reads_integer value.toInt stops).bind ?_
  exact (Reader.reads_char 'L' rest).optional.bind_pure (reads_covered covers)

theorem reads_quoted {character : Char} (plain : isPlain character = true)
    (rest : List Char) :
    readQuoted.Reads ['\'', character, '\''] rest (.number .char character.toNat) := by
  have unescaped : character ≠ '\\' := by
    rintro rfl
    exact absurd plain (by decide)
  have content : ((do Reader.char '\\'; Reader.oneOf ['\'', '\\'].contains) <|>
      Reader.oneOf isPlain).Reads [character] ('\'' :: rest) character :=
    Reader.Refuses.orElse (Reader.refuses_char unescaped _).bind
      (Reader.reads_oneOf plain _)
  change readQuoted.Reads (['\''] ++ ([character] ++ ['\''])) rest _
  refine (Reader.reads_char '\'' _).bind (content.bind ?_)
  exact (Reader.reads_char '\'' rest).bind_pure (Reader.reads_pure _ rest)

theorem reads_escaped {character : Char} (mark : ['\'', '\\'].contains character = true)
    (rest : List Char) :
    readQuoted.Reads ['\'', '\\', character, '\''] rest
      (.number .char character.toNat) := by
  have content : ((do Reader.char '\\'; Reader.oneOf ['\'', '\\'].contains) <|>
      Reader.oneOf isPlain).Reads ['\\', character] ('\'' :: rest) character :=
    ((Reader.reads_char '\\' _).bind (Reader.reads_oneOf mark _)).orElse
  change readQuoted.Reads (['\''] ++ (['\\', character] ++ ['\''])) rest _
  refine (Reader.reads_char '\'' _).bind (content.bind ?_)
  exact (Reader.reads_char '\'' rest).bind_pure (Reader.reads_pure _ rest)

theorem castText_toList (type : Primitive) :
    ("(" ++ type.keyword ++ ") ").toList = '(' :: (type.keyword.toList ++ [')', ' ']) := by
  rw [String.toList_append, String.toList_append]
  rfl

/-- The narrower types are covered by the type that literals without suffix have. -/
theorem covers_int {type : Primitive} {value : Int} (covers : type.Covers value)
    (short : type ≠ .long) : Primitive.int.Covers value := by
  cases type with
  | long => exact absurd rfl short
  | float | double | boolean => exact covers.elim
  | _ =>
      obtain ⟨lower, upper⟩ := covers
      exact ⟨by omega, by omega⟩

theorem reads_cast {type : Primitive} {value : Int} (covers : type.Covers value)
    (short : type ≠ .long) (ends : Ends rest) :
    (readCast type).Reads
      ('(' :: (type.keyword.toList ++ [')', ' '] ++ (toString value).toList)) rest
      (.number type value) := by
  have mark := Reader.reads_text ("(" ++ type.keyword ++ ") ")
    ((toString value).toList ++ rest)
  rw [castText_toList] at mark
  refine mark.bind ((reads_integer value ends.digits).bind_pure
    ((reads_covered (covers_int covers short)).bind_pure ?_))
  rw [Primitive.narrow_of_covers covers]
  exact Reader.reads_pure _ rest

/-- The alternatives are told apart by their first characters, casts by the second. -/
theorem refuses_cast {type : Primitive} {others : List Char} {start character : Char}
    (starts : type.keyword.toList = start :: others)
    (other : character ≠ start) (rest : List Char) :
    (readCast type).Refuses ('(' :: character :: rest) := by
  have splits : ("(" ++ type.keyword ++ ") ").toList =
      ['('] ++ start :: (others ++ [')', ' ']) := by
    rw [castText_toList, starts]
    rfl
  have refused : (Reader.text ("(" ++ type.keyword ++ ") ")).Refuses
      (['('] ++ character :: rest) :=
    Reader.refuses_text splits other rest
  exact Reader.Refuses.bind refused

variable {front : List Char} {value : SourceValue}

theorem reads_of_cast {others : List Char}
    (reads : (readCast .byte <|> readCast .short <|> readCast .char <|> readQuoted <|>
      readNumber).Reads ('(' :: others) rest value) :
    readScalar.Reads ('(' :: others) rest value := by
  refine Reader.Refuses.orElse ?_ (Reader.Refuses.orElse ?_ reads)
  · exact (Reader.refuses_text_start rfl (by decide) _).bind
  · exact (Reader.refuses_text_start rfl (by decide) _).bind

theorem reads_of_uncast {first : Char} {others : List Char} (true' : first ≠ 't')
    (false' : first ≠ 'f') (cast : first ≠ '(')
    (reads : (readQuoted <|> readNumber).Reads (first :: others) rest value) :
    readScalar.Reads (first :: others) rest value := by
  have uncast (type : Primitive) : (readCast type).Refuses (first :: (others ++ rest)) :=
    Reader.Refuses.bind (Reader.refuses_text_start (castText_toList type) cast _)
  refine Reader.Refuses.orElse ?_ (Reader.Refuses.orElse ?_ ?_)
  · exact (Reader.refuses_text_start rfl true' _).bind
  · exact (Reader.refuses_text_start rfl false' _).bind
  · exact Reader.Refuses.orElse (uncast .byte) (Reader.Refuses.orElse (uncast .short)
      (Reader.Refuses.orElse (uncast .char) reads))

theorem exists_intText_eq_cons (value : Int) :
    ∃ first others, (toString value).toList = first :: others ∧
      (first = '-' ∨ isDigit first = true) := by
  cases value with
  | ofNat magnitude =>
      have written : (toString (Int.ofNat magnitude)).toList =
          Nat.toDigits 10 magnitude := Nat.toList_repr
      cases digits : Nat.toDigits 10 magnitude with
      | nil => exact absurd digits Nat.toDigits_ne_nil
      | cons digit others =>
          have member : digit ∈ Nat.toDigits 10 magnitude := digits ▸ List.mem_cons_self
          exact ⟨digit, others, written.trans digits,
            .inr (isDigit_of_mem_toDigits member)⟩
  | negSucc magnitude =>
      exact ⟨'-', (Nat.repr (magnitude + 1)).toList, String.toList_append, .inl rfl⟩

/-- What starts like a number is read as one. -/
theorem reads_of_number {first : Char} {others : List Char}
    (starts : first = '-' ∨ isDigit first = true)
    (reads : readNumber.Reads (first :: others) rest value) :
    readScalar.Reads (first :: others) rest value := by
  have differs {other : Char} (minus : '-' ≠ other) (digit : isDigit other = false) :
      first ≠ other := by
    rintro rfl
    rcases starts with rfl | isDigit
    · exact minus rfl
    · rw [digit] at isDigit
      cases isDigit
  refine reads_of_uncast (differs (by decide) (by decide)) (differs (by decide) (by decide))
    (differs (by decide) (by decide)) (Reader.Refuses.orElse ?_ reads)
  exact Reader.Refuses.bind (Reader.refuses_char (differs (by decide) (by decide)) _)

theorem reads_castLiteral {type : Primitive}
    (narrow : type = .byte ∨ type = .short ∨ type = .char) {value : Int}
    (covers : type.Covers value) (ends : Ends rest) :
    readScalar.Reads ("(" ++ type.keyword ++ ") " ++ toString value).toList rest
      (.number type value) := by
  have byte : Primitive.byte.keyword.toList = 'b' :: ['y', 't', 'e'] := rfl
  have short : Primitive.short.keyword.toList = 's' :: ['h', 'o', 'r', 't'] := rfl
  have char : Primitive.char.keyword.toList = 'c' :: ['h', 'a', 'r'] := rfl
  rw [String.toList_append, castText_toList]
  apply reads_of_cast
  rcases narrow with rfl | rfl | rfl
  · exact (reads_cast covers (by decide) ends).orElse
  · have reads := reads_cast covers (by decide) ends
    rw [short] at reads ⊢
    exact Reader.Refuses.orElse (refuses_cast byte (by decide) _) reads.orElse
  · have reads := reads_cast covers (by decide) ends
    rw [char] at reads ⊢
    exact Reader.Refuses.orElse (refuses_cast byte (by decide) _)
      (Reader.Refuses.orElse (refuses_cast short (by decide) _) reads.orElse)

/-- Printable characters are quoted. -/
theorem reads_quotedLiteral {code : Nat} (printed : 0x20 ≤ code ∧ code ≤ 0x7E)
    (rest : List Char) :
    readQuoted.Reads (charLiteral code).toList rest (.number .char code) := by
  unfold charLiteral
  split
  · rename_i mark
    subst mark
    exact reads_escaped (by decide) rest
  split
  · rename_i mark
    subst mark
    exact reads_escaped (by decide) rest
  · rename_i apostrophe backslash
    have plain : ∀ code < 127, 32 ≤ code → code ≠ 0x27 → code ≠ 0x5C →
        isPlain (Char.ofNat code) = true ∧ (Char.ofNat code).toNat = code := by
      decide
    obtain ⟨stands, same⟩ :=
      plain code (Nat.lt_succ_of_le printed.2) printed.1 apostrophe backslash
    have written : ("'" ++ (Char.ofNat code).toString ++ "'").toList =
        ['\'', Char.ofNat code, '\''] := by
      simp
    have reads := reads_quoted stands rest
    rw [same] at reads
    rw [written]
    exact reads

theorem exists_charLiteral_eq_cons {code : Nat} (printed : 0x20 ≤ code ∧ code ≤ 0x7E) :
    ∃ others, (charLiteral code).toList = '\'' :: others := by
  unfold charLiteral
  split
  · exact ⟨_, rfl⟩
  split
  · exact ⟨_, rfl⟩
  · rw [String.append_assoc, String.toList_append]
    exact ⟨_, rfl⟩

/-- The other characters are written as numbers. -/
theorem charLiteral_eq_cast {code : Nat} (unprinted : ¬ (0x20 ≤ code ∧ code ≤ 0x7E)) :
    charLiteral code = "(" ++ Primitive.char.keyword ++ ") " ++ toString (code : Int) := by
  unfold charLiteral
  rw [if_neg (by omega), if_neg (by omega), if_neg unprinted]
  rfl

theorem reads_charLiteral {code : Nat} (small : code < 65536) (ends : Ends rest) :
    readScalar.Reads (charLiteral code).toList rest (.number .char code) := by
  by_cases printed : 0x20 ≤ code ∧ code ≤ 0x7E
  · have reads := reads_quotedLiteral printed rest
    obtain ⟨others, starts⟩ := exists_charLiteral_eq_cons printed
    rw [starts] at reads ⊢
    exact reads_of_uncast (by decide) (by decide) (by decide) reads.orElse
  · have covers : Primitive.char.Covers code := ⟨by omega, by omega⟩
    rw [charLiteral_eq_cast printed]
    exact reads_castLiteral (.inr (.inr rfl)) covers ends

/-- The literal of an integer reads as the integer narrowed to the type. -/
theorem reads_integerLiteral {primitive : Primitive} (integral : primitive.family = .integer)
    (value : Int64) (ends : Ends rest) :
    readScalar.Reads (integerLiteral primitive value.toInt).toList rest
      (.number primitive (primitive.narrow value.toInt)) := by
  have covers := Primitive.covers_narrow integral value
  cases primitive with
  | byte =>
      have mark : "(byte) " = "(" ++ Primitive.byte.keyword ++ ") " := rfl
      simp only [integerLiteral, mark]
      exact reads_castLiteral (.inl rfl) covers ends
  | short =>
      have mark : "(short) " = "(" ++ Primitive.short.keyword ++ ") " := rfl
      simp only [integerLiteral, mark]
      exact reads_castLiteral (.inr (.inl rfl)) covers ends
  | char =>
      obtain ⟨lower, upper⟩ := covers
      have small : (Primitive.char.narrow value.toInt).toNat < 65536 := by omega
      have reads := reads_charLiteral small ends
      rw [Int.toNat_of_nonneg lower] at reads
      exact reads
  | int =>
      obtain ⟨first, others, written, starts⟩ :=
        exists_intText_eq_cons (Primitive.int.narrow value.toInt)
      have reads := reads_number _ covers ends
      simp only [integerLiteral]
      rw [written] at reads ⊢
      exact reads_of_number starts reads
  | long =>
      obtain ⟨first, others, written, starts⟩ := exists_intText_eq_cons value.toInt
      have reads := reads_suffixed value rest
      simp only [integerLiteral, Primitive.narrow]
      rw [String.toList_append, written] at reads ⊢
      exact reads_of_number starts reads
  | _ => cases integral

theorem reads_booleanText (value : Bool) (rest : List Char) :
    readScalar.Reads (booleanText value).toList rest (.truth value) := by
  cases value with
  | true =>
      have word : (do Reader.text "true"; pure (.truth true) : Reader SourceValue).Reads
          "true".toList rest (.truth true) :=
        (Reader.reads_text "true" rest).bind_pure (Reader.reads_pure _ rest)
      exact word.orElse
  | false =>
      have word : (do Reader.text "false"; pure (.truth false) : Reader SourceValue).Reads
          "false".toList rest (.truth false) :=
        (Reader.reads_text "false" rest).bind_pure (Reader.reads_pure _ rest)
      have other : (do Reader.text "true"; pure (.truth true) : Reader SourceValue).Refuses
          ("false".toList ++ rest) :=
        (Reader.refuses_text_start rfl (by decide) ("alse".toList ++ rest)).bind
      exact other.orElse word.orElse

/-- A closing brace starts no literal. -/
theorem refuses_brace (rest : List Char) : readScalar.Refuses ('\x7d' :: rest) := by
  have cast (type : Primitive) : (readCast type).Refuses ('\x7d' :: rest) :=
    Reader.Refuses.bind (Reader.refuses_text_start (castText_toList type) (by decide) _)
  have unsigned : (Reader.optional (Reader.char '-')).Reads [] ('\x7d' :: rest) none :=
    (Reader.refuses_char (by decide) rest).optional
  have number : readNumber.Refuses ('\x7d' :: rest) :=
    (unsigned.bind_refuses (Reader.refuses_takeSome (by decide) rest).bind.bind).bind
  have quoted : readQuoted.Refuses ('\x7d' :: rest) :=
    Reader.Refuses.bind (Reader.refuses_char (by decide) rest)
  exact (Reader.refuses_text_start rfl (by decide) _).bind.or
    ((Reader.refuses_text_start rfl (by decide) _).bind.or
      ((cast .byte).or ((cast .short).or ((cast .char).or (quoted.or number)))))

end SourceValue

/-- What the literal of a scalar stands for at an integral or truth type. -/
def Scalar.sourceValue? (type : Primitive) (scalar : Scalar) : Option SourceValue :=
  match scalar.coerce? type with
  | some (.integer value) => some (.number type (type.narrow value.toInt))
  | some (.boolean value) => some (.truth value)
  | _ => none

namespace SourceValue

open Text

variable {rest : List Char}

/-- The literal of a scalar reads as what it stands for. -/
theorem reads_scalarLiteral {type : Primitive} {scalar : Scalar} {value : SourceValue}
    (stands : scalar.sourceValue? type = some value) {text : String}
    (written : scalarLiteral type scalar = .ok text) (ends : Ends rest) :
    readScalar.Reads text.toList rest value := by
  unfold Scalar.sourceValue? at stands
  unfold scalarLiteral at written
  cases coerced : scalar.coerce? type with
  | none => simp [coerced] at stands
  | some content =>
      have family := Scalar.family_of_toFamily? coerced
      cases content with
      | integer number =>
          simp only [coerced, Option.some.injEq, Except.ok.injEq] at stands written
          subst stands written
          exact reads_integerLiteral family.symm number ends
      | boolean truth =>
          simp only [coerced, Option.some.injEq, Except.ok.injEq] at stands written
          subst stands written
          exact reads_booleanText truth rest
      | real bits => simp [coerced] at stands

theorem exists_reading_items {element : Primitive} {scalars : List Scalar}
    {values : List SourceValue}
    (stand : List.Forall₂ (fun scalar value => scalar.sourceValue? element = some value)
      scalars values)
    {texts : List String}
    (written : List.Forall₂ (fun scalar text => scalarLiteral element scalar = .ok text)
      scalars texts) :
    ∃ items : List (List Char × SourceValue),
      items.map (·.1) = texts.map String.toList ∧ items.map (·.2) = values ∧
        ∀ item ∈ items, ∀ rest, Ends rest → readScalar.Reads item.1 rest item.2 := by
  induction stand generalizing texts with
  | nil =>
      cases written
      exact ⟨[], rfl, rfl, List.forall_mem_nil _⟩
  | cons here _ ih =>
      cases written with
      | cons first later =>
          obtain ⟨items, fronts, values, each⟩ := ih later
          exact ⟨(_, _) :: items, congrArg (_ :: ·) fronts, congrArg (_ :: ·) values,
            List.forall_mem_cons.mpr ⟨fun _ => reads_scalarLiteral here first, each⟩⟩

/-- The elements of an initializer read as what they stand for, in order. -/
theorem reads_arrayInitializer {element : Primitive} {array : ScalarArray}
    {values : List SourceValue}
    (stand : List.Forall₂ (fun scalar value => scalar.sourceValue? element = some value)
      array.elements values)
    {text : String} (written : arrayInitializer element array = .ok text)
    (rest : List Char) : readList.Reads text.toList rest values := by
  obtain ⟨texts, elementsOk, same⟩ := bind_eq_ok_iff.mp written
  cases same
  obtain ⟨items, fronts, rfl, each⟩ :=
    exists_reading_items stand (mapM_eq_ok_iff.mp elementsOk)
  have text : ("\x7b" ++ ", ".intercalate texts ++ "\x7d").toList =
      ['\x7b'] ++ (", ".toList.intercalate (items.map (·.1)) ++ ['\x7d']) := by
    rw [String.toList_append, String.toList_append, String.toList_intercalate, fronts,
      List.append_assoc]
    rfl
  have elements : (Reader.optional (Reader.separated readScalar (Reader.text ", "))).Reads
      (", ".toList.intercalate (items.map (·.1))) ('\x7d' :: rest)
      (if items = [] then none else some (items.map (·.2))) := by
    cases items with
    | nil => exact (refuses_brace rest).bind.optional
    | cons item others =>
        have comma (rest : List Char) : Ends (", ".toList ++ rest) :=
          Ends.of_cons _ (by decide) (by decide)
        exact (Reader.reads_separated Ends (List.cons_ne_nil item others) each
          (Reader.reads_text ", ") comma (by decide)
          (Ends.of_cons rest (by decide) (by decide))
          (Reader.refuses_text_start rfl (by decide) rest)).optional
  rw [text]
  refine (Reader.reads_char '\x7b' _).bind (elements.bind
    ((Reader.reads_char '\x7d' rest).bind_pure ?_))
  have values : (if items = [] then none else some (items.map (·.2))).getD [] =
      items.map (·.2) := by
    cases items <;> rfl
  rw [values]
  exact Reader.reads_pure _ rest

end SourceValue

end TestSynth
