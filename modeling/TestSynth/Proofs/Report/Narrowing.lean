import Mathlib.Data.Int.ModEq
import TestSynth.Proofs.Report.LiteralReading
import TestSynth.Proofs.Report.Rendering

/-!
# Narrowed values

What a scalar means at an integral or truth type, said by ranges and congruence alone.
Every literal, and every list of them, is read back as what it means.
-/

namespace TestSynth

open Text

namespace Primitive

variable {type : Primitive}

/-- How many bits a value of the primitive has. -/
def width : Primitive → Nat
  | .byte => 8
  | .short | .char => 16
  | .int | .float => 32
  | .long | .double => 64
  | .boolean => 1

/-- Narrowing only drops bits in front. -/
theorem narrow_modEq (integral : type.family = .integer) (value : Int) :
    type.narrow value ≡ value [ZMOD 2 ^ type.width] := by
  cases type with
  | byte | short | int => exact Int.bmod_emod
  | char => exact Int.mod_modEq value _
  | long => exact Int.ModEq.rfl
  | _ => cases integral

end Primitive

/-- What a scalar is at an integral or truth type: an integer is the number of the type's
range that has the same last bits, and as a truth value it is true only if it is one. -/
inductive Scalar.Means : Primitive → Scalar → SourceValue → Prop
  | number {type : Primitive} {given : Int64} {value : Int} :
      type.Covers value → value ≡ given.toInt [ZMOD 2 ^ type.width] →
      Means type (.integer given) (.number type value)
  | truth (value : Bool) : Means .boolean (.boolean value) (.truth value)
  | one (given : Int64) : Means .boolean (.integer given) (.truth (given == 1))

namespace Scalar

variable {type : Primitive} {scalar : Scalar} {value : SourceValue}

theorem means_of_sourceValue? (stands : scalar.sourceValue? type = some value) :
    scalar.Means type value := by
  unfold sourceValue? at stands
  cases scalar with
  | integer given =>
      cases type with
      | float | double => simp [coerce?, toFamily?, Primitive.family] at stands
      | boolean =>
          simp only [coerce?, toFamily?, Primitive.family, Option.some.injEq] at stands
          subst stands
          exact .one given
      | _ =>
          simp only [coerce?, toFamily?, Primitive.family, Option.some.injEq] at stands
          subst stands
          exact .number (Primitive.covers_narrow rfl given) (Primitive.narrow_modEq rfl _)
  | boolean truth =>
      cases type with
      | boolean =>
          simp only [coerce?, toFamily?, Primitive.family, Option.some.injEq] at stands
          subst stands
          exact .truth truth
      | _ => simp [coerce?, toFamily?, Primitive.family] at stands
  | real bits => cases type <;> simp [coerce?, toFamily?, Primitive.family] at stands

/-- What can be taken as a value of an integral or truth type stands for one. -/
theorem exists_sourceValue? (kept : type.family ≠ .real)
    (coercible : (scalar.coerce? type).isSome = true) :
    ∃ value, scalar.sourceValue? type = some value := by
  obtain ⟨content, coerced⟩ := Option.isSome_iff_exists.mp coercible
  have family := family_of_toFamily? coerced
  unfold sourceValue?
  rw [coerced]
  cases content with
  | integer given => exact ⟨_, rfl⟩
  | boolean truth => exact ⟨_, rfl⟩
  | real bits => exact absurd family.symm kept

end Scalar

namespace SourceValue

/-- The integer that stands in digits, with or without a suffix. -/
def readDigits : Reader Int := do
  let value ← readInteger
  let _ ← Reader.optional (Reader.char 'L')
  pure value

/-- The integer that stands in digits in a literal, whatever it is cast to. -/
def readNumeral : Reader Int := do
  let _ ← Reader.optional
    (Reader.text "(byte) " <|> Reader.text "(short) " <|> Reader.text "(char) ")
  readDigits

variable {type : Primitive} {rest : List Char}

theorem reads_digits (value : Int) (ends : Ends rest) :
    readDigits.Reads (toString value).toList rest value := by
  refine (reads_integer value ends.digits).bind_pure ?_
  exact (reads_unsuffixed ends).bind_pure (Reader.reads_pure value rest)

theorem reads_suffixedDigits (value : Int) (rest : List Char) :
    readDigits.Reads (toString value ++ "L").toList rest value := by
  have stops : EndsDigits ('L' :: rest) := by
    rintro character ⟨⟩
    decide
  rw [String.toList_append]
  refine (reads_integer value stops).bind ?_
  exact (Reader.reads_char 'L' rest).optional.bind_pure (Reader.reads_pure value rest)

/-- Digits stand without a cast if they start the literal. -/
theorem reads_uncastNumeral {value : Int} {back : List Char}
    (reads : readDigits.Reads ((toString value).toList ++ back) rest value) :
    readNumeral.Reads ((toString value).toList ++ back) rest value := by
  obtain ⟨first, others, written, starts⟩ := exists_intText_eq_cons value
  have other : first ≠ '(' := by
    rintro rfl
    revert starts
    decide
  rw [written, List.cons_append] at reads ⊢
  have refuses (mark : String) (following : List Char) (marked : mark.toList = '(' :: following) :
      (Reader.text mark).Refuses (first :: (others ++ back) ++ rest) :=
    Reader.refuses_text_start marked other _
  have uncast := (refuses "(byte) " _ rfl).or
    ((refuses "(short) " _ rfl).or (refuses "(char) " _ rfl))
  exact uncast.optional.bind_skip reads

theorem reads_castMark (narrow : type = .byte ∨ type = .short ∨ type = .char)
    (rest : List Char) :
    (Reader.text "(byte) " <|> Reader.text "(short) " <|> Reader.text "(char) ").Reads
      ("(" ++ type.keyword ++ ") ").toList rest () := by
  -- The first letters after the parenthesis tell the casts apart.
  have differs {mark : String} {start character : Char} {others : List Char}
      (splits : mark.toList = ['('] ++ start :: others) (other : character ≠ start)
      (back : List Char) : (Reader.text mark).Refuses (['('] ++ character :: back) :=
    Reader.refuses_text splits other back
  rcases narrow with rfl | rfl | rfl
  · exact (Reader.reads_text "(byte) " rest).orElse
  · exact Reader.Refuses.orElse (differs rfl (by decide) _)
      (Reader.reads_text "(short) " rest).orElse
  · exact Reader.Refuses.orElse (differs rfl (by decide) _)
      (Reader.Refuses.orElse (differs rfl (by decide) _)
        (Reader.reads_text "(char) " rest))

theorem reads_castNumeral (narrow : type = .byte ∨ type = .short ∨ type = .char) (value : Int)
    (ends : Ends rest) :
    readNumeral.Reads ("(" ++ type.keyword ++ ") " ++ toString value).toList rest value := by
  rw [String.toList_append]
  exact (reads_castMark narrow _).optional.bind (reads_digits value ends)

/-- What is written in digits is the narrowed integer; printable characters are quoted. -/
theorem reads_writtenDigits (integral : type.family = .integer) (given : Int64)
    (ends : Ends rest) :
    let number := type.narrow given.toInt
    let text := (integerLiteral type given.toInt).toList
    readNumeral.Reads text rest number ∨ readQuoted.Reads text rest (.number type number) := by
  intro number text
  cases type with
  | byte => exact .inl (reads_castNumeral (.inl rfl) number ends)
  | short => exact .inl (reads_castNumeral (.inr (.inl rfl)) number ends)
  | char =>
      have covers : Primitive.char.Covers number := Primitive.covers_narrow integral given
      have same : (number.toNat : Int) = number := Int.toNat_of_nonneg covers.1
      by_cases printed : 0x20 ≤ number.toNat ∧ number.toNat ≤ 0x7E
      · have reads := reads_quotedLiteral printed rest
        rw [same] at reads
        exact .inr reads
      · have written : text = ("(" ++ Primitive.char.keyword ++ ") " ++ toString number).toList := by
          rw [← same]
          exact congrArg String.toList (charLiteral_eq_cast printed)
        rw [written]
        exact .inl (reads_castNumeral (.inr (.inr rfl)) number ends)
  | int =>
      have reads := reads_digits number ends
      rw [← List.append_nil (toString number).toList] at reads
      have unmarked := reads_uncastNumeral reads
      rw [List.append_nil] at unmarked
      exact .inl unmarked
  | long =>
      have reads := reads_suffixedDigits number rest
      rw [String.toList_append] at reads
      have written : text = (toString number).toList ++ "L".toList := String.toList_append
      rw [written]
      exact .inl (reads_uncastNumeral reads)
  | _ => cases integral

theorem ends_nil : Ends [] :=
  { digits := nofun, suffix := nofun }

end SourceValue

section Spelling

open SourceValue

variable {type : Primitive} {content : Scalar} {array : ScalarArray} {text : String}

/-- What the text of a value says at a type: a scalar is read back as what it means there,
an array as the list of what its elements mean.  Reals stand by themselves. -/
inductive Value.Spelled : Value → JavaType → String → Prop
  | scalar {type : Primitive} {content : Scalar} {meant : SourceValue} {text : String} :
      readScalar.readAll? text.toList = some meant → content.Means type meant →
      Spelled (.scalar content) (.primitive type) text
  | array {type : Primitive} {content : ScalarArray} {meant : List SourceValue}
      {text : String} :
      readList.readAll? text.toList = some meant →
      List.Forall₂ (Scalar.Means type) content.elements meant →
      Spelled (.array content) (.arrayOf type) text
  | real {type : Primitive} {content : Scalar} {text : String} :
      type.family = .real → scalarLiteral type content = .ok text →
      Spelled (.scalar content) (.primitive type) text
  | reals {type : Primitive} {content : ScalarArray} {text : String} :
      type.family = .real → arrayInitializer type content = .ok text →
      Spelled (.array content) (.arrayOf type) text

theorem coercible_of_scalarLiteral (written : scalarLiteral type content = .ok text) :
    (content.coerce? type).isSome = true := by
  unfold scalarLiteral at written
  cases coerced : content.coerce? type with
  | none =>
      rw [coerced] at written
      cases written
  | some other => rfl

theorem spelled_of_scalarLiteral (written : scalarLiteral type content = .ok text) :
    (Value.scalar content).Spelled (.primitive type) text := by
  by_cases real : type.family = .real
  · exact .real real written
  · obtain ⟨meant, stands⟩ :=
      Scalar.exists_sourceValue? real (coercible_of_scalarLiteral written)
    exact .scalar (reads_scalarLiteral stands written ends_nil).readAll?
      (Scalar.means_of_sourceValue? stands)

theorem spelled_of_arrayInitializer (written : arrayInitializer type array = .ok text) :
    (Value.array array).Spelled (.arrayOf type) text := by
  by_cases real : type.family = .real
  · exact .reals real written
  · obtain ⟨texts, textsOk, _⟩ := bind_eq_ok_iff.mp written
    obtain ⟨meant, stand⟩ := exists_forall₂ fun scalar member =>
      have ⟨_, elementOk⟩ := exists_mapM_iff.mp ⟨texts, textsOk⟩ scalar member
      Scalar.exists_sourceValue? real (coercible_of_scalarLiteral elementOk)
    exact .array (reads_arrayInitializer stand written []).readAll?
      (stand.imp fun _ _ => Scalar.means_of_sourceValue?)

/-- A literal spells its value. -/
theorem spelled_of_literal {type : JavaType} {value : Value}
    (written : literal type value = .ok text) : value.Spelled type text := by
  unfold literal at written
  split at written
  case h_1 base content => exact spelled_of_scalarLiteral written
  case h_2 element content =>
      split at written
      case h_1 base basic =>
          cases element with
          | primitive held =>
              cases basic
              exact spelled_of_arrayInitializer written
          | _ => cases basic
      case h_2 => cases written
  case h_3 => cases written

end Spelling

namespace SourceValue

/-- Literals of integral types and of the truth type, and lists of them, read back as
their narrowed values.  The digits of a number are those of the narrowed value. -/
theorem readsBack_literals :
    (∀ (type : Primitive) (given : Int64), type.family = .integer →
      ∃ text number, scalarLiteral type (.integer given) = .ok text ∧
        readScalar.readAll? text.toList = some (.number type number) ∧
        type.Covers number ∧ number ≡ given.toInt [ZMOD 2 ^ type.width] ∧
        (readNumeral.readAll? text.toList = some number ∨
          readQuoted.readAll? text.toList = some (.number type number))) ∧
    (∀ scalar : Scalar, scalar.family ≠ .real →
      ∃ text truth, scalar.coerce? .boolean = some (.boolean truth) ∧
        scalarLiteral .boolean scalar = .ok text ∧
        readScalar.readAll? text.toList = some (.truth truth)) ∧
    ∀ (type : Primitive) (array : ScalarArray), type.family ≠ .real →
      (∀ scalar ∈ array.elements, (scalar.coerce? type).isSome = true) →
        ∃ text values, arrayInitializer type array = .ok text ∧
          readList.readAll? text.toList = some values ∧
          List.Forall₂ (Scalar.Means type) array.elements values := by
  refine ⟨?_, ?_, ?_⟩
  · intro type given integral
    have written : scalarLiteral type (.integer given) =
        .ok (integerLiteral type given.toInt) := by
      simp only [scalarLiteral, Scalar.coerce?, Scalar.toFamily?, integral]
    refine ⟨_, type.narrow given.toInt, written, ?_, Primitive.covers_narrow integral given,
      Primitive.narrow_modEq integral _, ?_⟩
    · exact (reads_integerLiteral integral given ends_nil).readAll?
    · exact (reads_writtenDigits integral given ends_nil).imp Reader.Reads.readAll?
        Reader.Reads.readAll?
  · intro scalar unreal
    cases scalar with
    | integer given =>
        exact ⟨_, given == 1, rfl, rfl, (reads_booleanText _ []).readAll?⟩
    | boolean truth => exact ⟨_, truth, rfl, rfl, (reads_booleanText _ []).readAll?⟩
    | real bits => exact absurd rfl unreal
  · intro type array kept coercible
    obtain ⟨texts, elementsOk⟩ := exists_mapM_eq_ok fun scalar member =>
      exists_scalarLiteral_of_coerce? (coercible scalar member)
    obtain ⟨values, stand⟩ := exists_forall₂ fun scalar member =>
      Scalar.exists_sourceValue? kept (coercible scalar member)
    have written : arrayInitializer type array =
        .ok ("\x7b" ++ ", ".intercalate texts ++ "\x7d") :=
      bind_eq_ok_iff.mpr ⟨texts, elementsOk, rfl⟩
    exact ⟨_, values, written, (reads_arrayInitializer stand written []).readAll?,
      stand.imp fun _ _ => Scalar.means_of_sourceValue?⟩

/-- Characters that also stand between and around the literals of a list, one that has to
be written as a number, and one that is narrowed. -/
def marks : ScalarArray :=
  { element := .char
    elements := [.integer 39, .integer 44, .integer 92, .integer 125, .integer 10,
      .integer (-65439)] }

theorem readsBack_literals_marks :
    (∃ number, readScalar.readAll? "(byte) 44".toList = some (.number .byte number) ∧
      number ≡ 300 [ZMOD 2 ^ 8]) ∧
    (∃ truth, readScalar.readAll? "false".toList = some (.truth truth) ∧
      (Scalar.integer 2).coerce? .boolean = some (.boolean truth)) ∧
    ∃ values,
      readList.readAll? "\x7b'\\'', ',', '\\\\', '\x7d', (char) 10, 'a'\x7d".toList = some values ∧
        List.Forall₂ (Scalar.Means .char) marks.elements values := by
  obtain ⟨numbers, truths, lists⟩ := readsBack_literals
  have coercible : ∀ scalar ∈ marks.elements, (scalar.coerce? .char).isSome = true := by decide
  obtain ⟨byteText, number, byteWritten, byteRead, _, congruent, _⟩ := numbers .byte 300 rfl
  obtain ⟨truthText, truth, coerced, truthWritten, truthRead⟩ :=
    truths (.integer 2) (by decide)
  obtain ⟨listText, values, listWritten, listRead, means⟩ := lists .char marks (by decide) coercible
  have byteLiteral : scalarLiteral .byte (.integer 300) = .ok "(byte) 44" := rfl
  have truthLiteral : scalarLiteral .boolean (.integer 2) = .ok "false" := rfl
  have listLiteral : arrayInitializer .char marks =
      .ok "\x7b'\\'', ',', '\\\\', '\x7d', (char) 10, 'a'\x7d" := rfl
  cases byteLiteral.symm.trans byteWritten
  cases truthLiteral.symm.trans truthWritten
  cases listLiteral.symm.trans listWritten
  exact ⟨⟨number, byteRead, congruent⟩, ⟨truth, truthRead, coerced⟩, values, listRead, means⟩

end SourceValue

end TestSynth
