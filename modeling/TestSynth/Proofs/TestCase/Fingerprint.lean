import Mathlib.Data.List.Basic
import TestSynth.Proofs.Text.Octets
import TestSynth.TestCase.Key

/-!
# Decoding of fingerprints

The values that a test case feeds to its key can be decoded from the front, one part after
the other: a choice says which part comes next, a length says how many, and no text contains
the value after it.  So test cases feed the same values exactly if they are the same.
-/

namespace TestSynth

/-- The values of a piece of a fingerprint.  Nothing in them tells what they stand for; a text
is fed byte by byte. -/
def Mark.fed : Mark → List Nat
  | .choice number | .length number | .index number => [number]
  | .word bits => [bits.toNat]
  | .flag value => [value.toNat]
  | .text content => content.toUTF8.toList.map UInt8.toNat
  | .textEnd => [Key.textEnd.toNat]

def Mark.feed (marks : List Mark) : List Nat :=
  marks.flatMap fed

/-- The values that a test case feeds to its key. -/
def TestCase.feed (test : TestCase) : List Nat :=
  Mark.feed test.fingerprint

section Texts

/-- No byte of a text is the value after it. -/
theorem ne_textEnd_of_mem {content : String} {value : Nat}
    (member : value ∈ (Mark.text content).fed) : value ≠ Key.textEnd.toNat := by
  obtain ⟨byte, read, rfl⟩ := List.mem_map.mp member
  rw [toList_toUTF8, ← String.utf8Encode_toList, List.utf8Encode, List.data_toByteArray] at read
  obtain ⟨letter, _, encoded⟩ := List.mem_flatMap.mp read
  exact Nat.ne_of_lt (toNat_lt_of_mem_utf8EncodeChar encoded)

theorem eq_of_fed_text {left right : String}
    (same : (Mark.text left).fed = (Mark.text right).fed) : left = right := by
  have bytes : left.toUTF8.toList = right.toUTF8.toList :=
    List.map_injective_iff.mpr (fun _ _ => UInt8.toNat_inj.mp) same
  rw [toList_toUTF8, toList_toUTF8, Array.toList_inj] at bytes
  exact String.toByteArray_inj.mp (ByteArray.ext bytes)

end Texts

/-- An item can be read off the front of what comes of it, up to a relation. -/
def Decodes {α β : Type} (code : α → List β) (relation : α → α → Prop) : Prop :=
  ∀ {left right : α} {rest other : List β},
    code left ++ rest = code right ++ other → relation left right ∧ rest = other

namespace Decodes

variable {α β : Type} {code : α → List β}

/-- Items that none of the values after them occurs in. -/
theorem of_end {last : β} (apart : ∀ item, last ∉ code item)
    (injective : Function.Injective code) : Decodes (fun item => code item ++ [last]) Eq := by
  have ends (first : List β) : ∀ {second rest other : List β}, last ∉ first → last ∉ second →
      first ++ last :: rest = second ++ last :: other → first = second ∧ rest = other := by
    induction first with
    | nil =>
        intro second rest other _ absent same
        cases second with
        | nil => exact ⟨rfl, (List.cons.inj same).2⟩
        | cons head tail => exact absurd ((List.cons.inj same).1 ▸ List.mem_cons_self) absent
    | cons head tail ih =>
        intro second rest other absent absentToo same
        cases second with
        | nil => exact absurd ((List.cons.inj same).1 ▸ List.mem_cons_self) absent
        | cons otherHead otherTail =>
            obtain ⟨heads, tails⟩ := List.cons.inj same
            obtain ⟨rfl, rests⟩ := ih (fun member => absent (.tail _ member))
              (fun member => absentToo (.tail _ member)) tails
            exact ⟨congrArg (· :: tail) heads, rests⟩
  intro left right rest other same
  simp only [List.append_assoc, List.singleton_append] at same
  obtain ⟨codes, rests⟩ := ends (code left) (apart left) (apart right) same
  exact ⟨injective codes, rests⟩

/-- Lists of the same length are read item by item. -/
theorem flatMap (decodes : Decodes code Eq) {left right : List α} {rest other : List β}
    (lengths : left.length = right.length)
    (same : left.flatMap code ++ rest = right.flatMap code ++ other) :
    left = right ∧ rest = other := by
  induction left generalizing right with
  | nil =>
      cases List.length_eq_zero_iff.mp lengths.symm
      exact ⟨rfl, same⟩
  | cons item items ih =>
      cases right with
      | nil => cases lengths
      | cons first later =>
          simp only [List.flatMap_cons, List.append_assoc] at same
          obtain ⟨rfl, tails⟩ := decodes same
          obtain ⟨rfl, rests⟩ := ih (Nat.succ.inj lengths) tails
          exact ⟨rfl, rests⟩

end Decodes

namespace Mark

theorem feed_append (marks others : List Mark) :
    feed (marks ++ others) = feed marks ++ feed others :=
  List.flatMap_append

theorem feed_flatMap {α : Type} (marks : α → List Mark) (items : List α) :
    feed (items.flatMap marks) = items.flatMap fun item => feed (marks item) :=
  List.flatMap_assoc

variable {marks : List Mark} {number : Nat} {value : Bool}

theorem feed_choice : feed (.choice number :: marks) = number :: feed marks :=
  rfl

theorem feed_length : feed (.length number :: marks) = number :: feed marks :=
  rfl

theorem feed_index : feed (.index number :: marks) = number :: feed marks :=
  rfl

theorem feed_flag : feed (.flag value :: marks) = value.toNat :: feed marks :=
  rfl

theorem feed_nil : feed [] = [] :=
  rfl

theorem toNat_injective : Function.Injective Bool.toNat := by
  intro left right same
  cases left <;> cases right <;> cases same <;> rfl

theorem decodes_ofText : Decodes (fun content => feed (ofText content)) Eq :=
  Decodes.of_end (fun _ member => ne_textEnd_of_mem member rfl) fun _ _ => eq_of_fed_text

theorem decodes_ofList {α : Type} {marks : α → List Mark}
    (decodes : Decodes (fun item => feed (marks item)) Eq) :
    Decodes (fun items => feed (ofList marks items)) Eq := by
  intro left right rest other same
  simp only [ofList, feed_length, feed_flatMap, List.cons_append] at same
  obtain ⟨lengths, items⟩ := List.cons.inj same
  exact decodes.flatMap lengths items

end Mark

open Mark

theorem Primitive.decodes : Decodes (fun base => feed (marks base)) Eq := by
  intro left right rest other same
  cases left <;> cases right <;> cases same <;> exact ⟨rfl, rfl⟩

theorem JavaType.decodes : Decodes (fun type => feed (marks type)) Eq := by
  intro left
  induction left with
  | void =>
      intro right rest other same
      cases right <;> cases same
      exact ⟨rfl, rfl⟩
  | primitive base =>
      intro right rest other same
      cases right with
      | primitive otherBase =>
          obtain ⟨rfl, rests⟩ := Primitive.decodes (List.cons.inj same).2
          exact ⟨rfl, rests⟩
      | _ => cases same
  | array element ih =>
      intro right rest other same
      cases right with
      | array otherElement =>
          obtain ⟨rfl, rests⟩ := ih (List.cons.inj same).2
          exact ⟨rfl, rests⟩
      | _ => cases same
  | reference name =>
      intro right rest other same
      cases right with
      | reference otherName =>
          obtain ⟨rfl, rests⟩ := decodes_ofText (List.cons.inj same).2
          exact ⟨rfl, rests⟩
      | _ => cases same

theorem Parameter.decodes : Decodes (fun parameter => feed (marks parameter)) Eq := by
  rintro ⟨name, type, ordinal, isReceiver⟩ ⟨_, _, _, _⟩ rest other same
  simp only [marks, feed_append, feed_index, feed_flag, feed_nil, List.append_assoc] at same
  obtain ⟨rfl, afterName⟩ := decodes_ofText same
  obtain ⟨rfl, afterType⟩ := JavaType.decodes afterName
  obtain ⟨rfl, afterOrdinal⟩ := List.cons.inj afterType
  obtain ⟨flags, rests⟩ := List.cons.inj afterOrdinal
  cases toNat_injective flags
  exact ⟨rfl, rests⟩

theorem DeclaringClass.decodes : Decodes (fun owner => feed (marks owner)) Eq := by
  rintro ⟨name, hasDefaultConstructor⟩ ⟨_, _⟩ rest other same
  simp only [marks, feed_append, feed_flag, feed_nil, List.append_assoc] at same
  obtain ⟨rfl, afterName⟩ := decodes_ofText same
  obtain ⟨flags, rests⟩ := List.cons.inj afterName
  cases toNat_injective flags
  exact ⟨rfl, rests⟩

theorem Method.decodes : Decodes (fun method => feed (marks method)) Eq := by
  rintro ⟨owner, name, isStatic, parameters, returnType, thrown⟩ ⟨_, _, _, _, _, _⟩ rest other
    same
  simp only [marks, feed_append, feed_flag, feed_nil, List.append_assoc] at same
  obtain ⟨rfl, afterOwner⟩ := DeclaringClass.decodes same
  obtain ⟨rfl, afterName⟩ := decodes_ofText afterOwner
  obtain ⟨flags, afterFlag⟩ := List.cons.inj afterName
  cases toNat_injective flags
  obtain ⟨rfl, afterParameters⟩ := decodes_ofList Parameter.decodes afterFlag
  obtain ⟨rfl, afterType⟩ := JavaType.decodes afterParameters
  obtain ⟨rfl, rests⟩ := decodes_ofList decodes_ofText afterType
  exact ⟨rfl, rests⟩

theorem Scalar.decodes : Decodes (fun value => feed (marks value)) Eq := by
  intro left right rest other same
  cases left with
  | integer value =>
      cases right with
      | integer otherValue =>
          obtain ⟨words, rests⟩ := List.cons.inj (List.cons.inj same).2
          have values : value = otherValue :=
            congrArg Int64.ofUInt64 (UInt64.toNat_inj.mp words)
          exact ⟨congrArg integer values, rests⟩
      | _ => cases same
  | real bits =>
      cases right with
      | real otherBits =>
          obtain ⟨words, rests⟩ := List.cons.inj (List.cons.inj same).2
          cases UInt64.toNat_inj.mp words
          exact ⟨rfl, rests⟩
      | _ => cases same
  | boolean value =>
      cases right with
      | boolean otherValue =>
          obtain ⟨flags, rests⟩ := List.cons.inj (List.cons.inj same).2
          cases toNat_injective flags
          exact ⟨rfl, rests⟩
      | _ => cases same

theorem Value.decodes : Decodes (fun value => feed (marks value)) Eq := by
  intro left right rest other same
  cases left with
  | scalar content =>
      cases right with
      | scalar otherContent =>
          obtain ⟨rfl, rests⟩ := Scalar.decodes (List.cons.inj same).2
          exact ⟨rfl, rests⟩
      | array _ => cases same
  | array content =>
      cases right with
      | scalar _ => cases same
      | array otherContent =>
          rcases content with ⟨element, elements⟩
          rcases otherContent with ⟨_, _⟩
          simp only [marks, List.cons_append, feed_choice, feed_append, List.append_assoc] at same
          obtain ⟨rfl, afterElement⟩ := Primitive.decodes (List.cons.inj same).2
          obtain ⟨rfl, rests⟩ := decodes_ofList Scalar.decodes afterElement
          exact ⟨rfl, rests⟩

theorem Argument.decodes : Decodes (fun argument => feed (marks argument)) Eq := by
  rintro ⟨parameter, value⟩ ⟨_, _⟩ rest other same
  simp only [marks, List.cons_append, feed_index, feed_append, List.append_assoc] at same
  obtain ⟨rfl, afterParameter⟩ := Parameter.decodes (List.cons.inj same).2
  obtain ⟨rfl, rests⟩ := Value.decodes afterParameter
  exact ⟨rfl, rests⟩

/-- The message of an exception is not fed. -/
theorem Outcome.decodes :
    Decodes (fun outcome => feed (marks outcome)) fun left right => left.same right = true := by
  intro left right rest other same
  cases left with
  | void =>
      cases right with
      | void => exact ⟨rfl, (List.cons.inj same).2⟩
      | _ => cases same
  | returned value =>
      cases right with
      | returned otherValue =>
          obtain ⟨rfl, rests⟩ := Value.decodes (List.cons.inj same).2
          exact ⟨beq_self_eq_true value, rests⟩
      | _ => cases same
  | threw exception =>
      cases right with
      | threw otherException =>
          obtain ⟨typeNames, rests⟩ := decodes_ofText (List.cons.inj same).2
          exact ⟨beq_iff_eq.mpr typeNames, rests⟩
      | _ => cases same

namespace TestCase

variable {left right : TestCase}

theorem same_of_feed_eq (fed : left.feed = right.feed) : left.same right = true := by
  simp only [feed, fingerprint, feed_append, List.append_assoc] at fed
  obtain ⟨method, afterMethod⟩ := Method.decodes fed
  obtain ⟨arguments, outcomes⟩ := decodes_ofList Argument.decodes afterMethod
  rw [← List.append_nil (Mark.feed left.outcome.marks),
    ← List.append_nil (Mark.feed right.outcome.marks)] at outcomes
  exact same_iff.mpr ⟨method, arguments, (Outcome.decodes outcomes).1⟩

theorem same_iff_feed_eq : left.same right = true ↔ left.feed = right.feed :=
  ⟨fun same => congrArg Mark.feed (fingerprint_eq_of_same same), same_of_feed_eq⟩

theorem same_iff_fingerprint_eq : left.same right = true ↔ left.fingerprint = right.fingerprint :=
  ⟨fingerprint_eq_of_same, fun fed => same_of_feed_eq (congrArg Mark.feed fed)⟩

/-- Exceptions with another message make the same test case. -/
theorem same_of_message (test : TestCase) (typeName : String) (message other : Option String) :
    ({ test with outcome := .threw { typeName := typeName, message := message } } :
      TestCase).same
        { test with outcome := .threw { typeName := typeName, message := other } } = true :=
  same_iff.mpr ⟨rfl, rfl, beq_self_eq_true typeName⟩

/-- Being the same is an equivalence, and test cases are the same exactly if they feed the same
values to their keys, be they told apart by kind or not.  So the same test cases have the same
key, whatever the messages of their exceptions, and test cases that differ in anything else
feed different values. -/
theorem same_feed_key_agree :
    Equivalence (fun left right : TestCase => left.same right = true) ∧
    (∀ left right : TestCase,
      (left.same right = true ↔ left.fingerprint = right.fingerprint) ∧
      (left.same right = true ↔ left.feed = right.feed) ∧
      (left.same right = true → left.key = right.key)) ∧
    (∀ (test : TestCase) (typeName : String) (message other : Option String),
      let one := { test with outcome := .threw { typeName := typeName, message := message } }
      let another := { test with outcome := .threw { typeName := typeName, message := other } }
      one.same another = true ∧ one.key = another.key) ∧
    ∀ left right : TestCase,
      left.method ≠ right.method ∨ left.arguments ≠ right.arguments ∨
        left.outcome.same right.outcome = false →
      left.fingerprint ≠ right.fingerprint ∧ left.feed ≠ right.feed := by
  refine ⟨⟨?_, ?_, ?_⟩, ?_, ?_, ?_⟩
  · exact fun test => same_iff_feed_eq.mpr rfl
  · exact fun same => same_iff_feed_eq.mpr (same_iff_feed_eq.mp same).symm
  · exact fun first second =>
      same_iff_feed_eq.mpr ((same_iff_feed_eq.mp first).trans (same_iff_feed_eq.mp second))
  · exact fun left right => ⟨same_iff_fingerprint_eq, same_iff_feed_eq, key_eq_of_same⟩
  · intro test typeName message other one another
    have same : one.same another = true := same_of_message test typeName message other
    exact ⟨same, key_eq_of_same same⟩
  · intro left right different
    have apart : ¬ left.same right = true := by
      rw [same_iff]
      rintro ⟨method, arguments, outcome⟩
      rcases different with other | other | other
      · exact other method
      · exact other arguments
      · exact Bool.eq_false_iff.mp other outcome
    exact ⟨mt same_iff_fingerprint_eq.mpr apart, mt same_iff_feed_eq.mpr apart⟩

end TestCase

end TestSynth
