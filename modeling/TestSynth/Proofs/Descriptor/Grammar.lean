import Mathlib.Data.List.TakeWhile
import TestSynth.Descriptor.Signature
import TestSynth.Proofs.Text.Lines

/-!
# The grammar of descriptors

`Spells` says which characters stand for a type, one production for each kind of type.
Reading a descriptor off the front of a text accepts exactly what is spelled so.  Since
a class name may be written with dots or with slashes, a type has several spellings,
all of which give its descriptor once their dots are written as slashes.
-/

namespace TestSynth

@[simp] theorem dotted_slashed (character : Char) :
    dotted (slashed character) = dotted character := by
  unfold dotted slashed
  split <;> simp_all

@[simp] theorem slashed_dotted (character : Char) :
    slashed (dotted character) = slashed character := by
  unfold dotted slashed
  split <;> simp_all

@[simp] theorem slashed_slashed (character : Char) :
    slashed (slashed character) = slashed character := by
  unfold slashed
  split <;> simp_all

theorem slashed_of_ne {character : Char} (plain : character ≠ '.') :
    slashed character = character :=
  if_neg plain

theorem dotted_of_ne {character : Char} (plain : character ≠ '/') :
    dotted character = character :=
  if_neg plain

theorem dotted_ne_slash (character : Char) : dotted character ≠ '/' := by
  unfold dotted
  split
  · decide
  · assumption

/-- Only a slash can come of a dot. -/
theorem eq_of_slashed {character written : Char} (plain : written ≠ '/')
    (same : slashed character = written) : character = written := by
  unfold slashed at same
  split at same
  · exact absurd same.symm plain
  · exact same

theorem eq_of_dotted {character read : Char} (plain : read ≠ '.')
    (same : dotted character = read) : character = read := by
  unfold dotted at same
  split at same
  · exact absurd same.symm plain
  · exact same

/-- Names that differ in dots and slashes only are the same once they are dotted. -/
theorem map_dotted_of_map_slashed {spelled name : List Char}
    (plain : ∀ character ∈ name, character ≠ '/')
    (same : spelled.map slashed = name.map slashed) : spelled.map dotted = name :=
  calc
    spelled.map dotted = (spelled.map slashed).map dotted := by simp
    _ = (name.map slashed).map dotted := by rw [same]
    _ = name.map dotted := by simp
    _ = name.map id := List.map_congr_left fun character member =>
      dotted_of_ne (plain character member)
    _ = name := List.map_id name

theorem Primitive.code_of_ofCode? {code : Char} {base : Primitive}
    (known : ofCode? code = some base) : base.code = code := by
  unfold ofCode? at known
  simpa using List.find?_some known

namespace JavaType

/-- Class names are not empty and hold no mark of a descriptor, and elements are not void. -/
inductive WellFormed : JavaType → Prop
  | void : WellFormed .void
  | primitive (base : Primitive) : WellFormed (.primitive base)
  | array {element : JavaType} :
      element.WellFormed → element ≠ .void → WellFormed (.array element)
  | reference {name : String} :
      name ≠ "" → Within (fun character => character ≠ ';' ∧ character ≠ '/') name →
      WellFormed (.reference name)

/-- The characters stand for the type. -/
inductive Spells : List Char → JavaType → Prop
  | void : Spells ['V'] .void
  | primitive (base : Primitive) : Spells [base.code] (.primitive base)
  | array {characters : List Char} {element : JavaType} :
      Spells characters element → element ≠ .void →
      Spells ('[' :: characters) (.array element)
  | reference {name : List Char} :
      name ≠ [] → (∀ character ∈ name, character ≠ ';') →
      Spells ('L' :: name ++ [';']) (.reference (String.ofList (name.map dotted)))

theorem readDescriptor_primitive (base : Primitive) (rest : List Char) :
    readDescriptor (base.code :: rest) = .ok (.primitive base, rest) := by
  cases base <;> rfl

/-- A class name goes up to the first semicolon. -/
theorem readDescriptor_reference {name : List Char} (filled : name ≠ [])
    (inside : ∀ character ∈ name, character ≠ ';') (rest : List Char) :
    readDescriptor ('L' :: name ++ ';' :: rest) =
      .ok (.reference (String.ofList (name.map dotted)), rest) := by
  have all : ∀ character ∈ name, (character != ';') = true := by
    simpa using inside
  have taken : (name ++ ';' :: rest).takeWhile (· != ';') = name := by
    rw [List.takeWhile_append_of_pos all]
    simp
  have dropped : (name ++ ';' :: rest).dropWhile (· != ';') = ';' :: rest := by
    rw [List.dropWhile_append_of_pos all]
    simp
  simp only [List.cons_append, readDescriptor, taken, dropped,
    List.isEmpty_eq_false_iff.mpr filled]
  rfl

theorem Spells.reads {characters : List Char} {type : JavaType}
    (spells : Spells characters type) (rest : List Char) :
    readDescriptor (characters ++ rest) = .ok (type, rest) := by
  induction spells with
  | void => rfl
  | primitive base => exact readDescriptor_primitive base rest
  | array _ solid ih => simp only [List.cons_append, readDescriptor, ih]
  | reference filled inside =>
      rw [List.append_assoc]
      exact readDescriptor_reference filled inside rest

/-- What stands before the first semicolon of a text, and what comes after it. -/
theorem split_of_dropWhile {characters after : List Char} {head : Char}
    (dropped : characters.dropWhile (· != ';') = head :: after) :
    characters = characters.takeWhile (· != ';') ++ ';' :: after ∧
      ∀ character ∈ characters.takeWhile (· != ';'), character ≠ ';' := by
  have nonempty : characters.dropWhile (· != ';') ≠ [] := by simp [dropped]
  have stops := List.head_dropWhile_not (· != ';') nonempty
  simp only [dropped, List.head_cons, bne_eq_false_iff_eq] at stops
  subst head
  constructor
  · rw [← dropped, List.takeWhile_append_dropWhile]
  · intro character member
    simpa using List.mem_takeWhile_imp member

theorem exists_spells_of_reads {characters rest : List Char} {type : JavaType}
    (read : readDescriptor characters = .ok (type, rest)) :
    ∃ front, characters = front ++ rest ∧ Spells front type := by
  fun_induction readDescriptor characters generalizing type rest with
  | case1 => cases read
  | case2 rest =>
      cases read
      exact ⟨['V'], rfl, .void⟩
  | case3 rest fault inner ih => cases read
  | case4 rest after inner ih => cases read
  | case5 rest element after solid inner ih =>
      cases read
      obtain ⟨front, rfl, spells⟩ := ih inner
      exact ⟨'[' :: front, rfl, .array spells solid⟩
  | case6 rest unclosed => cases read
  | case7 rest name head after closed => cases read
  | case8 rest name head after closed =>
      rename_i filled
      cases read
      obtain ⟨parts, inside⟩ := split_of_dropWhile closed
      refine ⟨'L' :: rest.takeWhile (· != ';') ++ [';'], ?_, .reference ?_ inside⟩
      · rw [List.cons_append, List.cons_append, List.append_assoc]
        exact congrArg ('L' :: ·) parts
      · exact mt List.isEmpty_iff.mpr filled
  | case9 code rest _ _ _ base known =>
      cases read
      exact ⟨[code], rfl, Primitive.code_of_ofCode? known ▸ .primitive base⟩
  | case10 code rest _ _ _ unknown => cases read

/-- Reading takes what is spelled off the front and nothing else. -/
theorem readDescriptor_eq_ok_iff {characters rest : List Char} {type : JavaType} :
    readDescriptor characters = .ok (type, rest) ↔
      ∃ front, characters = front ++ rest ∧ Spells front type := by
  constructor
  · exact exists_spells_of_reads
  · rintro ⟨front, rfl, spells⟩
    exact spells.reads rest

/-- The fault names the end of the text from a malformed descriptor on. -/
def Blames (fault : Fault) (characters : List Char) : Prop :=
  ∃ text, fault = .malformedDescriptor (String.ofList text) ∧ text <:+ characters

theorem blames_of_malformed {α : Type} {characters : List Char} {fault : Fault}
    (refused : malformed (α := α) characters = .error fault) : Blames fault characters := by
  cases refused
  exact ⟨characters, rfl, List.suffix_refl characters⟩

theorem Blames.cons {characters : List Char} {fault : Fault}
    (blames : Blames fault characters) (first : Char) :
    Blames fault (first :: characters) := by
  obtain ⟨text, same, ends⟩ := blames
  exact ⟨text, same, ends.trans (List.suffix_cons first characters)⟩

theorem blames_of_readDescriptor {characters : List Char} {fault : Fault}
    (refused : readDescriptor characters = .error fault) : Blames fault characters := by
  fun_induction readDescriptor characters with
  | case1 => exact blames_of_malformed refused
  | case2 rest => cases refused
  | case3 rest inside inner ih =>
      cases refused
      exact (ih inner).cons '['
  | case4 rest after inner ih => exact blames_of_malformed refused
  | case5 rest element after solid inner ih => cases refused
  | case6 rest unclosed => exact blames_of_malformed refused
  | case7 rest name head after closed => exact blames_of_malformed refused
  | case8 rest name head after closed => cases refused
  | case9 code rest _ _ _ base known => cases refused
  | case10 code rest _ _ _ unknown => exact blames_of_malformed refused

theorem ofDescriptor_eq_ok_iff {text : String} {type : JavaType} :
    ofDescriptor text = .ok type ↔ Spells text.toList type := by
  unfold ofDescriptor
  constructor
  · intro read
    split at read
    · cases read
    · rename_i whole
      cases read
      obtain ⟨front, characters, spells⟩ := readDescriptor_eq_ok_iff.mp whole
      rw [characters, List.append_nil]
      exact spells
    · cases read
  · intro spells
    have whole := spells.reads []
    rw [List.append_nil] at whole
    rw [whole]

/-- A text that is no descriptor is refused as such. -/
theorem blames_of_ofDescriptor {text : String} {fault : Fault}
    (refused : ofDescriptor text = .error fault) : Blames fault text.toList := by
  unfold ofDescriptor at refused
  split at refused
  · rename_i inner
    cases refused
    exact blames_of_readDescriptor inner
  · cases refused
  · exact blames_of_malformed refused

theorem code_ne_slash (base : Primitive) : base.code ≠ '/' := by
  cases base <;> decide

theorem slashed_code (base : Primitive) : slashed base.code = base.code := by
  cases base <;> rfl

theorem Spells.wellFormed {characters : List Char} {type : JavaType}
    (spells : Spells characters type) : type.WellFormed := by
  induction spells with
  | void => exact .void
  | primitive base => exact .primitive base
  | array _ solid ih => exact .array ih solid
  | @reference name filled inside =>
      apply WellFormed.reference
      · simpa [← String.toList_inj] using filled
      · intro character member
        rw [String.toList_ofList] at member
        obtain ⟨written, given, rfl⟩ := List.mem_map.mp member
        refine ⟨?_, dotted_ne_slash written⟩
        intro closed
        exact inside written given (eq_of_dotted (by decide) closed)

/-- A spelling is the descriptor up to dots in the place of slashes. -/
theorem Spells.map_slashed {characters : List Char} {type : JavaType}
    (spells : Spells characters type) : characters.map slashed = type.descriptorChars := by
  induction spells with
  | void => rfl
  | primitive base => exact congrArg ([·]) (slashed_code base)
  | array _ _ ih =>
      rw [List.map_cons, ih]
      rfl
  | @reference name _ _ =>
      have same : name.map (slashed ∘ dotted) = name.map slashed :=
        List.map_congr_left fun character _ => slashed_dotted character
      rw [descriptorChars, String.toList_ofList, List.map_map, same]
      simp [slashed_of_ne]

theorem spells_of_map_slashed {characters : List Char} {type : JavaType}
    (wellFormed : type.WellFormed)
    (written : characters.map slashed = type.descriptorChars) :
    Spells characters type := by
  induction wellFormed generalizing characters with
  | void =>
      obtain ⟨letter, rfl, same⟩ := List.map_eq_singleton_iff.mp written
      rw [eq_of_slashed (by decide) same]
      exact .void
  | primitive base =>
      obtain ⟨letter, rfl, same⟩ := List.map_eq_singleton_iff.mp written
      rw [eq_of_slashed (code_ne_slash base) same]
      exact .primitive base
  | array _ solid ih =>
      obtain ⟨bracket, inner, rfl, same, rest⟩ := List.map_eq_cons_iff.mp written
      rw [eq_of_slashed (by decide) same]
      exact .array (ih rest) solid
  | @reference name filled inside =>
      obtain ⟨front, last, rfl, opened, closed⟩ := List.map_eq_append_iff.mp written
      obtain ⟨letter, spelled, rfl, first, named⟩ := List.map_eq_cons_iff.mp opened
      obtain ⟨mark, rfl, ends⟩ := List.map_eq_singleton_iff.mp closed
      rw [eq_of_slashed (by decide) first, eq_of_slashed (by decide) ends]
      have back : spelled.map dotted = name.toList :=
        map_dotted_of_map_slashed (fun character member => (inside character member).2) named
      rw [← String.ofList_toList (s := name), ← back]
      apply Spells.reference
      · rintro rfl
        exact filled (String.toList_inj.mp back.symm)
      · intro character member closed
        have read := List.mem_map_of_mem (f := dotted) member
        rw [back, closed] at read
        exact (inside (dotted ';') read).1 rfl

/-- The spellings of a type are its descriptor with any slashes written as dots. -/
theorem spells_iff {characters : List Char} {type : JavaType} :
    Spells characters type ↔
      type.WellFormed ∧ characters.map slashed = type.descriptorChars :=
  ⟨fun spells => ⟨spells.wellFormed, spells.map_slashed⟩,
    fun ⟨wellFormed, written⟩ => spells_of_map_slashed wellFormed written⟩

theorem map_slashed_descriptorChars (type : JavaType) :
    type.descriptorChars.map slashed = type.descriptorChars := by
  induction type with
  | void => rfl
  | primitive base => exact congrArg ([·]) (slashed_code base)
  | array element ih => exact congrArg ('[' :: ·) ih
  | reference name =>
      rw [descriptorChars, List.map_append, List.map_cons, List.map_map]
      simp [slashed_of_ne]

theorem WellFormed.spells {type : JavaType} (wellFormed : type.WellFormed) :
    Spells type.descriptorChars type :=
  spells_iff.mpr ⟨wellFormed, map_slashed_descriptorChars type⟩

/-- No descriptor is the front of another. -/
theorem WellFormed.eq_of_append {left right : JavaType} {leftRest rightRest : List Char}
    (leftWellFormed : left.WellFormed) (rightWellFormed : right.WellFormed)
    (same : left.descriptorChars ++ leftRest = right.descriptorChars ++ rightRest) :
    left = right ∧ leftRest = rightRest := by
  have read := leftWellFormed.spells.reads leftRest
  rw [same, rightWellFormed.spells.reads rightRest] at read
  obtain ⟨types, rests⟩ := Prod.mk.inj (Except.ok.inj read)
  exact ⟨types.symm, rests.symm⟩

/-- The second text is the first with slashes for the dots of its class name, if it has
one. -/
inductive Respelled : List Char → List Char → Prop
  | unnamed {text : List Char} : '.' ∉ text → Respelled text text
  | named (depth : Nat) {name : List Char} :
      (∀ character ∈ name, character ≠ ';') →
      Respelled (List.replicate depth '[' ++ 'L' :: name ++ [';'])
        (List.replicate depth '[' ++ 'L' :: name.map slashed ++ [';'])

theorem Respelled.bracket {text other : List Char} (respelled : Respelled text other) :
    Respelled ('[' :: text) ('[' :: other) := by
  cases respelled with
  | unnamed plain =>
      apply Respelled.unnamed
      simpa using plain
  | named depth inside => exact .named (depth + 1) inside

theorem Spells.respelled {characters : List Char} {type : JavaType}
    (spells : Spells characters type) : Respelled characters type.descriptorChars := by
  rw [← spells.map_slashed]
  induction spells with
  | void => exact .unnamed (by decide)
  | primitive base =>
      rw [List.map_singleton, slashed_code]
      refine .unnamed ?_
      cases base <;> decide
  | array _ _ ih => exact ih.bracket
  | @reference name _ inside =>
      simpa [slashed_of_ne] using Respelled.named 0 inside

/-- A text is read as a type exactly if the type is well formed and the text is its
descriptor up to dots in the place of slashes; any other text is refused as malformed,
from some place on.  So a type is read back from its descriptor exactly if it is well
formed, and a descriptor that is written anew has changed at most in the dots of its
class name. -/
theorem ofDescriptor_inverts (text : String) (type : JavaType) :
    (ofDescriptor text = .ok type ↔
        type.WellFormed ∧ text.map slashed = type.descriptor) ∧
      ((∃ ending, ofDescriptor text = .error (.malformedDescriptor ending) ∧
          ending.toList <:+ text.toList) ↔
        ∀ other : JavaType, ¬ (other.WellFormed ∧ text.map slashed = other.descriptor)) ∧
      (ofDescriptor type.descriptor = .ok type ↔ type.WellFormed) ∧
      (ofDescriptor text = .ok type → Respelled text.toList type.descriptorChars) := by
  have accepts (text : String) (type : JavaType) : ofDescriptor text = .ok type ↔
      type.WellFormed ∧ text.map slashed = type.descriptor := by
    rw [ofDescriptor_eq_ok_iff, spells_iff, ← String.toList_inj, String.toList_map,
      descriptor, String.toList_ofList]
  refine ⟨accepts text type, ?_, ?_, ?_⟩
  · constructor
    · rintro ⟨ending, refused, _⟩ other described
      rw [(accepts text other).mpr described] at refused
      cases refused
    · intro undescribed
      cases read : ofDescriptor text with
      | ok other => exact absurd ((accepts text other).mp read) (undescribed other)
      | error fault =>
          obtain ⟨ending, rfl, ends⟩ := blames_of_ofDescriptor read
          exact ⟨String.ofList ending, rfl, by rwa [String.toList_ofList]⟩
  · rw [ofDescriptor_eq_ok_iff, descriptor, String.toList_ofList]
    exact ⟨Spells.wellFormed, WellFormed.spells⟩
  · intro read
    exact (ofDescriptor_eq_ok_iff.mp read).respelled

/-- A class name may be written with dots and is written with slashes. -/
theorem ofDescriptor_inverts_dotted :
    ofDescriptor "[Ldemo.Box;" = .ok (.array (.reference "demo.Box")) ∧
      Respelled "[Ldemo.Box;".toList "[Ldemo/Box;".toList := by
  obtain ⟨_, _, _, respelled⟩ :=
    ofDescriptor_inverts "[Ldemo.Box;" (.array (.reference "demo.Box"))
  have read : ofDescriptor "[Ldemo.Box;" = .ok (.array (.reference "demo.Box")) := rfl
  exact ⟨read, respelled read⟩

end JavaType

end TestSynth
