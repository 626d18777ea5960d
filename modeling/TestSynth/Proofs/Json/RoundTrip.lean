import TestSynth.Proofs.Json.Padding

/-!
# Reading documents back

The indented form of a value is read back as the value, with `null` in the place of
every real that is not finite.
-/

namespace TestSynth.Json

open Text

variable {depth : Nat}

mutual

/-- The value as its text has it: reals that are not finite are not in it. -/
def shown : Json → Json
  | .real bits =>
      match realValue bits with
      | .finite _ _ => .real bits
      | _ => .null
  | .array items => .array (shownItems items)
  | .object members => .object (shownMembers members)
  | value => value

def shownItems : List Json → List Json
  | [] => []
  | item :: rest => item.shown :: shownItems rest

def shownMembers : List (String × Json) → List (String × Json)
  | [] => []
  | (name, value) :: rest => (name, value.shown) :: shownMembers rest

end

/-- The values of documents: integers are of 64 bits, and no object has two members of
one name. -/
inductive Readable : Json → Prop
  | null : Readable .null
  | boolean (value : Bool) : Readable (.boolean value)
  | integer {value : Int} : fitsWord value = true → Readable (.integer value)
  | real (bits : UInt64) : Readable (.real bits)
  | string (text : String) : Readable (.string text)
  | array {items : List Json} : (∀ item ∈ items, Readable item) → Readable (.array items)
  | object {members : List (String × Json)} : (members.map (·.1)).Nodup →
      (∀ member ∈ members, Readable member.2) → Readable (.object members)

theorem shown_array (items : List Json) : (Json.array items).shown = .array (items.map shown) := by
  have each : ∀ items, shownItems items = items.map shown := by
    intro items
    induction items with
    | nil => rfl
    | cons item rest ih => rw [shownItems, ih, List.map_cons]
  rw [shown, each]

theorem shown_object (members : List (String × Json)) :
    (Json.object members).shown =
      .object (members.map fun member => (member.1, member.2.shown)) := by
  have each : ∀ members, shownMembers members =
      members.map fun member => (member.1, member.2.shown) := by
    intro members
    induction members with
    | nil => rfl
    | cons member rest ih =>
        rw [shownMembers, ih, List.map_cons]
  rw [shown, each]

theorem indentedItems_eq (depth : Nat) (items : List Json) :
    indentedItems depth items = items.map fun item => lineStart depth ++ item.indented depth := by
  induction items with
  | nil => rfl
  | cons item rest ih => rw [indentedItems, ih, List.map_cons]

theorem indentedMembers_eq (depth : Nat) (members : List (String × Json)) :
    indentedMembers depth members =
      members.map fun member =>
        lineStart depth ++ quote member.1 ++ ": " ++ member.2.indented depth := by
  induction members with
  | nil => rfl
  | cons member rest ih => rw [indentedMembers, ih, List.map_cons]

theorem blanks_lineStart (depth : Nat) : Blanks (lineStart depth).toList := by
  intro character member
  rw [lineStart, String.toList_append] at member
  rcases List.mem_append.mp member with feed | space
  · rw [List.mem_singleton.mp feed]
    rfl
  · rw [String.toList_ofList] at space
    rw [List.eq_of_mem_replicate space]
    rfl

theorem ofMembers_of_nodup {members : List (String × Json)}
    (distinct : (members.map (·.1)).Nodup) : ofMembers members = .object members := by
  rw [ofMembers]
  congr
  induction members with
  | nil => rfl
  | cons member rest ih =>
      rw [List.map_cons, List.nodup_cons] at distinct
      have first : rest.any (·.1 == member.1) = false := by
        apply List.any_eq_false.mpr
        intro other later same
        exact distinct.1 (List.mem_map.mpr ⟨other, later, eq_of_beq same⟩)
      rw [List.foldr_cons, ih distinct.2, first]
      rfl

theorem toList_indented_array (level : Nat) (item : Json) (rest : List Json) :
    ((Json.array (item :: rest)).indented level).toList =
      bracketed '[' ']' (lineStart (level + 1)).toList (lineStart level).toList
        ((item :: rest).map fun item => (item.indented (level + 1)).toList) := by
  have fronts : (indentedItems (level + 1) (item :: rest)).map String.toList =
      ((item :: rest).map fun item => (item.indented (level + 1)).toList).map
        ((lineStart (level + 1)).toList ++ ·) := by
    rw [indentedItems_eq, List.map_map, List.map_map]
    apply List.map_congr_left
    intro item _
    exact String.toList_append
  rw [indented, bracketed, String.toList_append, String.toList_append, String.toList_append,
    String.toList_intercalate, fronts]
  rfl

theorem toList_indented_object (level : Nat) (member : String × Json)
    (rest : List (String × Json)) :
    ((Json.object (member :: rest)).indented level).toList =
      bracketed '\x7b' '\x7d' (lineStart (level + 1)).toList (lineStart level).toList
        ((member :: rest).map fun member =>
          (quote member.1).toList ++ ([':', ' '] ++ (member.2.indented (level + 1)).toList)) := by
  have fronts : (indentedMembers (level + 1) (member :: rest)).map String.toList =
      ((member :: rest).map fun member =>
        (quote member.1).toList ++ ([':', ' '] ++ (member.2.indented (level + 1)).toList)).map
          ((lineStart (level + 1)).toList ++ ·) := by
    rw [indentedMembers_eq, List.map_map, List.map_map]
    apply List.map_congr_left
    intro member _
    simp only [Function.comp_apply, String.toList_append, List.append_assoc]
    rfl
  rw [indented, bracketed, String.toList_append, String.toList_append, String.toList_append,
    String.toList_intercalate, fronts]
  rfl

theorem readsPadded_null (depth : Nat) :
    ReadsPadded (readValue (depth + 1)) "null".toList .null := by
  change ReadsPadded _ ['n', 'u', 'l', 'l'] _
  apply readsPadded_of_start rfl
  intro rest _
  exact (Reader.reads_text "null" rest).bind_pure (Reader.reads_pure _ rest)

theorem readsPadded_boolean (depth : Nat) (value : Bool) :
    ReadsPadded (readValue (depth + 1)) (booleanText value).toList (.boolean value) := by
  cases value with
  | true =>
      change ReadsPadded _ ['t', 'r', 'u', 'e'] _
      apply readsPadded_of_start rfl
      intro rest _
      exact (Reader.reads_text "true" rest).bind_pure (Reader.reads_pure _ rest)
  | false =>
      change ReadsPadded _ ['f', 'a', 'l', 's', 'e'] _
      apply readsPadded_of_start rfl
      intro rest _
      exact (Reader.reads_text "false" rest).bind_pure (Reader.reads_pure _ rest)

theorem readsPadded_real (depth : Nat) (bits : UInt64) :
    ReadsPadded (readValue (depth + 1)) (realNumber bits).toList (Json.real bits).shown := by
  cases value : realValue bits with
  | finite negative magnitude =>
      rw [shown, value]
      apply readsPadded_number
      intro rest ends
      exact reads_real value ends
  | infinite negative =>
      rw [shown, realNumber, value]
      exact readsPadded_null depth
  | notANumber =>
      rw [shown, realNumber, value]
      exact readsPadded_null depth

theorem readsPadded_string (depth : Nat) (text : String) :
    ReadsPadded (readValue (depth + 1)) (quote text).toList (.string text) := by
  have reads := reads_quote text
  rw [toList_quote] at reads ⊢
  apply readsPadded_of_start rfl
  intro rest _
  exact (reads rest).map Json.string

theorem readsPadded_empty_array (depth : Nat) :
    ReadsPadded (readValue (depth + 1)) "[]".toList (.array []) := by
  change ReadsPadded _ ['[', ']'] _
  apply readsPadded_of_start rfl
  intro rest _
  exact (reads_empty_sequence rfl (refuses_bracket depth rest)).map Json.array

theorem readsPadded_empty_object (depth : Nat) :
    ReadsPadded (readValue (depth + 1)) "\x7b\x7d".toList (.object []) := by
  change ReadsPadded _ ['\x7b', '\x7d'] _
  apply readsPadded_of_start rfl
  intro rest _
  exact (reads_empty_sequence rfl (refuses_brace (readValue depth) rest)).map ofMembers

theorem readsPadded_array {level : Nat} {items : List Json} (some : items ≠ [])
    (each : ∀ item ∈ items,
      ReadsPadded (readValue depth) (item.indented (level + 1)).toList item.shown) :
    ReadsPadded (readValue (depth + 1))
      (bracketed '[' ']' (lineStart (level + 1)).toList (lineStart level).toList
        (items.map fun item => (item.indented (level + 1)).toList))
      (.array (items.map shown)) := by
  let pairs := items.map fun item => ((item.indented (level + 1)).toList, item.shown)
  have filled : pairs ≠ [] := List.map_eq_nil_iff.not.mpr some
  have pairsRead : ∀ pair ∈ pairs, ReadsPadded (readValue depth) pair.1 pair.2 := by
    intro pair paired
    obtain ⟨item, member, rfl⟩ := List.mem_map.mp paired
    exact each item member
  apply readsPadded_of_start rfl
  intro rest _
  have read : (readStart depth (Option.some '[')).Reads _ rest _ :=
    (reads_sequence filled pairsRead (blanks_lineStart (level + 1)) (blanks_lineStart level)
      List.mem_cons_self rest).map Json.array
  rwa [List.map_map, List.map_map] at read

theorem readsPadded_object {level : Nat} {members : List (String × Json)} (some : members ≠ [])
    (distinct : (members.map (·.1)).Nodup)
    (each : ∀ member ∈ members,
      ReadsPadded (readValue depth) (member.2.indented (level + 1)).toList member.2.shown) :
    ReadsPadded (readValue (depth + 1))
      (bracketed '\x7b' '\x7d' (lineStart (level + 1)).toList (lineStart level).toList
        (members.map fun member =>
          (quote member.1).toList ++ ([':', ' '] ++ (member.2.indented (level + 1)).toList)))
      (.object (members.map fun member => (member.1, member.2.shown))) := by
  let pairs := members.map fun member =>
    ((quote member.1).toList ++ ([':', ' '] ++ (member.2.indented (level + 1)).toList),
      member.1, member.2.shown)
  have filled : pairs ≠ [] := List.map_eq_nil_iff.not.mpr some
  have pairsRead : ∀ pair ∈ pairs,
      ReadsPadded (readMember (readValue depth)) pair.1 pair.2 := by
    intro pair paired
    obtain ⟨member, given, rfl⟩ := List.mem_map.mp paired
    exact readsPadded_member member.1 (each member given)
  have names : ((members.map fun member => (member.1, member.2.shown)).map (·.1)).Nodup := by
    rw [List.map_map]
    exact distinct
  rw [← ofMembers_of_nodup names]
  apply readsPadded_of_start rfl
  intro rest _
  have read : (readStart depth (Option.some '\x7b')).Reads _ rest _ :=
    (reads_sequence filled pairsRead (blanks_lineStart (level + 1)) (blanks_lineStart level)
      (List.mem_cons_of_mem _ List.mem_cons_self) rest).map ofMembers
  rwa [List.map_map, List.map_map] at read

/-- A value is read from its text wherever it stands in a document. -/
theorem readsPadded_indented {value : Json} (readable : Readable value) (level : Nat)
    {depth : Nat} (enough : (value.indented level).toList.length ≤ depth) :
    ReadsPadded (readValue (depth + 1)) (value.indented level).toList value.shown := by
  induction readable generalizing level depth with
  | null => exact readsPadded_null depth
  | boolean value => exact readsPadded_boolean depth value
  | integer fits =>
      apply readsPadded_number
      intro rest ends
      exact reads_integer _ fits ends
  | real bits => exact readsPadded_real depth bits
  | string text => exact readsPadded_string depth text
  | @array items _ ih =>
      rw [shown_array]
      cases items with
      | nil => exact readsPadded_empty_array depth
      | cons item rest =>
          rw [toList_indented_array] at enough ⊢
          apply readsPadded_array (List.cons_ne_nil item rest)
          intro item member
          obtain ⟨depth, rfl, fits⟩ :=
            exists_bound_of_bracketed (List.mem_map_of_mem member) enough
          exact ih item member (level + 1) fits
  | @object members distinct _ ih =>
      rw [shown_object]
      cases members with
      | nil => exact readsPadded_empty_object depth
      | cons member rest =>
          rw [toList_indented_object] at enough ⊢
          apply readsPadded_object (List.cons_ne_nil member rest) distinct
          intro member given
          obtain ⟨depth, rfl, fits⟩ :=
            exists_bound_of_bracketed (List.mem_map_of_mem given) enough
          apply ih member given (level + 1)
          rw [List.length_append, List.length_append] at fits
          omega

/-- The text of a value determines what is shown of it. -/
theorem ofText?_indented {value : Json} (readable : Readable value) :
    ofText? (value.indented 0) = some value.shown := by
  have read := (readsPadded_indented readable 0 (Nat.le_refl _)).reads [] [] [] blanks_nil
    blanks_nil nofun
  unfold Reader.Reads at read
  rw [List.nil_append, List.append_nil, List.append_nil, String.length_toList] at read
  rw [ofText?, Reader.readAll?, read]

/-- Nothing is written but what is shown. -/
theorem indented_shown {value : Json} (readable : Readable value) (level : Nat) :
    value.shown.indented level = value.indented level := by
  induction readable generalizing level with
  | null => rfl
  | boolean value => rfl
  | integer fits => rfl
  | real bits =>
      cases value : realValue bits with
      | finite negative magnitude => rw [shown, value]
      | infinite negative =>
          rw [shown, value]
          change "null" = realNumber bits
          rw [realNumber, value]
      | notANumber =>
          rw [shown, value]
          change "null" = realNumber bits
          rw [realNumber, value]
  | string text => rfl
  | @array items _ ih =>
      have fronts : indentedItems (level + 1) (items.map shown) =
          indentedItems (level + 1) items := by
        rw [indentedItems_eq, indentedItems_eq, List.map_map]
        apply List.map_congr_left
        intro item member
        exact congrArg _ (ih item member (level + 1))
      rw [shown_array]
      cases items with
      | nil => rfl
      | cons item rest =>
          rw [List.map_cons] at fronts ⊢
          rw [indented, indented, fronts]
  | @object members _ _ ih =>
      have fronts : indentedMembers (level + 1)
            (members.map fun member => (member.1, member.2.shown)) =
          indentedMembers (level + 1) members := by
        rw [indentedMembers_eq, indentedMembers_eq, List.map_map]
        apply List.map_congr_left
        intro member given
        exact congrArg _ (ih member given (level + 1))
      rw [shown_object]
      cases members with
      | nil => rfl
      | cons member rest =>
          rw [List.map_cons] at fronts ⊢
          rw [indented, indented, fronts]

/-- Values have the same text exactly if the same is shown of them. -/
theorem indented_eq_iff {left right : Json} (leftReadable : Readable left)
    (rightReadable : Readable right) :
    left.indented 0 = right.indented 0 ↔ left.shown = right.shown := by
  constructor
  · intro same
    have read := ofText?_indented leftReadable
    rw [same, ofText?_indented rightReadable] at read
    exact (Option.some.inj read).symm
  · intro same
    rw [← indented_shown leftReadable, same, indented_shown rightReadable]

/-- A first member that two objects have in common does not tell their texts apart. -/
theorem indented_cons_eq_iff (level : Nat) (first other : String × Json)
    (left right : List (String × Json)) :
    (Json.object (first :: left)).indented level = (Json.object (first :: right)).indented level ↔
      (Json.object (other :: left)).indented level =
        (Json.object (other :: right)).indented level := by
  simp only [← String.toList_inj, toList_indented_object, bracketed, List.map_cons,
    Reader.intercalate_cons, List.cons.injEq, true_and, List.append_assoc,
    List.append_cancel_left_eq]

end TestSynth.Json
