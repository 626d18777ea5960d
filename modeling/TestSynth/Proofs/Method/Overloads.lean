import Mathlib.Data.List.Induction
import TestSynth.Machine.Operation
import TestSynth.Proofs.Descriptor.Grammar
import TestSynth.Proofs.Method.Declaring

/-!
# Overloads

The full name of a method determines its class, its name and its types, although the
descriptors of the argument types stand in it without any separator: each of them can be
read off the front of what follows.  So a machine, which tracks methods by their full
names, takes no overload of a method for another.
-/

namespace TestSynth

/-- What tells a method from the others that a machine knows. -/
structure Overload where
  className : String
  name : String
  argumentTypes : List JavaType
  returnType : JavaType
  deriving DecidableEq

def Method.overload (method : Method) : Overload :=
  { className := method.declaringClass.name
    name := method.name
    argumentTypes := method.arguments.map (·.type)
    returnType := method.returnType }

/-- The method was declared with types that were read from descriptors, and its names
have no marks of a full name. -/
structure Method.Described (method : Method) : Prop where
  declared : ∃ owner name isStatic given returnType thrown,
    Method.declare owner name isStatic given returnType thrown = .ok method ∧
      (∀ item ∈ given, ∃ text, JavaType.ofDescriptor text = .ok item.2) ∧
      ∃ text, JavaType.ofDescriptor text = .ok returnType
  className : Within (· ≠ '(') method.declaringClass.name
  name : Within (fun character => character ≠ '(' ∧ character ≠ '.') method.name

namespace JavaType

theorem wellFormed_of_ofDescriptor {text : String} {type : JavaType}
    (read : ofDescriptor text = .ok type) : type.WellFormed :=
  (ofDescriptor_eq_ok_iff.mp read).wellFormed

/-- No descriptor starts with a closing parenthesis. -/
theorem WellFormed.append_ne {type : JavaType} (wellFormed : type.WellFormed)
    (rest others : List Char) : type.descriptorChars ++ rest ≠ ')' :: others := by
  intro same
  have read := wellFormed.spells.reads rest
  rw [same] at read
  cases read

/-- Descriptors that stand one after the other up to a parenthesis are told apart. -/
theorem eq_of_descriptors {left right : List JavaType} {leftRest rightRest : List Char}
    (leftWellFormed : ∀ type ∈ left, type.WellFormed)
    (rightWellFormed : ∀ type ∈ right, type.WellFormed)
    (same : left.flatMap descriptorChars ++ ')' :: leftRest =
      right.flatMap descriptorChars ++ ')' :: rightRest) :
    left = right ∧ leftRest = rightRest := by
  induction left generalizing right with
  | nil =>
      cases right with
      | nil => exact ⟨rfl, (List.cons.inj same).2⟩
      | cons type types =>
          rw [List.flatMap_cons, List.append_assoc] at same
          exact absurd same.symm ((rightWellFormed type List.mem_cons_self).append_ne _ _)
  | cons type types ih =>
      obtain ⟨first, others⟩ := List.forall_mem_cons.mp leftWellFormed
      rw [List.flatMap_cons, List.append_assoc] at same
      cases right with
      | nil => exact absurd same (first.append_ne _ _)
      | cons otherType otherTypes =>
          obtain ⟨otherFirst, otherOthers⟩ := List.forall_mem_cons.mp rightWellFormed
          rw [List.flatMap_cons, List.append_assoc] at same
          obtain ⟨rfl, later⟩ := first.eq_of_append otherFirst same
          obtain ⟨rfl, ends⟩ := ih others otherOthers later
          exact ⟨rfl, ends⟩

end JavaType

namespace Method

variable {left right method : Method}

theorem Described.argumentTypes (described : method.Described) :
    ∀ type ∈ method.overload.argumentTypes, type.WellFormed := by
  obtain ⟨owner, name, isStatic, given, returnType, thrown, declared, read, _⟩ :=
    described.declared
  intro type member
  rw [overload, types_of_declare declared] at member
  obtain ⟨item, itemGiven, rfl⟩ := List.mem_map.mp member
  obtain ⟨text, textRead⟩ := read item itemGiven
  exact JavaType.wellFormed_of_ofDescriptor textRead

theorem Described.returnType (described : method.Described) :
    method.returnType.WellFormed := by
  obtain ⟨owner, name, isStatic, given, returnType, thrown, declared, _, text, read⟩ :=
    described.declared
  rw [eq_of_declare declared]
  exact JavaType.wellFormed_of_ofDescriptor read

theorem Described.baseName (described : method.Described) :
    ∀ character ∈ method.declaringClass.name.toList ++ '.' :: method.name.toList,
      character ≠ '(' := by
  intro character member
  rcases List.mem_append.mp member with inClass | afterClass
  · exact described.className character inClass
  · rcases List.mem_cons.mp afterClass with rfl | inName
    · decide
    · exact (described.name character inName).1

theorem toList_fullName (method : Method) :
    method.fullName.toList =
      (method.declaringClass.name.toList ++ '.' :: method.name.toList) ++
        '(' :: (method.overload.argumentTypes.flatMap JavaType.descriptorChars ++
          ')' :: method.returnType.descriptorChars) := by
  simp [fullName, baseName, qualifiedName, descriptor, JavaType.descriptor, overload,
    List.flatMap_map, String.toList_join]

theorem overload_eq_of_fullName (leftDescribed : left.Described)
    (rightDescribed : right.Described) (same : left.fullName = right.fullName) :
    left.overload = right.overload := by
  have characters := congrArg String.toList same
  rw [toList_fullName, toList_fullName] at characters
  -- Class names may have dots, so the method name starts after the last one.
  obtain ⟨names, descriptors⟩ :=
    eq_of_first_mark leftDescribed.baseName rightDescribed.baseName characters
  obtain ⟨className, name⟩ := eq_of_last_mark
    (fun character member => (leftDescribed.name character member).2)
    (fun character member => (rightDescribed.name character member).2) names
  obtain ⟨argumentTypes, results⟩ := JavaType.eq_of_descriptors
    leftDescribed.argumentTypes rightDescribed.argumentTypes descriptors
  obtain ⟨returnType, _⟩ := leftDescribed.returnType.eq_of_append rightDescribed.returnType
    (congrArg (· ++ []) results)
  rw [overload, overload, Overload.mk.injEq]
  exact ⟨String.toList_inj.mp className, String.toList_inj.mp name, argumentTypes, returnType⟩

theorem fullName_eq_of_overload (same : left.overload = right.overload) :
    left.fullName = right.fullName := by
  obtain ⟨className, name, argumentTypes, returnType⟩ := Overload.mk.inj same
  apply String.toList_inj.mp
  rw [toList_fullName, toList_fullName, className, name, same, returnType]

end Method

namespace Machine

/-- The method that an operation has a machine track, and how. -/
def Operation.tracked? : Operation → Option (Method × List ArgumentKind)
  | track method => some (method, method.arguments.map fun _ => .symbolic)
  | trackWith method kinds => some (method, kinds)
  | _ => none

/-- How the last of the tracked methods that is the given overload is treated. -/
def lastTreated (overload : Overload) (tracked : List (Method × List ArgumentKind)) :
    Option (List ArgumentKind) :=
  (tracked.reverse.find? fun item => item.1.overload = overload).map (·.2)

theorem lastTreated_concat (overload : Overload) (tracked : List (Method × List ArgumentKind))
    (method : Method) (kinds : List ArgumentKind) :
    lastTreated overload (tracked ++ [(method, kinds)]) =
      if method.overload = overload then some kinds else lastTreated overload tracked := by
  unfold lastTreated
  rw [List.reverse_append, List.reverse_singleton, List.singleton_append]
  split
  · rename_i same
    rw [List.find?_cons_of_pos (by simpa using same)]
    rfl
  · rename_i different
    rw [List.find?_cons_of_neg (by simpa using different)]

variable {method other : Method}

theorem classify_trackWith (described : method.Described) (otherDescribed : other.Described)
    (machine : Machine) (kinds : List ArgumentKind) :
    (machine.trackWith other kinds).classify method =
      if other.overload = method.overload then some kinds else machine.classify method := by
  split
  · rename_i same
    rw [classify, Method.fullName_eq_of_overload same.symm]
    exact overwrite_same ..
  · rename_i different
    apply overwrite_other
    intro same
    exact different (Method.overload_eq_of_fullName otherDescribed described same.symm)

/-- Only tracking changes which methods are tracked. -/
theorem tracked_apply (machine : Machine) (operation : Operation) :
    (operation.apply machine).tracked =
      match operation.tracked? with
      | some (other, kinds) => (machine.trackWith other kinds).tracked
      | none => machine.tracked := by
  cases operation <;> rfl

/-- After any operations a method is treated as the last of its overload that they
tracked. -/
theorem classify_foldl_apply (described : method.Described) (machine : Machine)
    (operations : List Operation)
    (allDescribed : ∀ item ∈ operations.filterMap Operation.tracked?, item.1.Described) :
    (operations.foldl Operation.apply machine).classify method =
      (lastTreated method.overload (operations.filterMap Operation.tracked?)).or
        (machine.classify method) := by
  induction operations using List.reverseRecOn with
  | nil => rfl
  | append_singleton earlier operation ih =>
      rw [List.filterMap_append] at allDescribed ⊢
      have before := ih fun item member => allDescribed item (List.mem_append_left _ member)
      rw [List.foldl_append, List.foldl_cons, List.foldl_nil, classify, tracked_apply]
      cases tracked : operation.tracked? with
      | none =>
          rw [List.filterMap_cons_none tracked, List.filterMap_nil, List.append_nil]
          exact before
      | some item =>
          rcases item with ⟨other, kinds⟩
          have otherDescribed : other.Described :=
            allDescribed (other, kinds) (List.mem_append_right _ (by simp [tracked]))
          rw [List.filterMap_cons_some tracked, List.filterMap_nil, lastTreated_concat]
          refine (classify_trackWith described otherDescribed _ kinds).trans ?_
          rw [before]
          split
          · rfl
          · rfl

/-- Methods whose types come from descriptors have the same full name exactly if they are
the same overload.  So after any operations on a machine a method is classified as the
last of its overload that was tracked, whatever other overloads were tracked. -/
theorem fullName_tells_overloads {left right : Method} (leftDescribed : left.Described)
    (rightDescribed : right.Described) (machine : Machine) (operations : List Operation)
    (allDescribed : ∀ item ∈ operations.filterMap Operation.tracked?, item.1.Described) :
    (left.fullName = right.fullName ↔ left.overload = right.overload) ∧
      (operations.foldl Operation.apply machine).classify right =
        (lastTreated right.overload (operations.filterMap Operation.tracked?)).or
          (machine.classify right) := by
  constructor
  · exact ⟨Method.overload_eq_of_fullName leftDescribed rightDescribed,
      Method.fullName_eq_of_overload⟩
  · exact classify_foldl_apply rightDescribed machine operations allDescribed

/-- A method of a box that takes one thing. -/
def putMethod (type : JavaType) : Method :=
  { declaringClass := { name := "demo.Box", hasDefaultConstructor := true }
    name := "put"
    isStatic := true
    parameters := [{ name := "thing", type := type, ordinal := 0, isReceiver := false }]
    returnType := .void
    thrown := [] }

/-- A parenthesis in a class name does not end the arguments. -/
theorem fullName_tells_overloads_parenthesis :
    (putMethod (.reference "a)V")).fullName ≠ (putMethod (.primitive .int)).fullName ∧
      ([Operation.track (putMethod (.reference "a)V"))].foldl Operation.apply
        Machine.new).classify (putMethod (.primitive .int)) = none := by
  have boxed : (putMethod (.reference "a)V")).Described :=
    { declared := ⟨_, _, true, [("thing", .reference "a)V")], _, _, rfl,
        List.forall_mem_singleton.mpr ⟨"La)V;", rfl⟩, "V", rfl⟩
      className := by decide
      name := by decide }
  have plain : (putMethod (.primitive .int)).Described :=
    { declared := ⟨_, _, true, [("thing", .primitive .int)], _, _, rfl,
        List.forall_mem_singleton.mpr ⟨"I", rfl⟩, "V", rfl⟩
      className := by decide
      name := by decide }
  obtain ⟨names, treated⟩ := fullName_tells_overloads boxed plain Machine.new
    [.track (putMethod (.reference "a)V"))] (List.forall_mem_singleton.mpr boxed)
  have different : (putMethod (.reference "a)V")).overload ≠
      (putMethod (.primitive .int)).overload := by decide
  refine ⟨fun same => different (names.mp same), treated.trans ?_⟩
  decide

end Machine

end TestSynth
