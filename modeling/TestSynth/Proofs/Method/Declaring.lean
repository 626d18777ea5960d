import Mathlib.Data.List.Nodup
import TestSynth.Method.Declaration
import TestSynth.Proofs.Fault.Propagation

/-!
# Declared methods

A declared method has the receiver, if there is one, and then the given parameters
in their order.  Ordinals are places in the parameter list.
-/

namespace TestSynth

/-- There is one strictly ascending order of given items. -/
theorem eq_of_perm_of_ascending {α : Type} {key : α → Nat} {left right : List α}
    (leftAscending : left.Pairwise fun first second => key first < key second)
    (rightAscending : right.Pairwise fun first second => key first < key second)
    (permuted : left.Perm right) : left = right := by
  refine permuted.eq_of_pairwise ?_ leftAscending rightAscending
  intro first second _ _ before after
  exact absurd before (Nat.lt_asymm after)

/-- Parameters by strictly ascending ordinal. -/
def Parameter.Ascending (parameters : List Parameter) : Prop :=
  parameters.Pairwise fun left right => left.ordinal < right.ordinal

theorem Parameter.Ascending.distinct {parameters : List Parameter}
    (ascending : Ascending parameters) : (parameters.map (·.ordinal)).Nodup :=
  (List.pairwise_map.mpr ascending).imp Nat.ne_of_lt

theorem Parameter.Ascending.eq_of_perm {left right : List Parameter}
    (leftAscending : Ascending left) (rightAscending : Ascending right)
    (permuted : left.Perm right) : left = right :=
  eq_of_perm_of_ascending leftAscending rightAscending permuted

namespace Method

/-- Parameters with consecutive ordinals. -/
def numbered (first : Nat) (given : List (String × JavaType)) : List Parameter :=
  (given.zipIdx first).map fun ((name, type), place) =>
    { name := name, type := type, ordinal := place, isReceiver := false }

theorem ordinals_numbered (first : Nat) (given : List (String × JavaType)) :
    (numbered first given).map (·.ordinal) = List.range' first given.length := by
  unfold numbered
  rw [List.map_map]
  exact List.zipIdx_map_snd first given

@[simp] theorem length_numbered (first : Nat) (given : List (String × JavaType)) :
    (numbered first given).length = given.length := by
  rw [numbered, List.length_map, List.length_zipIdx]

theorem bindParameters_eq_ok {method : String} {bound result : List Parameter}
    {given : List (String × JavaType)}
    (bind : bindParameters method bound given = .ok result) :
    result = bound ++ numbered bound.length given := by
  induction given generalizing bound with
  | nil =>
      cases bind
      exact (List.append_nil result).symm
  | cons item rest ih =>
      rcases item with ⟨name, type⟩
      simp only [bindParameters] at bind
      split at bind
      · cases bind
      · split at bind
        · cases bind
        · rw [ih bind, List.append_assoc, List.length_append, List.length_singleton]
          rfl

/-- No name is bound twice. -/
theorem names_of_bindParameters {method : String} {bound result : List Parameter}
    {given : List (String × JavaType)} (distinct : (bound.map (·.name)).Nodup)
    (bind : bindParameters method bound given = .ok result) :
    (result.map (·.name)).Nodup := by
  induction given generalizing bound with
  | nil =>
      cases bind
      exact distinct
  | cons item rest ih =>
      rcases item with ⟨name, type⟩
      simp only [bindParameters] at bind
      split at bind
      · cases bind
      split at bind
      · cases bind
      · rename_i unbound
        refine ih ?_ bind
        rw [List.map_append, List.map_singleton]
        refine distinct.append (List.nodup_singleton name) ?_
        simpa using unbound

variable {owner : DeclaringClass} {name : String} {isStatic : Bool}
  {given : List (String × JavaType)} {returnType : JavaType} {thrown : List String}
  {method : Method}

theorem eq_of_declare
    (declared : declare owner name isStatic given returnType thrown = .ok method) :
    method =
      { declaringClass := owner
        name := name
        isStatic := isStatic
        parameters := method.parameters
        returnType := returnType
        thrown := thrown } := by
  obtain ⟨parameters, _, same⟩ := bind_eq_ok_iff.mp declared
  cases same
  rfl

theorem parameters_of_declare
    (declared : declare owner name isStatic given returnType thrown = .ok method) :
    method.parameters =
      if isStatic then numbered 0 given else owner.receiver :: numbered 1 given := by
  obtain ⟨parameters, bind, same⟩ := bind_eq_ok_iff.mp declared
  cases same
  rw [bindParameters_eq_ok bind]
  cases isStatic <;> rfl

theorem arguments_of_declare
    (declared : declare owner name isStatic given returnType thrown = .ok method) :
    method.arguments = numbered (if isStatic then 0 else 1) given := by
  have all (first : Nat) :
      (numbered first given).filter (fun parameter => !parameter.isReceiver) =
        numbered first given := by
    apply List.filter_eq_self.mpr
    intro parameter member
    obtain ⟨item, _, rfl⟩ := List.mem_map.mp member
    rfl
  rw [arguments, parameters_of_declare declared]
  cases isStatic
  · exact all 1
  · exact all 0

/-- The parameters are the receiver, if there is one, and the arguments. -/
theorem parameters_eq_append_of_declare
    (declared : declare owner name isStatic given returnType thrown = .ok method) :
    method.parameters = (if method.isStatic then [] else [owner.receiver]) ++ method.arguments := by
  rw [arguments_of_declare declared, parameters_of_declare declared, eq_of_declare declared]
  cases isStatic <;> rfl

theorem types_of_declare
    (declared : declare owner name isStatic given returnType thrown = .ok method) :
    method.arguments.map (·.type) = given.map (·.2) := by
  rw [arguments_of_declare declared, numbered, List.map_map]
  have places := List.zipIdx_map_fst (if isStatic then 0 else 1) given
  rw [← congrArg (List.map (·.2)) places, List.map_map]
  rfl

/-- Ordinals are places. -/
theorem ordinals_of_declare
    (declared : declare owner name isStatic given returnType thrown = .ok method) :
    method.parameters.map (·.ordinal) = List.range method.parameters.length := by
  rw [parameters_of_declare declared, List.range_eq_range']
  cases isStatic with
  | true => simp only [if_true, ordinals_numbered, length_numbered]
  | false =>
      simp only [Bool.false_eq_true, if_false, List.map_cons, ordinals_numbered,
        List.length_cons, length_numbered]
      rfl

theorem ascending_of_declare
    (declared : declare owner name isStatic given returnType thrown = .ok method) :
    Parameter.Ascending method.parameters := by
  have ordinals := List.pairwise_lt_range (n := method.parameters.length)
  rw [← ordinals_of_declare declared, List.pairwise_map] at ordinals
  exact ordinals

/-- The parameters have different names. -/
theorem names_of_declare
    (declared : declare owner name isStatic given returnType thrown = .ok method) :
    (method.parameters.map (·.name)).Nodup := by
  obtain ⟨parameters, bind, same⟩ := bind_eq_ok_iff.mp declared
  cases same
  refine names_of_bindParameters ?_ bind
  cases isStatic
  · exact List.nodup_singleton owner.receiver.name
  · exact List.nodup_nil

/-- The arguments have different ordinals. -/
theorem distinct_of_declare
    (declared : declare owner name isStatic given returnType thrown = .ok method) :
    (method.arguments.map (·.ordinal)).Nodup :=
  Parameter.Ascending.distinct ((ascending_of_declare declared).filter _)

theorem argumentNames_of_declare
    (declared : declare owner name isStatic given returnType thrown = .ok method) :
    (method.arguments.map (·.name)).Nodup :=
  (names_of_declare declared).sublist (List.filter_sublist.map _)

/-- An ordinal within the parameter list is that of an argument or the receiver's. -/
theorem lt_length_iff_of_declare
    (declared : declare owner name isStatic given returnType thrown = .ok method)
    {ordinal : Nat} :
    ordinal < method.parameters.length ↔
      ordinal ∈ method.arguments.map (·.ordinal) ∨
        (method.isStatic = false ∧ ordinal = 0) := by
  rw [← List.mem_range, ← ordinals_of_declare declared,
    parameters_eq_append_of_declare declared, List.map_append, List.mem_append, or_comm]
  cases method.isStatic <;> simp [DeclaringClass.receiver]

/-- The receiver's ordinal is not that of an argument. -/
theorem zero_notMem_of_declare
    (declared : declare owner name isStatic given returnType thrown = .ok method)
    (instance_ : method.isStatic = false) : 0 ∉ method.arguments.map (·.ordinal) := by
  have ordinals := (ascending_of_declare declared).distinct
  rw [parameters_eq_append_of_declare declared, instance_] at ordinals
  exact (List.nodup_cons.mp ordinals).1

end Method

end TestSynth
