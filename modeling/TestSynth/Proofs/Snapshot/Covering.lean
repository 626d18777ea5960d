import Mathlib.Data.List.Nodup
import Mathlib.Data.List.Perm.Lattice
import TestSynth.Proofs.Method.Declaring
import TestSynth.Synthesis.Snapshot

/-!
# Bindings of snapshots

A snapshot is made exactly if its bindings take different places of the parameter list,
those of the arguments among them.  In a declared method the only other place is the
receiver's, which a binding can take that is not marked as the receiver.
-/

namespace TestSynth

namespace Method

/-- The bindings take different places of the parameter list, those of the arguments among
them, and none is marked as the receiver. -/
structure Occupied (method : Method) (bound : List Parameter) : Prop where
  unmarked : ∀ parameter ∈ bound, parameter.isReceiver = false
  inRange : ∀ parameter ∈ bound, parameter.ordinal < method.parameters.length
  distinct : (bound.map (·.ordinal)).Nodup
  complete : ∀ parameter ∈ method.arguments, parameter.ordinal ∈ bound.map (·.ordinal)

/-- The bindings take the place of each argument once, and at most the receiver's place
besides; none is marked as the receiver. -/
structure Covered (method : Method) (bound : List Parameter) : Prop where
  unmarked : ∀ parameter ∈ bound, parameter.isReceiver = false
  ordinals : (bound.map (·.ordinal)).Perm (method.arguments.map (·.ordinal)) ∨
    (method.isStatic = false ∧
      (bound.map (·.ordinal)).Perm (0 :: method.arguments.map (·.ordinal)))

variable {owner : DeclaringClass} {name : String} {isStatic : Bool}
  {given : List (String × JavaType)} {returnType : JavaType} {thrown : List String}
  {method : Method} {bound : List Parameter}

theorem Occupied.covered (occupied : method.Occupied bound)
    (declared : declare owner name isStatic given returnType thrown = .ok method) :
    method.Covered bound := by
  have places : ∀ ordinal ∈ bound.map (·.ordinal),
      ordinal ∈ method.arguments.map (·.ordinal) ∨
        (method.isStatic = false ∧ ordinal = 0) := by
    intro ordinal taken
    obtain ⟨parameter, member, rfl⟩ := List.mem_map.mp taken
    exact (lt_length_iff_of_declare declared).mp (occupied.inRange parameter member)
  have complete : ∀ ordinal ∈ method.arguments.map (·.ordinal),
      ordinal ∈ bound.map (·.ordinal) := by
    intro ordinal argument
    obtain ⟨parameter, member, rfl⟩ := List.mem_map.mp argument
    exact occupied.complete parameter member
  refine ⟨occupied.unmarked, ?_⟩
  by_cases receiver : method.isStatic = false ∧ 0 ∈ bound.map (·.ordinal)
  · obtain ⟨instance_, taken⟩ := receiver
    refine .inr ⟨instance_, ?_⟩
    apply (List.perm_ext_iff_of_nodup occupied.distinct (List.nodup_cons.mpr
      ⟨zero_notMem_of_declare declared instance_, distinct_of_declare declared⟩)).mpr
    intro ordinal
    rw [List.mem_cons]
    constructor
    · intro member
      exact (places ordinal member).symm.imp_left And.right
    · rintro (rfl | argument)
      · exact taken
      · exact complete ordinal argument
  · refine .inl ?_
    apply (List.perm_ext_iff_of_nodup occupied.distinct (distinct_of_declare declared)).mpr
    intro ordinal
    refine ⟨?_, complete ordinal⟩
    intro member
    refine (places ordinal member).resolve_right ?_
    rintro ⟨instance_, rfl⟩
    exact receiver ⟨instance_, member⟩

/-- Unmarked bindings occupy a method if the places they take do. -/
theorem occupied_of_perm {places : List Nat}
    (unmarked : ∀ parameter ∈ bound, parameter.isReceiver = false)
    (taken : (bound.map (·.ordinal)).Perm places) (distinct : places.Nodup)
    (inRange : ∀ ordinal ∈ places, ordinal < method.parameters.length)
    (complete : ∀ ordinal ∈ method.arguments.map (·.ordinal), ordinal ∈ places) :
    method.Occupied bound := by
  refine ⟨unmarked, ?_, taken.nodup_iff.mpr distinct, ?_⟩
  · intro parameter member
    exact inRange _ (taken.mem_iff.mp (List.mem_map_of_mem member))
  · intro parameter member
    exact taken.mem_iff.mpr (complete _ (List.mem_map_of_mem member))

theorem Covered.occupied (covered : method.Covered bound)
    (declared : declare owner name isStatic given returnType thrown = .ok method) :
    method.Occupied bound := by
  have distinct := distinct_of_declare declared
  obtain ⟨unmarked, ordinals | ⟨instance_, ordinals⟩⟩ := covered
  · apply occupied_of_perm unmarked ordinals distinct
    · intro ordinal argument
      exact (lt_length_iff_of_declare declared).mpr (.inl argument)
    · exact fun _ argument => argument
  · apply occupied_of_perm unmarked ordinals
      (List.nodup_cons.mpr ⟨zero_notMem_of_declare declared instance_, distinct⟩)
    · intro ordinal place
      apply (lt_length_iff_of_declare declared).mpr
      exact (List.mem_cons.mp place).symm.imp_right (⟨instance_, ·⟩)
    · exact fun _ argument => List.mem_cons_of_mem 0 argument

end Method

namespace Snapshot

variable {method : Method} {symbolic : List (Parameter × Captured)}
  {concrete : List (Parameter × Value)} {snapshot : Snapshot}

/-- The bindings are accepted if they are in range and take new places. -/
theorem bindOrdinals_eq_ok_iff {seen result : List Nat} {bound : List Parameter}
    (distinct : seen.Nodup) :
    bindOrdinals method seen bound = .ok result ↔
      (∀ parameter ∈ bound, parameter.isReceiver = false ∧
        parameter.ordinal < method.parameters.length) ∧
      result = (bound.map (·.ordinal)).reverse ++ seen ∧ result.Nodup := by
  induction bound generalizing seen with
  | nil =>
      constructor
      · intro bind
        cases bind
        exact ⟨fun _ absent => (List.not_mem_nil absent).elim, rfl, distinct⟩
      · rintro ⟨_, rfl, _⟩
        rfl
  | cons parameter rest ih =>
      rw [List.map_cons, List.reverse_cons, List.append_assoc, List.singleton_append,
        List.forall_mem_cons]
      simp only [bindOrdinals]
      split
      · rename_i refused
        constructor
        · intro bind
          cases bind
        · rintro ⟨⟨⟨unmarked, inRange⟩, _⟩, rfl, resultDistinct⟩
          have unseen := (List.nodup_cons.mp resultDistinct.of_append_right).1
          simp [unmarked, unseen, Nat.not_le.mpr inRange] at refused
      · rename_i accepted
        simp only [Bool.or_eq_true, decide_eq_true_eq, not_or, Bool.not_eq_true,
          Nat.not_le] at accepted
        obtain ⟨taken, unseen⟩ := accepted
        rw [ih (List.nodup_cons.mpr ⟨unseen, distinct⟩), and_iff_right taken]

/-- Each argument whose place is in range must have its place taken. -/
theorem checkCaptured_eq_ok_iff {seen : List Nat} {parameters : List Parameter}
    (inRange : ∀ parameter ∈ parameters, parameter.ordinal < method.parameters.length) :
    checkCaptured method seen parameters = .ok () ↔
      ∀ parameter ∈ parameters, parameter.ordinal ∈ seen := by
  induction parameters with
  | nil => simp [checkCaptured]
  | cons parameter rest ih =>
      obtain ⟨first, others⟩ := List.forall_mem_cons.mp inRange
      rw [List.forall_mem_cons, checkCaptured, if_neg (Nat.not_le.mpr first)]
      split
      · rename_i taken
        rw [ih others, and_iff_right taken]
      · rename_i missing
        exact iff_of_false (fun checked => by cases checked) fun all => missing all.1

theorem contractual_bindOrdinals (seen : List Nat) (bound : List Parameter) :
    Contractual (bindOrdinals method seen bound) := by
  induction bound generalizing seen with
  | nil => exact .ok seen
  | cons parameter rest ih =>
      unfold bindOrdinals
      split
      · exact .breach _
      · exact ih _

theorem contractual_checkCaptured {parameters : List Parameter} (seen : List Nat)
    (inRange : ∀ parameter ∈ parameters, parameter.ordinal < method.parameters.length) :
    Contractual (checkCaptured method seen parameters) := by
  induction parameters with
  | nil => exact .ok ()
  | cons parameter rest ih =>
      obtain ⟨first, others⟩ := List.forall_mem_cons.mp inRange
      rw [checkCaptured, if_neg (Nat.not_le.mpr first)]
      split
      · exact ih others
      · exact .breach _

theorem contractual_build
    (inRange : ∀ parameter ∈ method.arguments, parameter.ordinal < method.parameters.length) :
    Contractual (build method symbolic concrete) := by
  apply Contractual.bind (contractual_bindOrdinals [] _)
  intro seen _
  apply Contractual.bind (contractual_checkCaptured seen inRange)
  intro _ _
  exact .ok _

theorem build_eq_ok (built : build method symbolic concrete = .ok snapshot) :
    snapshot =
        { method := method, symbolic := symbolic, concrete := concrete } ∧
      ((symbolic.map (·.1) ++ concrete.map (·.1)).map (·.ordinal)).Nodup := by
  obtain ⟨seen, bind, built⟩ := bind_eq_ok_iff.mp built
  obtain ⟨_, _, built⟩ := bind_eq_ok_iff.mp built
  cases built
  obtain ⟨_, rfl, distinct⟩ := (bindOrdinals_eq_ok_iff List.nodup_nil).mp bind
  rw [List.append_nil, List.nodup_reverse] at distinct
  exact ⟨rfl, distinct⟩

theorem exists_build_iff
    (inRange : ∀ parameter ∈ method.arguments, parameter.ordinal < method.parameters.length) :
    (∃ snapshot, build method symbolic concrete = .ok snapshot) ↔
      method.Occupied (symbolic.map (·.1) ++ concrete.map (·.1)) := by
  constructor
  · rintro ⟨snapshot, built⟩
    obtain ⟨seen, bind, built⟩ := bind_eq_ok_iff.mp built
    obtain ⟨_, checked, _⟩ := bind_eq_ok_iff.mp built
    obtain ⟨taken, rfl, distinct⟩ := (bindOrdinals_eq_ok_iff List.nodup_nil).mp bind
    have captured := (checkCaptured_eq_ok_iff inRange).mp checked
    simp only [List.append_nil, List.nodup_reverse, List.mem_reverse] at distinct captured
    exact {
      unmarked := fun parameter member => (taken parameter member).1
      inRange := fun parameter member => (taken parameter member).2
      distinct := distinct
      complete := captured }
  · rintro ⟨unmarked, taken, distinct, complete⟩
    refine ⟨_, bind_eq_ok_iff.mpr ⟨_, (bindOrdinals_eq_ok_iff List.nodup_nil).mpr
      ⟨fun parameter member => ⟨unmarked parameter member, taken parameter member⟩, rfl, ?_⟩,
      bind_eq_ok_iff.mpr ⟨(), (checkCaptured_eq_ok_iff inRange).mpr ?_, rfl⟩⟩⟩
    · rwa [List.append_nil, List.nodup_reverse]
    · simpa only [List.append_nil, List.mem_reverse] using complete

/-- A snapshot of a declared method is made exactly if its bindings cover the arguments of
the method, and keeps what was given; anything else is a broken contract. -/
theorem build_covers {owner : DeclaringClass} {name : String} {isStatic : Bool}
    {parameters : List (String × JavaType)} {returnType : JavaType} {thrown : List String}
    (declared : Method.declare owner name isStatic parameters returnType thrown = .ok method)
    (symbolic : List (Parameter × Captured)) (concrete : List (Parameter × Value)) :
    (build method symbolic concrete =
        .ok { method := method, symbolic := symbolic, concrete := concrete } ↔
      method.Covered (symbolic.map (·.1) ++ concrete.map (·.1))) ∧
    ((∃ breach, build method symbolic concrete = .error (.contract breach)) ↔
      ¬ method.Covered (symbolic.map (·.1) ++ concrete.map (·.1))) := by
  have inRange : ∀ parameter ∈ method.arguments,
      parameter.ordinal < method.parameters.length := by
    intro parameter member
    exact (Method.lt_length_iff_of_declare declared).mpr (.inl (List.mem_map_of_mem member))
  have accepts : (∃ snapshot, build method symbolic concrete = .ok snapshot) ↔
      method.Covered (symbolic.map (·.1) ++ concrete.map (·.1)) :=
    (exists_build_iff inRange).trans
      ⟨(Method.Occupied.covered · declared), (Method.Covered.occupied · declared)⟩
  refine ⟨?_, (contractual_build inRange).exists_breach_iff accepts⟩
  rw [← accepts]
  constructor
  · intro built
    exact ⟨_, built⟩
  · rintro ⟨snapshot, built⟩
    rwa [(build_eq_ok built).1] at built

def clampMethod : Method :=
  { declaringClass := { name := "demo.Range", hasDefaultConstructor := true }
    name := "clamp"
    isStatic := false
    parameters := [
      { name := "this", type := .reference "demo.Range", ordinal := 0, isReceiver := true },
      { name := "x", type := .primitive .int, ordinal := 1, isReceiver := false }]
    returnType := .void
    thrown := [] }

/-- A binding of the given name and place. -/
def clampBinding (name : String) (ordinal : Nat) : Parameter :=
  { name := name, type := .primitive .int, ordinal := ordinal, isReceiver := false }

/-- The argument may not be left out, and not be bound twice. -/
theorem build_covers_clamp :
    build clampMethod [(clampBinding "x" 1, .symbolic ⟨0⟩)] [] =
        .ok { method := clampMethod
              symbolic := [(clampBinding "x" 1, .symbolic ⟨0⟩)]
              concrete := [] } ∧
      (∃ breach, build clampMethod [] [] = .error (.contract breach)) ∧
      ∃ breach,
        build clampMethod [(clampBinding "x" 1, .symbolic ⟨0⟩)]
          [(clampBinding "x" 1, .scalar (.integer 3))] = .error (.contract breach) := by
  have declared : Method.declare { name := "demo.Range", hasDefaultConstructor := true }
      "clamp" false [("x", .primitive .int)] .void [] = .ok clampMethod := rfl
  have symbolic := build_covers declared [(clampBinding "x" 1, .symbolic ⟨0⟩)] []
  have missing := build_covers declared [] []
  have twice := build_covers declared [(clampBinding "x" 1, .symbolic ⟨0⟩)]
    [(clampBinding "x" 1, .scalar (.integer 3))]
  refine ⟨symbolic.1.mpr ⟨by decide, .inl (.refl _)⟩, missing.2.mpr ?_, twice.2.mpr ?_⟩
  · rintro ⟨_, ordinals⟩
    revert ordinals
    decide
  · rintro ⟨_, ordinals⟩
    revert ordinals
    decide

/-- A binding that is not marked as the receiver is accepted in the receiver's place. -/
theorem build_receiver_place :
    Method.declare { name := "demo.Range", hasDefaultConstructor := true }
        "clamp" false [("x", .primitive .int)] .void [] = .ok clampMethod ∧
      ¬ ((∃ snapshot,
          build clampMethod [] [(clampBinding "x" 1, .scalar (.integer 3)),
            (clampBinding "ghost" 0, .scalar (.integer 1))] = .ok snapshot) ↔
        (∀ parameter ∈ [clampBinding "x" 1, clampBinding "ghost" 0],
          parameter.isReceiver = false) ∧
        ([clampBinding "x" 1, clampBinding "ghost" 0].map (·.ordinal)).Perm
          (clampMethod.arguments.map (·.ordinal))) := by
  refine ⟨rfl, ?_⟩
  intro accepts
  have covers := (accepts.mp ⟨_, rfl⟩).2
  exact absurd covers.length_eq (by decide)

end Snapshot

end TestSynth
