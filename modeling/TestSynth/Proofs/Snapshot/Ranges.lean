import TestSynth.Proofs.Snapshot.Covering

/-!
# Places outside the parameter list

The arguments of a method that was not declared here can have ordinals outside its parameter
list.  A snapshot of such a method is made or refused like any other, unless the check of the
arguments comes to one of them: its place is then looked up where there is none.
-/

namespace TestSynth

namespace Method

/-- The bindings take different places of the parameter list, and none is marked as the
receiver. -/
structure Placed (method : Method) (bound : List Parameter) : Prop where
  unmarked : ∀ parameter ∈ bound, parameter.isReceiver = false
  inRange : ∀ parameter ∈ bound, parameter.ordinal < method.parameters.length
  distinct : (bound.map (·.ordinal)).Nodup

/-- Some of the parameters come first whose places are taken, and then one whose ordinal lies
outside the parameter list. -/
def StraysAmong (method : Method) (taken : List Nat) (parameters : List Parameter)
    (ordinal : Nat) : Prop :=
  ∃ before stray after, parameters = before ++ stray :: after ∧
    (∀ earlier ∈ before, earlier.ordinal ∈ taken) ∧
    stray.ordinal = ordinal ∧ method.parameters.length ≤ ordinal

/-- Among the arguments, all bound up to there, one has an ordinal outside the parameter
list. -/
def StraysAt (method : Method) (bound : List Parameter) (ordinal : Nat) : Prop :=
  method.StraysAmong (bound.map (·.ordinal)) method.arguments ordinal

variable {method : Method} {taken : List Nat} {ordinal : Nat}

theorem not_straysAmong_nil : ¬ method.StraysAmong taken [] ordinal := by
  rintro ⟨before, stray, after, split, _⟩
  exact List.append_ne_nil_of_right_ne_nil before (List.cons_ne_nil stray after) split.symm

/-- The search for a stray parameter ends at the first one, and goes on past a parameter
exactly if its place is taken. -/
theorem straysAmong_cons {parameter : Parameter} {rest : List Parameter} :
    method.StraysAmong taken (parameter :: rest) ordinal ↔
      (parameter.ordinal = ordinal ∧ method.parameters.length ≤ ordinal) ∨
        (parameter.ordinal ∈ taken ∧ method.StraysAmong taken rest ordinal) := by
  constructor
  · rintro ⟨before, stray, after, split, earlier, outside⟩
    cases before with
    | nil =>
        cases split
        exact .inl outside
    | cons first others =>
        cases split
        obtain ⟨here, later⟩ := List.forall_mem_cons.mp earlier
        exact .inr ⟨here, others, stray, after, rfl, later, outside⟩
  · rintro (outside | ⟨here, before, stray, after, rfl, earlier, outside⟩)
    · exact ⟨[], parameter, rest, rfl, fun _ absent => (List.not_mem_nil absent).elim, outside⟩
    · exact ⟨parameter :: before, stray, after, rfl,
        List.forall_mem_cons.mpr ⟨here, earlier⟩, outside⟩

end Method

namespace Snapshot

variable {method : Method} {seen : List Nat} {ordinal count : Nat}

/-- What can come of the construction of a snapshot, whatever the method is. -/
inductive Checked (method : Method) {α : Type} : Except Fault α → Prop
  | contractual {result : Except Fault α} : Contractual result → Checked method result
  | outOfRange (ordinal : Nat) :
      Checked method (.error (.ordinalOutOfRange ordinal method.parameters.length))

theorem Checked.bind {α β : Type} {first : Except Fault α} {next : α → Except Fault β}
    (firstContractual : Checked method first)
    (nextChecked : ∀ value, first = .ok value → Checked method (next value)) :
    Checked method (first >>= next) := by
  cases firstContractual with
  | outOfRange ordinal => exact .outOfRange ordinal
  | contractual contractual =>
      cases contractual with
      | ok value => exact nextChecked value rfl
      | breach breach => exact .contractual (.breach breach)

/-- Either no index was out of range or one was. -/
theorem Checked.contractual_iff {α : Type} {result : Except Fault α}
    (checked : Checked method result) :
    Contractual result ↔
      ¬ ∃ ordinal count, result = .error (.ordinalOutOfRange ordinal count) := by
  constructor
  · rintro contractual ⟨ordinal, count, rfl⟩
    cases contractual
  · intro within
    cases checked with
    | contractual contractual => exact contractual
    | outOfRange ordinal => exact absurd ⟨ordinal, _, rfl⟩ within

theorem checked_checkCaptured (method : Method) (seen : List Nat)
    (parameters : List Parameter) : Checked method (checkCaptured method seen parameters) := by
  induction parameters with
  | nil => exact .contractual (.ok ())
  | cons parameter rest ih =>
      rw [checkCaptured]
      split
      · exact .outOfRange parameter.ordinal
      split
      · exact ih
      · exact .contractual (.breach _)

/-- Places that are taken lie in the parameter list, so the check goes past them. -/
theorem checkCaptured_outOfRange_iff {parameters : List Parameter}
    (inRange : ∀ place ∈ seen, place < method.parameters.length) :
    checkCaptured method seen parameters = .error (.ordinalOutOfRange ordinal count) ↔
      method.StraysAmong seen parameters ordinal ∧ count = method.parameters.length := by
  induction parameters with
  | nil =>
      rw [checkCaptured]
      exact iff_of_false (fun failed => by cases failed)
        fun strays => Method.not_straysAmong_nil strays.1
  | cons parameter rest ih =>
      rw [checkCaptured, Method.straysAmong_cons]
      by_cases outside : method.parameters.length ≤ parameter.ordinal
      · have untaken : parameter.ordinal ∉ seen := fun taken =>
          Nat.not_lt.mpr outside (inRange _ taken)
        rw [if_pos outside]
        constructor
        · intro failed
          cases failed
          exact ⟨.inl ⟨rfl, outside⟩, rfl⟩
        · rintro ⟨⟨rfl, _⟩ | ⟨taken, _⟩, rfl⟩
          · rfl
          · exact absurd taken untaken
      · have inside : ¬ (parameter.ordinal = ordinal ∧ method.parameters.length ≤ ordinal) := by
          rintro ⟨rfl, beyond⟩
          exact outside beyond
        rw [if_neg outside, or_iff_right inside]
        by_cases taken : parameter.ordinal ∈ seen
        · rw [if_pos taken, ih, and_iff_right taken]
        · rw [if_neg taken]
          exact iff_of_false (fun failed => by cases failed) fun strays => taken strays.1.1

theorem placed_iff_exists_bindOrdinals {bound : List Parameter} :
    method.Placed bound ↔ ∃ taken, bindOrdinals method [] bound = .ok taken := by
  constructor
  · rintro ⟨unmarked, inRange, distinct⟩
    refine ⟨_, (bindOrdinals_eq_ok_iff List.nodup_nil).mpr
      ⟨fun parameter member => ⟨unmarked parameter member, inRange parameter member⟩, rfl, ?_⟩⟩
    rwa [List.append_nil, List.nodup_reverse]
  · rintro ⟨taken, bind⟩
    obtain ⟨accepted, rfl, distinct⟩ := (bindOrdinals_eq_ok_iff List.nodup_nil).mp bind
    rw [List.append_nil, List.nodup_reverse] at distinct
    exact {
      unmarked := fun parameter member => (accepted parameter member).1
      inRange := fun parameter member => (accepted parameter member).2
      distinct := distinct }

/-- The check of the arguments finds the places that the bindings take. -/
theorem checkCaptured_outOfRange_iff_straysAt {bound : List Parameter}
    (placed : method.Placed bound) (bind : bindOrdinals method [] bound = .ok seen) :
    checkCaptured method seen method.arguments = .error (.ordinalOutOfRange ordinal count) ↔
      method.StraysAt bound ordinal ∧ count = method.parameters.length := by
  obtain ⟨_, rfl, _⟩ := (bindOrdinals_eq_ok_iff List.nodup_nil).mp bind
  have mem_taken : ∀ place,
      place ∈ (bound.map (·.ordinal)).reverse ++ [] ↔ place ∈ bound.map (·.ordinal) := by
    intro place
    rw [List.append_nil, List.mem_reverse]
  rw [checkCaptured_outOfRange_iff]
  · simp only [Method.StraysAt, Method.StraysAmong, mem_taken]
  · intro place taken
    obtain ⟨parameter, member, rfl⟩ := List.mem_map.mp ((mem_taken place).mp taken)
    exact placed.inRange parameter member

theorem checked_build (method : Method) (symbolic : List (Parameter × Captured))
    (concrete : List (Parameter × Value)) :
    Checked method (build method symbolic concrete) := by
  apply Checked.bind (.contractual (contractual_bindOrdinals [] _))
  intro seen _
  apply Checked.bind (checked_checkCaptured method seen method.arguments)
  intro _ _
  exact .contractual (.ok _)

theorem build_eq_outOfRange_iff {symbolic : List (Parameter × Captured)}
    {concrete : List (Parameter × Value)} :
    build method symbolic concrete = .error (.ordinalOutOfRange ordinal count) ↔
      method.Placed (symbolic.map (·.1) ++ concrete.map (·.1)) ∧
        method.StraysAt (symbolic.map (·.1) ++ concrete.map (·.1)) ordinal ∧
        count = method.parameters.length := by
  constructor
  · intro failed
    rcases bind_eq_error_iff.mp failed with refused | ⟨seen, bind, failed⟩
    · have contractual : Contractual (bindOrdinals method []
          (symbolic.map (·.1) ++ concrete.map (·.1))) := contractual_bindOrdinals [] _
      rw [refused] at contractual
      cases contractual
    · have placed := placed_iff_exists_bindOrdinals.mpr ⟨seen, bind⟩
      rcases bind_eq_error_iff.mp failed with strayed | ⟨_, _, impossible⟩
      · exact ⟨placed, (checkCaptured_outOfRange_iff_straysAt placed bind).mp strayed⟩
      · cases impossible
  · rintro ⟨placed, strays⟩
    obtain ⟨seen, bind⟩ := placed_iff_exists_bindOrdinals.mp placed
    have strayed := (checkCaptured_outOfRange_iff_straysAt placed bind).mpr strays
    exact bind_eq_error_iff.mpr (.inr ⟨seen, bind, bind_eq_error_iff.mpr (.inl strayed)⟩)

/-- A snapshot ends with an index out of range exactly if its bindings are accepted and the
check of the arguments comes to a stray one; otherwise it is made or is a broken contract. -/
theorem build_outOfRange_iff (method : Method) (symbolic : List (Parameter × Captured))
    (concrete : List (Parameter × Value)) :
    let bound := symbolic.map (·.1) ++ concrete.map (·.1)
    (∀ ordinal count,
      build method symbolic concrete = .error (.ordinalOutOfRange ordinal count) ↔
        method.Placed bound ∧ method.StraysAt bound ordinal ∧
          count = method.parameters.length) ∧
    (Contractual (build method symbolic concrete) ↔
      ¬ (method.Placed bound ∧ ∃ ordinal, method.StraysAt bound ordinal)) := by
  refine ⟨fun ordinal count => build_eq_outOfRange_iff, ?_⟩
  rw [(checked_build method symbolic concrete).contractual_iff, not_iff_not]
  constructor
  · rintro ⟨ordinal, count, failed⟩
    obtain ⟨placed, strays, _⟩ := build_eq_outOfRange_iff.mp failed
    exact ⟨placed, ordinal, strays⟩
  · rintro ⟨placed, ordinal, strays⟩
    exact ⟨ordinal, _, build_eq_outOfRange_iff.mpr ⟨placed, strays, rfl⟩⟩

/-- Ordinals as slots of local variables, of which a `long` takes two. -/
def shiftMethod : Method :=
  { declaringClass := { name := "demo.Bits", hasDefaultConstructor := true }
    name := "shift"
    isStatic := true
    parameters := [
      { name := "value", type := .primitive .long, ordinal := 0, isReceiver := false },
      { name := "places", type := .primitive .int, ordinal := 2, isReceiver := false }]
    returnType := .void
    thrown := [] }

/-- A snapshot that leaves out an argument can end with an index out of range. -/
theorem build_stray_argument :
    ¬ ∀ method symbolic concrete, Contractual (build method symbolic concrete) := by
  intro contractual
  have failed : build shiftMethod
      [({ name := "value", type := .primitive .long, ordinal := 0, isReceiver := false },
        .symbolic ⟨0⟩)] [] = .error (.ordinalOutOfRange 2 2) := rfl
  have shift := contractual shiftMethod
    [({ name := "value", type := .primitive .long, ordinal := 0, isReceiver := false },
      .symbolic ⟨0⟩)] []
  rw [failed] at shift
  cases shift

end Snapshot

end TestSynth
