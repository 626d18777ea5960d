import TestSynth.Proofs.Resolution.Reading

/-!
# Verdicts on captured values

Whether a slot can be resolved shows in the machine as it is before: a captured value is
resolvable, or it is of a kind that is not supported, or it breaks a contract.  The defaults
that are fixed on the way make no difference, since they serve every slot of their type.
-/

namespace TestSynth

/-- The scalar stands for a value of the type: it is of the type's family or an integer. -/
def Scalar.Serves (base : Primitive) (value : Scalar) : Prop :=
  value.family = base.family ∨ value.family = .integer

/-- The solution, if there is one, stands for a value of the type. -/
def Solution.Serves (base : Primitive) (solution : Solution) : Prop :=
  ∀ value, solution.scalar? = some value → value.Serves base

namespace Machine

/-- The element stands for a value of the type: through its variable if it has one, else by
what is stored. -/
def ServesSlot (machine : Machine) (base : Primitive) (element : Slot) : Prop :=
  match element.source with
  | some source => (machine.solutions source).Serves base
  | none => element.value.Serves base

/-- Captured values that stand for a value of their declared type. -/
inductive Resolvable (machine : Machine) (symbolicArrays : Bool) :
    JavaType → Captured → Prop
  | concrete {base : Primitive} {value : Scalar} :
      value.Serves base →
      Resolvable machine symbolicArrays (.primitive base) (.concrete value)
  | symbolic {base : Primitive} {source : Variable} :
      (machine.solutions source).Serves base →
      Resolvable machine symbolicArrays (.primitive base) (.symbolic source)
  | array {base : Primitive} {handle : ArrayHandle} {slots : List Slot} :
      machine.heap handle = some { element := .primitive base, slots := slots } →
      (∀ element ∈ slots, machine.ServesSlot base element) →
      Resolvable machine symbolicArrays (.array (.primitive base)) (.array handle)
  | symbolicArray {base : Primitive} {source : Variable} :
      symbolicArrays = true →
      (∀ solutions, machine.arraySolutions source = some solutions →
        ∀ solution ∈ solutions, solution.Serves base) →
      Resolvable machine symbolicArrays (.array (.primitive base)) (.symbolicArray source)

/-- Captured values of a kind that is not supported, with the fault that says so. -/
inductive Unsupported (machine : Machine) (symbolicArrays : Bool) (slot : String) :
    JavaType → Captured → Fault → Prop
  | declared {element : JavaType} {captured : Captured} :
      (∀ base, element ≠ .primitive base) →
      Unsupported machine symbolicArrays slot (.array element) captured
        (.unsupportedArray slot (.declared (.array element)))
  | held {base : Primitive} {handle : ArrayHandle} {array : HeapArray} :
      machine.heap handle = some array →
      (∀ held, array.element ≠ .primitive held) →
      Unsupported machine symbolicArrays slot (.array (.primitive base)) (.array handle)
        (.unsupportedArray slot (.held array.element))
  | disabled {base : Primitive} {source : Variable} :
      symbolicArrays = false →
      Unsupported machine symbolicArrays slot (.array (.primitive base))
        (.symbolicArray source) (.symbolicArraysDisabled slot)

variable {machine : Machine} {symbolicArrays : Bool} {slot : String} {base : Primitive}
  {handle : ArrayHandle} {source : Variable} {fault : Fault}

theorem resolvable_array_iff :
    machine.Resolvable symbolicArrays (.array (.primitive base)) (.array handle) ↔
      ∃ slots, machine.heap handle = some { element := .primitive base, slots := slots } ∧
        ∀ element ∈ slots, machine.ServesSlot base element := by
  constructor
  · rintro (_ | _ | ⟨found, serves⟩ | _)
    exact ⟨_, found, serves⟩
  · rintro ⟨slots, found, serves⟩
    exact .array found serves

theorem resolvable_symbolicArray_iff :
    machine.Resolvable symbolicArrays (.array (.primitive base)) (.symbolicArray source) ↔
      symbolicArrays = true ∧ ∀ solutions, machine.arraySolutions source = some solutions →
        ∀ solution ∈ solutions, solution.Serves base := by
  constructor
  · rintro (_ | _ | _ | ⟨supported, serve⟩)
    exact ⟨supported, serve⟩
  · rintro ⟨supported, serve⟩
    exact .symbolicArray supported serve

theorem not_unsupported_primitive {captured : Captured} :
    ¬ machine.Unsupported symbolicArrays slot (.primitive base) captured fault := by
  rintro ⟨⟩

theorem unsupported_array_iff :
    machine.Unsupported symbolicArrays slot (.array (.primitive base)) (.array handle) fault ↔
      ∃ array, machine.heap handle = some array ∧
        (∀ held, array.element ≠ .primitive held) ∧
        fault = .unsupportedArray slot (.held array.element) := by
  constructor
  · rintro (⟨different⟩ | ⟨found, different⟩ | _)
    · exact absurd rfl (different base)
    · exact ⟨_, found, different, rfl⟩
  · rintro ⟨array, found, different, rfl⟩
    exact .held found different

theorem unsupported_symbolicArray_iff :
    machine.Unsupported symbolicArrays slot (.array (.primitive base)) (.symbolicArray source)
        fault ↔
      symbolicArrays = false ∧ fault = .symbolicArraysDisabled slot := by
  constructor
  · rintro (⟨different⟩ | _ | ⟨disabled⟩)
    · exact absurd rfl (different base)
    · exact ⟨disabled, rfl⟩
  · rintro ⟨disabled, rfl⟩
    exact .disabled disabled

theorem unsupported_declared_iff {element : JavaType} {captured : Captured}
    (different : ∀ base, element ≠ .primitive base) :
    machine.Unsupported symbolicArrays slot (.array element) captured fault ↔
      fault = .unsupportedArray slot (.declared (.array element)) := by
  constructor
  · rintro (_ | _ | _)
    · rfl
    · exact absurd rfl (different _)
    · exact absurd rfl (different _)
  · rintro rfl
    exact .declared different

end Machine

theorem Scalar.exists_coerce?_iff {base : Primitive} {value : Scalar} :
    (∃ content, value.coerce? base = some content) ↔ value.Serves base := by
  unfold Serves coerce?
  cases value <;> cases base.family <;> simp [toFamily?, Scalar.family]

theorem Family.serves_defaultSolution (base : Primitive) :
    base.family.defaultSolution.Serves base := by
  intro value same
  cases given : base.family with
  | real =>
      rw [given] at same
      cases same
      exact .inl given.symm
  | integer | boolean =>
      rw [given] at same
      cases same
      exact .inr rfl

/-- A default that is fixed for a type changes nothing for other readings as that type. -/
theorem Machine.serves_assign_iff {machine : Machine} {base : Primitive}
    {source other : Variable} (free : machine.solutions source = .undefined) :
    ((machine.assign source base.family.defaultSolution).solutions other).Serves base ↔
      (machine.solutions other).Serves base := by
  by_cases same : other = source
  · subst same
    have fixed : (machine.assign other base.family.defaultSolution).solutions other =
        base.family.defaultSolution := overwrite_same _ _ _
    rw [fixed, free]
    exact iff_of_true (Family.serves_defaultSolution base) (fun _ absent => by cases absent)
  · have kept : (machine.assign source base.family.defaultSolution).solutions other =
        machine.solutions other := overwrite_other _ _ same
    rw [kept]

namespace Resolution

variable {α β : Type} {world after : World} {slot : String} {base : Primitive}

/-- The result is a value exactly if this is accepted, a recoverable fault exactly if that
fault is the one due, and otherwise a broken contract. -/
structure Verdict (accepted : Prop) (due : Fault → Prop) (result : Except Fault α) : Prop where
  value : (∃ value, result = .ok value) ↔ accepted
  recoverable : ∀ fault, (result = .error fault ∧ fault.isRecoverable = true) ↔ due fault
  contract : (∃ breach, result = .error (.contract breach)) ↔
    ¬ accepted ∧ ∀ fault, ¬ due fault

namespace Verdict

variable {accepted : Prop} {due : Fault → Prop} {result : Except Fault α} {fault : Fault}

theorem of_contractual (contractual : Contractual result)
    (accepts : (∃ value, result = .ok value) ↔ accepted) (none : ∀ fault, ¬ due fault) :
    Verdict accepted due result := by
  refine ⟨accepts, ?_, ?_⟩
  · intro fault
    refine iff_of_false ?_ (none fault)
    rintro ⟨rfl, recoverable⟩
    cases contractual
    cases recoverable
  · rw [and_iff_left none]
    exact contractual.exists_breach_iff accepts

theorem of_due (recoverable : fault.isRecoverable = true) (refused : ¬ accepted)
    (only : ∀ other, due other ↔ other = fault) :
    Verdict accepted due (.error fault : Except Fault α) := by
  refine ⟨iff_of_false ?_ refused, ?_, iff_of_false ?_ ?_⟩
  · rintro ⟨_, ⟨⟩⟩
  · intro other
    rw [only]
    constructor
    · rintro ⟨⟨⟩, _⟩
      rfl
    · rintro rfl
      exact ⟨rfl, recoverable⟩
  · rintro ⟨breach, ⟨⟩⟩
    cases recoverable
  · rintro ⟨_, none⟩
    exact none fault ((only fault).mpr rfl)

end Verdict

/-- The resolution ends with a value exactly if this is accepted, and otherwise with a broken
contract. -/
def Accepts (resolution : Resolution α) (world : World) (accepted : Prop) : Prop :=
  ∃ result after, resolution.Ends world result after ∧ Contractual result ∧
    ((∃ value, result = .ok value) ↔ accepted)

theorem accepts_machine_bind_iff {body : Machine → Resolution α} {accepted : Prop} :
    Accepts (machine >>= body) world accepted ↔ Accepts (body world.machine) world accepted :=
  Iff.rfl

namespace Accepts

variable {accepted other : Prop}

theorem ofExcept {given : Except Fault α} (contractual : Contractual given)
    (accepts : (∃ value, given = .ok value) ↔ accepted) :
    Accepts (ofExcept given) world accepted :=
  ⟨given, world, ends_ofExcept_iff.mpr ⟨rfl, rfl⟩, contractual, accepts⟩

theorem throw {breach : Breach} (refused : ¬ accepted) :
    Accepts (MonadExcept.throw (.contract breach) : Resolution α) world accepted := by
  refine ⟨_, world, ends_throw_iff.mpr ⟨rfl, rfl⟩, .breach breach, iff_of_false ?_ refused⟩
  rintro ⟨_, ⟨⟩⟩

theorem congr {resolution : Resolution α} (accepts : Accepts resolution world accepted)
    (same : accepted ↔ other) : Accepts resolution world other := by
  rwa [← propext same]

theorem bind {first : Resolution α} {next : α → Resolution β}
    (firstAccepts : Accepts first world accepted)
    (nextAccepts : ∀ value after, first.Ends world (.ok value) after →
      Accepts (next value) after other) :
    Accepts (first >>= next) world (accepted ∧ other) := by
  obtain ⟨given, middle, ended, contractual, accepts⟩ := firstAccepts
  cases contractual with
  | ok value =>
      obtain ⟨result, after, nextEnded, nextContractual, nextIff⟩ :=
        nextAccepts value middle ended
      refine ⟨result, after, ends_bind_iff.mpr (.inl ⟨value, middle, ended, nextEnded⟩),
        nextContractual, ?_⟩
      rw [nextIff, and_iff_right (accepts.mp ⟨value, rfl⟩)]
  | breach breach =>
      refine ⟨_, middle, ends_bind_iff.mpr (.inr ⟨_, ended, rfl⟩), .breach breach,
        iff_of_false ?_ ?_⟩
      · rintro ⟨_, ⟨⟩⟩
      · rintro ⟨holds, _⟩
        obtain ⟨_, ⟨⟩⟩ := accepts.mpr holds

theorem map {resolution : Resolution α} (change : α → β)
    (accepts : Accepts resolution world accepted) :
    Accepts (change <$> resolution) world accepted := by
  obtain ⟨given, after, ended, contractual, iff⟩ := accepts
  refine ⟨given.map change, after, ends_map_iff.mpr ⟨given, ended, rfl⟩, contractual.map, ?_⟩
  rw [← iff]
  constructor
  · rintro ⟨_, same⟩
    obtain ⟨value, ok, _⟩ := map_eq_ok_iff.mp same
    exact ⟨value, ok⟩
  · rintro ⟨value, rfl⟩
    exact ⟨change value, rfl⟩

end Accepts

theorem contractual_coerce (value : Scalar) : Contractual (coerce slot base value) := by
  unfold coerce
  split
  · exact .ok _
  · exact .breach _

theorem exists_coerce_iff {value : Scalar} :
    (∃ content, coerce slot base value = .ok content) ↔ value.Serves base := by
  simp only [coerce_eq_ok_iff, Scalar.exists_coerce?_iff]

theorem contractual_ofSolution (solution : Solution) :
    Contractual (ofSolution slot base solution) := by
  unfold ofSolution
  split
  · exact contractual_coerce _
  · exact .breach _

theorem exists_ofSolution_iff {solution : Solution} (solved : solution ≠ .undefined) :
    (∃ content, ofSolution slot base solution = .ok content) ↔ solution.Serves base := by
  cases solution with
  | undefined => exact absurd rfl solved
  | integer value | real bits =>
      refine exists_coerce_iff.trans ⟨?_, fun serves => serves _ rfl⟩
      rintro serves _ ⟨⟩
      exact serves

theorem exists_orDefault_iff {solution : Solution} :
    (∃ content, ofSolution slot base (orDefault base.family solution) = .ok content) ↔
      solution.Serves base := by
  cases solution with
  | undefined =>
      refine iff_of_true ?_ (fun _ absent => by cases absent)
      exact (exists_ofSolution_iff base.family.defaultSolution_ne_undefined).mpr
        (Family.serves_defaultSolution base)
  | integer value => exact exists_ofSolution_iff Solution.noConfusion
  | real bits => exact exists_ofSolution_iff Solution.noConfusion

theorem accepts_resolveVariable {source : Variable} :
    Accepts (resolveVariable slot base source) world
      ((world.machine.solutions source).Serves base) := by
  by_cases free : world.machine.solutions source = .undefined
  · refine ⟨_, _, ends_resolveVariable_iff.mpr (.inl ⟨free, rfl, rfl⟩),
      contractual_ofSolution _, ?_⟩
    rw [exists_ofSolution_iff base.family.defaultSolution_ne_undefined, free]
    exact iff_of_true (Family.serves_defaultSolution base) (fun _ absent => by cases absent)
  · exact ⟨_, _, ends_resolveVariable_iff.mpr (.inr ⟨free, rfl, rfl⟩),
      contractual_ofSolution _, exists_ofSolution_iff free⟩

theorem accepts_resolveElement {index : Nat} {element : Slot} :
    Accepts (resolveElement slot base index element) world
      (world.machine.ServesSlot base element) := by
  unfold resolveElement Machine.ServesSlot
  cases element.source with
  | some source => exact accepts_resolveVariable
  | none => exact .ofExcept (contractual_coerce _) exists_coerce_iff

/-- What an element leaves behind serves the others as before. -/
theorem servesSlot_iff_of_resolveElement {index : Nat} {element other : Slot}
    {result : Except Fault Scalar}
    (ended : (resolveElement slot base index element).Ends world result after) :
    after.machine.ServesSlot base other ↔ world.machine.ServesSlot base other := by
  unfold resolveElement at ended
  unfold Machine.ServesSlot
  cases other.source with
  | none => exact Iff.rfl
  | some read =>
      cases given : element.source with
      | none =>
          rw [given] at ended
          rw [(ends_ofExcept_iff.mp ended).2]
      | some source =>
          rw [given] at ended
          rcases ends_resolveVariable_iff.mp ended with ⟨free, _, rfl⟩ | ⟨_, _, rfl⟩
          · exact Machine.serves_assign_iff free
          · exact Iff.rfl

theorem accepts_resolveElements {index : Nat} {slots : List Slot} :
    Accepts (resolveElements slot base index slots) world
      (∀ element ∈ slots, world.machine.ServesSlot base element) := by
  induction slots generalizing index world with
  | nil =>
      refine ⟨_, world, ends_pure_iff.mpr ⟨rfl, rfl⟩, .ok [], iff_of_true ⟨[], rfl⟩ ?_⟩
      exact fun _ absent => (List.not_mem_nil absent).elim
  | cons element rest ih =>
      rw [List.forall_mem_cons]
      apply Accepts.bind accepts_resolveElement
      -- The rest is read in a machine where this element may have fixed a default.
      intro value middle ended
      apply Accepts.map (List.cons value)
      have restAccepts : Accepts (resolveElements slot base (index + 1) rest) middle
          (∀ other ∈ rest, middle.machine.ServesSlot base other) := ih
      exact restAccepts.congr
        (forall₂_congr fun _ _ => servesSlot_iff_of_resolveElement ended)

/-- A resolution that accepts and is never due to be unsupported decides by that alone. -/
theorem Accepts.verdict {resolution : Resolution α} {accepted : Prop} {due : Fault → Prop}
    (accepts : Accepts resolution world accepted) (none : ∀ fault, ¬ due fault) :
    ∃ result after, resolution.Ends world result after ∧ Verdict accepted due result := by
  obtain ⟨result, after, ended, contractual, iff⟩ := accepts
  exact ⟨result, after, ended, .of_contractual contractual iff none⟩

theorem verdict_throw {fault : Fault} {accepted : Prop} {due : Fault → Prop}
    (recoverable : fault.isRecoverable = true) (refused : ¬ accepted)
    (only : ∀ other, due other ↔ other = fault) :
    ∃ result after, (throw fault : Resolution α).Ends world result after ∧
      Verdict accepted due result :=
  ⟨_, world, ends_throw_iff.mpr ⟨rfl, rfl⟩, .of_due recoverable refused only⟩

variable {symbolicArrays : Bool} {source : Variable}

theorem verdict_resolveHeapArray {handle : ArrayHandle} :
    ∃ result after, (resolveHeapArray slot base handle).Ends world result after ∧
      Verdict
        (world.machine.Resolvable symbolicArrays (.array (.primitive base)) (.array handle))
        (world.machine.Unsupported symbolicArrays slot (.array (.primitive base))
          (.array handle)) result := by
  simp only [Machine.resolvable_array_iff, resolveHeapArray, ends_machine_bind_iff]
  cases found : world.machine.heap handle with
  | none =>
      apply (Accepts.throw _).verdict
      · intro fault unsupported
        obtain ⟨_, same, _⟩ := Machine.unsupported_array_iff.mp unsupported
        cases found.symm.trans same
      · rintro ⟨_, ⟨⟩, _⟩
  | some array =>
      rcases array with ⟨element, slots⟩
      by_cases primitive : ∃ held, element = .primitive held
      · obtain ⟨held, rfl⟩ := primitive
        apply Accepts.verdict
        · by_cases same : held = base
          · subst held
            simp only [if_pos]
            refine (accepts_resolveElements.map _).congr ⟨fun serves => ⟨_, rfl, serves⟩, ?_⟩
            rintro ⟨_, ⟨⟩, serves⟩
            exact serves
          · simp only [if_neg same]
            apply Accepts.throw
            rintro ⟨_, ⟨⟩, _⟩
            exact same rfl
        · intro fault unsupported
          obtain ⟨_, given, different, _⟩ := Machine.unsupported_array_iff.mp unsupported
          cases found.symm.trans given
          exact different held rfl
      · have different : ∀ held, element ≠ .primitive held := fun held same =>
          primitive ⟨held, same⟩
        have only : ∀ fault, world.machine.Unsupported symbolicArrays slot
            (.array (.primitive base)) (.array handle) fault ↔
              fault = .unsupportedArray slot (.held element) := by
          intro fault
          rw [Machine.unsupported_array_iff, found]
          constructor
          · rintro ⟨_, ⟨⟩, _, same⟩
            exact same
          · rintro rfl
            exact ⟨_, rfl, different, rfl⟩
        have refused : ¬ ∃ given, some { element := element, slots := slots : HeapArray } =
            some { element := .primitive base, slots := given } ∧
              ∀ element ∈ given, world.machine.ServesSlot base element := by
          rintro ⟨_, ⟨⟩, _⟩
          exact different base rfl
        cases element with
        | primitive held => exact absurd rfl (different held)
        | void | array inner | reference name => exact verdict_throw rfl refused only

theorem verdict_resolveSymbolicArray :
    ∃ result after,
      (resolveSymbolicArray symbolicArrays slot base source).Ends world result after ∧
        Verdict
          (world.machine.Resolvable symbolicArrays (.array (.primitive base))
            (.symbolicArray source))
          (world.machine.Unsupported symbolicArrays slot (.array (.primitive base))
            (.symbolicArray source)) result := by
  rw [Machine.resolvable_symbolicArray_iff]
  cases symbolicArrays with
  | false =>
      apply verdict_throw rfl
      · rintro ⟨⟨⟩, _⟩
      · intro fault
        rw [Machine.unsupported_symbolicArray_iff, and_iff_right rfl]
  | true =>
      apply Accepts.verdict
      · simp only [resolveSymbolicArray, if_true, true_and, accepts_machine_bind_iff]
        cases world.machine.arraySolutions source with
        | none =>
            refine ⟨_, _, ends_bind_iff.mpr (.inl ⟨(), _, ends_emit_iff.mpr ⟨rfl, rfl⟩,
              ends_pure_iff.mpr ⟨rfl, rfl⟩⟩), .ok _, iff_of_true ⟨_, rfl⟩ ?_⟩
            rintro _ ⟨⟩
        | some solutions =>
            apply Accepts.map
            apply Accepts.ofExcept (.mapM (fun _ => contractual_ofSolution _) solutions)
            rw [exists_mapM_iff]
            constructor
            · rintro each _ ⟨⟩ solution member
              exact exists_orDefault_iff.mp (each solution member)
            · intro serve solution member
              exact exists_orDefault_iff.mpr (serve solutions rfl solution member)
      · intro fault unsupported
        cases (Machine.unsupported_symbolicArray_iff.mp unsupported).1

/-- Resolution yields a value exactly if what was captured is resolvable, it fails recoverably
exactly if it is of a kind that is not supported, and in all other cases a contract is
broken.  All of this shows in the machine that the resolution finds. -/
theorem resolve_verdict (symbolicArrays : Bool) (slot : String) (type : JavaType)
    (captured : Captured) (world : World) :
    ∃ result after, (resolve symbolicArrays slot type captured).Ends world result after ∧
      Verdict (world.machine.Resolvable symbolicArrays type captured)
        (world.machine.Unsupported symbolicArrays slot type captured) result := by
  cases type with
  | void | reference name =>
      exact (Accepts.throw (by rintro ⟨⟩)).verdict (by rintro _ ⟨⟩)
  | primitive base =>
      refine Accepts.verdict ?_ fun _ => Machine.not_unsupported_primitive
      cases captured with
      | concrete value =>
          refine ((Accepts.ofExcept (contractual_coerce value)
            exists_coerce_iff).map Value.scalar).congr ⟨.concrete, ?_⟩
          rintro ⟨serves⟩
          exact serves
      | symbolic source =>
          refine (accepts_resolveVariable.map Value.scalar).congr ⟨.symbolic, ?_⟩
          rintro (_ | ⟨serves⟩)
          exact serves
      | array handle | symbolicArray source => exact Accepts.throw (by rintro ⟨⟩)
  | array element =>
      by_cases primitive : ∃ base, element = .primitive base
      · obtain ⟨base, rfl⟩ := primitive
        cases captured with
        | array handle => exact verdict_resolveHeapArray
        | symbolicArray source => exact verdict_resolveSymbolicArray
        | concrete value | symbolic source =>
            apply (Accepts.throw (by rintro ⟨⟩)).verdict
            rintro _ ⟨different⟩
            exact different base rfl
      · have different : ∀ base, element ≠ .primitive base := fun base same =>
          primitive ⟨base, same⟩
        have refused : ¬ world.machine.Resolvable symbolicArrays (.array element) captured := by
          rintro (_ | _ | _ | _) <;> exact different _ rfl
        cases element with
        | primitive base => exact absurd rfl (different base)
        | void | array inner | reference name =>
            exact verdict_throw rfl refused fun _ =>
              Machine.unsupported_declared_iff different

end Resolution

end TestSynth
