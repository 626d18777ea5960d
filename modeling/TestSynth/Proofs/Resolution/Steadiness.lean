import TestSynth.Proofs.Fault.Propagation
import TestSynth.Proofs.Resolution.Confinement

/-!
# Steady resolutions

Where all variables that a resolution reads have solutions, its result depends on nothing
but these and the arrays.  It comes to the same on every machine that has them, and
changes nothing there.
-/

namespace TestSynth

/-- A machine that has the arrays of another one and all of its solutions. -/
structure Machine.Knows (machine known : Machine) : Prop where
  solutions : ∀ source, known.solutions source ≠ .undefined →
    machine.solutions source = known.solutions source
  heap : machine.heap = known.heap
  arraySolutions : machine.arraySolutions = known.arraySolutions

theorem Machine.Knows.refl (machine : Machine) : machine.Knows machine :=
  { solutions := fun _ _ => rfl
    heap := rfl
    arraySolutions := rfl }

/-- Every variable that a captured value is made of has a solution. -/
def Machine.Solves (machine : Machine) (captured : Captured) : Prop :=
  ∀ source ∈ captured.sources machine.heap, machine.solutions source ≠ .undefined

namespace Resolution

variable {α β : Type} {known : Machine}

/-- On every machine that has what is known, the resolution ends in the same way and changes
nothing but the log. -/
def Steady (resolution : Resolution α) (known : Machine) (result : Except Fault α) : Prop :=
  ∀ world : World, world.machine.Knows known →
    ∃ log, resolution.Ends world result { world with log := log }

/-- What a resolution comes to on a machine. -/
def resultOn (resolution : Resolution α) (machine : Machine) : Except Fault α :=
  (Engine.runResolution resolution machine).1

namespace Steady

variable {resolution : Resolution α} {result : Except Fault α}

theorem ends_eq (steady : Steady resolution known result) {world after : World}
    {given : Except Fault α} (knows : world.machine.Knows known)
    (ended : resolution.Ends world given after) :
    given = result ∧ after.machine = world.machine := by
  obtain ⟨log, same⟩ := steady world knows
  obtain ⟨rfl, rfl⟩ := ended.deterministic same
  exact ⟨rfl, rfl⟩

theorem resultOn_eq (steady : Steady resolution known result) :
    resolution.resultOn known = result :=
  (steady.ends_eq (.refl known) (Prod.ext rfl rfl)).1

theorem congr {other : Except Fault α} (steady : Steady resolution known result)
    (same : result = other) : Steady resolution known other :=
  same ▸ steady

theorem pure (value : α) : Steady (Pure.pure value : Resolution α) known (.ok value) :=
  fun world _ => ⟨world.log, ends_pure_iff.mpr ⟨rfl, rfl⟩⟩

theorem throw (fault : Fault) :
    Steady (MonadExcept.throw fault : Resolution α) known (.error fault) :=
  fun world _ => ⟨world.log, ends_throw_iff.mpr ⟨rfl, rfl⟩⟩

theorem ofExcept (given : Except Fault α) : Steady (ofExcept given) known given :=
  fun world _ => ⟨world.log, ends_ofExcept_iff.mpr ⟨rfl, rfl⟩⟩

theorem emit (event : LogEvent) : Steady (emit event) known (.ok ()) :=
  fun world _ => ⟨world.log ++ [event], ends_emit_iff.mpr ⟨rfl, rfl⟩⟩

theorem bind {first : Resolution α} {next : α → Resolution β} {given : Except Fault α}
    {rest : α → Except Fault β} (firstSteady : Steady first known given)
    (nextSteady : ∀ value, Steady (next value) known (rest value)) :
    Steady (first >>= next) known (given >>= rest) := by
  intro world knows
  obtain ⟨log, firstEnds⟩ := firstSteady world knows
  cases given with
  | error fault => exact ⟨log, ends_bind_iff.mpr (.inr ⟨fault, firstEnds, rfl⟩)⟩
  | ok value =>
      obtain ⟨later, nextEnds⟩ := nextSteady value { world with log := log } knows
      exact ⟨later, ends_bind_iff.mpr (.inl ⟨value, _, firstEnds, nextEnds⟩)⟩

theorem map (change : α → β) (steady : Steady resolution known result) :
    Steady (change <$> resolution) known (result.map change) := by
  intro world knows
  obtain ⟨log, ended⟩ := steady world knows
  exact ⟨log, ends_map_iff.mpr ⟨result, ended, rfl⟩⟩

end Steady

/-- What is known in a machine decides the result of the resolution. -/
def Decided (resolution : Resolution α) (known : Machine) : Prop :=
  ∃ result, Steady resolution known result

namespace Decided

theorem steady {resolution : Resolution α} (decided : Decided resolution known) :
    Steady resolution known (resolution.resultOn known) := by
  obtain ⟨result, steady⟩ := decided
  rw [steady.resultOn_eq]
  exact steady

theorem bind {first : Resolution α} {next : α → Resolution β}
    (firstDecided : Decided first known) (nextDecided : ∀ value, Decided (next value) known) :
    Decided (first >>= next) known :=
  ⟨_, firstDecided.steady.bind fun value => (nextDecided value).steady⟩

theorem map {resolution : Resolution α} (change : α → β) (decided : Decided resolution known) :
    Decided (change <$> resolution) known :=
  ⟨_, decided.steady.map change⟩

/-- The arrays may be read from the machine. -/
theorem read {body : Machine → Resolution α}
    (fixed : ∀ machine : Machine, machine.Knows known → body machine = body known)
    (decided : Decided (body known) known) : Decided (machine >>= body) known := by
  obtain ⟨result, steady⟩ := decided
  refine ⟨result, ?_⟩
  intro world knows
  obtain ⟨log, ended⟩ := steady world knows
  refine ⟨log, ends_machine_bind_iff.mpr ?_⟩
  rw [fixed world.machine knows]
  exact ended

end Decided

theorem decided_resolveVariable (slot : String) (primitive : Primitive) {source : Variable}
    (solved : known.solutions source ≠ .undefined) :
    Decided (resolveVariable slot primitive source) known := by
  refine ⟨ofSolution slot primitive (known.solutions source), ?_⟩
  intro world knows
  have same := knows.solutions source solved
  refine ⟨world.log, ends_resolveVariable_iff.mpr (.inr ?_)⟩
  rw [same]
  exact ⟨solved, rfl, rfl⟩

theorem decided_resolveElements (slot : String) (primitive : Primitive) (index : Nat)
    {slots : List Slot}
    (solved : ∀ source ∈ slots.filterMap (·.source), known.solutions source ≠ .undefined) :
    Decided (resolveElements slot primitive index slots) known := by
  induction slots generalizing index with
  | nil => exact ⟨_, .pure []⟩
  | cons element rest ih =>
      have later : ∀ source ∈ rest.filterMap (·.source), known.solutions source ≠ .undefined :=
        fun source member => solved source
          ((List.sublist_cons_self element rest).filterMap _ |>.subset member)
      have first : Decided (resolveElement slot primitive index element) known := by
        unfold resolveElement
        cases given : element.source with
        | none => exact ⟨_, .ofExcept _⟩
        | some source =>
            apply decided_resolveVariable
            exact solved source (List.mem_filterMap.mpr ⟨element, List.mem_cons_self, given⟩)
      exact first.bind fun value => (ih (index + 1) later).map (List.cons value)

theorem decided_resolveHeapArray (slot : String) (declared : Primitive) {handle : ArrayHandle}
    (solved : known.Solves (.array handle)) :
    Decided (resolveHeapArray slot declared handle) known := by
  apply Decided.read
  · intro machine knows
    rw [knows.heap]
  · cases found : known.heap handle with
    | none => exact ⟨_, .throw _⟩
    | some array =>
        have slotsSolved : ∀ source ∈ array.slots.filterMap (·.source),
            known.solutions source ≠ .undefined := by
          simpa [Machine.Solves, Captured.sources, HeapArray.sources, found] using solved
        rcases array with ⟨element, slots⟩
        cases element with
        | primitive held =>
            by_cases same : held = declared
            · simp only [if_pos same]
              exact .map _ (decided_resolveElements slot held 0 slotsSolved)
            · simp only [if_neg same]
              exact ⟨_, .throw _⟩
        | _ => exact ⟨_, .throw _⟩

theorem decided_resolveSymbolicArray (symbolicArrays : Bool) (slot : String)
    (element : Primitive) (source : Variable) :
    Decided (resolveSymbolicArray symbolicArrays slot element source) known := by
  cases symbolicArrays with
  | false => exact ⟨_, .throw _⟩
  | true =>
      apply Decided.read
      · intro machine knows
        rw [knows.arraySolutions]
      · cases known.arraySolutions source with
        | none => exact ⟨_, .bind (.emit (emptyArrayEvent slot)) fun _ => .pure _⟩
        | some solutions => exact ⟨_, .bind (.ofExcept _) fun elements => .pure _⟩

theorem decided_resolve (symbolicArrays : Bool) (slot : String) (type : JavaType)
    {captured : Captured} (solved : known.Solves captured) :
    Decided (resolve symbolicArrays slot type captured) known := by
  cases type with
  | primitive base =>
      cases captured with
      | concrete value => exact ⟨_, .map _ (.ofExcept _)⟩
      | symbolic source =>
          exact .map _ (decided_resolveVariable slot base (solved _ List.mem_cons_self))
      | array handle | symbolicArray source => exact ⟨_, .throw _⟩
  | array element =>
      simp only [resolve]
      cases element.primitive? with
      | none => exact ⟨_, .throw _⟩
      | some base =>
          cases captured with
          | array handle => exact decided_resolveHeapArray slot base solved
          | symbolicArray source =>
              exact decided_resolveSymbolicArray symbolicArrays slot base source
          | concrete value | symbolic source => exact ⟨_, .throw _⟩
  | void | reference name => exact ⟨_, .throw _⟩

theorem decided_resolveReturn (symbolicArrays : Bool) (method : Method)
    {returned : Option Captured} (solved : ∀ captured ∈ returned, known.Solves captured) :
    Decided (resolveReturn symbolicArrays method returned) known := by
  cases returned with
  | none =>
      unfold resolveReturn
      cases method.returnType.isVoid with
      | true => exact ⟨_, .pure _⟩
      | false => exact ⟨_, .throw _⟩
  | some captured =>
      unfold resolveReturn
      cases method.returnType.isVoid with
      | true => exact ⟨_, .throw _⟩
      | false => exact .map _ (decided_resolve symbolicArrays _ _ (solved captured rfl))

/-- What an argument comes to on a machine. -/
def settle (symbolicArrays : Bool) (machine : Machine) (argument : Parameter × Captured) :
    Except Fault (Parameter × Value) :=
  ((resolve symbolicArrays argument.1.name argument.1.type argument.2).resultOn machine).map
    (Prod.mk argument.1)

theorem steady_resolveArguments (symbolicArrays : Bool)
    {arguments : List (Parameter × Captured)}
    (solved : ∀ argument ∈ arguments, known.Solves argument.2) :
    Steady (resolveArguments symbolicArrays arguments) known
      (arguments.mapM (settle symbolicArrays known)) := by
  induction arguments with
  | nil => exact .pure []
  | cons argument rest ih =>
      obtain ⟨here, later⟩ := List.forall_mem_cons.mp solved
      rcases argument with ⟨parameter, captured⟩
      have resolved := (decided_resolve symbolicArrays parameter.name parameter.type here).steady
      refine (resolved.bind fun value => (ih later).bind fun values =>
        .pure ((parameter, value) :: values)).congr ?_
      rw [List.mapM_cons, settle]
      cases (resolve symbolicArrays parameter.name parameter.type captured).resultOn known <;> rfl

theorem parameters_of_settle {symbolicArrays : Bool} {arguments : List (Parameter × Captured)}
    {values : List (Parameter × Value)}
    (settled : arguments.mapM (settle symbolicArrays known) = .ok values) :
    values.map (·.1) = arguments.map (·.1) := by
  rw [← List.forall₂_eq_eq_eq, List.forall₂_map_left_iff, List.forall₂_map_right_iff]
  refine (mapM_eq_ok_iff.mp settled).flip.imp ?_
  intro value argument same
  obtain ⟨_, _, rfl⟩ := map_eq_ok_iff.mp same
  rfl

end Resolution

end TestSynth
