import TestSynth.Proofs.Resolution.Execution

/-!
# Settled models

Resolution changes a machine only by filling in variables that were free.  Once
it has done so it settles: run again on the machine that it left, or on one that
fills in still more, it ends in the same way and fills in nothing.
-/

namespace TestSynth

/-- The later machine is the earlier one with solutions for some of its free
variables, up to the number of branches given up. -/
structure Machine.Extends (later earlier : Machine) : Prop where
  keeps : ∀ source, earlier.solutions source ≠ .undefined →
    later.solutions source = earlier.solutions source
  frame : later =
    { earlier with
      solutions := later.solutions
      ignoredBranches := later.ignoredBranches }

namespace Machine.Extends

variable {machine earlier middle later : Machine}

theorem refl (machine : Machine) : machine.Extends machine :=
  { keeps := fun _ _ => rfl
    frame := rfl }

theorem trans (second : later.Extends middle) (first : middle.Extends earlier) :
    later.Extends earlier := by
  constructor
  · intro source solved
    have middleSolution := first.keeps source solved
    rw [second.keeps source (by rw [middleSolution]; exact solved),
      middleSolution]
  · rw [second.frame, first.frame]

theorem heap (extension : later.Extends earlier) : later.heap = earlier.heap := by
  rw [extension.frame]

theorem arraySolutions (extension : later.Extends earlier) :
    later.arraySolutions = earlier.arraySolutions := by
  rw [extension.frame]

theorem pathCondition (extension : later.Extends earlier) :
    later.pathCondition = earlier.pathCondition := by
  rw [extension.frame]

theorem solvable (extension : later.Extends earlier)
    (solvable : earlier.pathCondition = some true) :
    later.pathCondition = some true := by
  rw [extension.pathCondition]
  exact solvable

theorem stack (extension : later.Extends earlier) :
    later.stack = earlier.stack := by
  rw [extension.frame]

theorem handlers (extension : later.Extends earlier) :
    later.handlers = earlier.handlers := by
  rw [extension.frame]

theorem assign {source : Variable} (solution : Solution)
    (free : machine.solutions source = .undefined) :
    (machine.assign source solution).Extends machine := by
  constructor
  · intro other solved
    have different : other ≠ source := by
      rintro rfl
      exact solved free
    simp [Machine.assign, different]
  · rfl

theorem ignoreBranch (machine : Machine) : machine.ignoreBranch.Extends machine :=
  { keeps := fun _ _ => rfl
    frame := rfl }

end Machine.Extends

theorem Family.defaultSolution_ne_undefined (family : Family) :
    family.defaultSolution ≠ .undefined := by
  cases family <;> simp [defaultSolution]

namespace Resolution

variable {α β : Type}

/-- The resolution only fills in free variables, and where this has been done it
ends in the same way and leaves the machine alone. -/
structure Settles (resolution : Resolution α) : Prop where
  fills : ∀ {world after : World} {result : Except Fault α},
    resolution.Ends world result after →
      after.machine.Extends world.machine
  again : ∀ {world after : World} {result : Except Fault α},
    resolution.Ends world result after →
      ∀ later : World, later.machine.Extends after.machine →
        ∃ log, resolution.Ends later result { later with log := log }

namespace Settles

theorem pure (value : α) : Settles (Pure.pure value : Resolution α) := by
  constructor
  · intro world after result ended
    obtain ⟨rfl, rfl⟩ := ends_pure_iff.mp ended
    exact .refl _
  · intro world after result ended later _
    obtain ⟨rfl, rfl⟩ := ends_pure_iff.mp ended
    exact ⟨later.log, ends_pure_iff.mpr ⟨rfl, rfl⟩⟩

theorem throw (fault : Fault) :
    Settles (MonadExcept.throw fault : Resolution α) := by
  constructor
  · intro world after result ended
    obtain ⟨rfl, rfl⟩ := ends_throw_iff.mp ended
    exact .refl _
  · intro world after result ended later _
    obtain ⟨rfl, rfl⟩ := ends_throw_iff.mp ended
    exact ⟨later.log, ends_throw_iff.mpr ⟨rfl, rfl⟩⟩

theorem ofExcept (given : Except Fault α) : Settles (ofExcept given) := by
  constructor
  · intro world after result ended
    obtain ⟨rfl, rfl⟩ := ends_ofExcept_iff.mp ended
    exact .refl _
  · intro world after result ended later _
    obtain ⟨rfl, rfl⟩ := ends_ofExcept_iff.mp ended
    exact ⟨later.log, ends_ofExcept_iff.mpr ⟨rfl, rfl⟩⟩

theorem emit (event : LogEvent) : Settles (emit event) := by
  constructor
  · intro world after result ended
    obtain ⟨rfl, rfl⟩ := ends_emit_iff.mp ended
    exact .refl _
  · intro world after result ended later _
    obtain ⟨rfl, rfl⟩ := ends_emit_iff.mp ended
    exact ⟨later.log ++ [event], ends_emit_iff.mpr ⟨rfl, rfl⟩⟩

theorem bind {first : Resolution α} {next : α → Resolution β}
    (firstSettles : Settles first) (nextSettles : ∀ value, Settles (next value)) :
    Settles (first >>= next) := by
  constructor
  · intro world after result ended
    rcases ends_bind_iff.mp ended with
      ⟨value, middle, firstEnds, nextEnds⟩ | ⟨fault, firstEnds, rfl⟩
    · exact ((nextSettles value).fills nextEnds).trans
        (firstSettles.fills firstEnds)
    · exact firstSettles.fills firstEnds
  · intro world after result ended later extension
    rcases ends_bind_iff.mp ended with
      ⟨value, middle, firstEnds, nextEnds⟩ | ⟨fault, firstEnds, rfl⟩
    · have nextExtends := (nextSettles value).fills nextEnds
      obtain ⟨firstLog, firstLater⟩ :=
        firstSettles.again firstEnds later (extension.trans nextExtends)
      obtain ⟨nextLog, nextLater⟩ :=
        (nextSettles value).again nextEnds { later with log := firstLog }
          extension
      exact ⟨nextLog,
        ends_bind_iff.mpr (.inl ⟨value, _, firstLater, nextLater⟩)⟩
    · obtain ⟨log, firstLater⟩ := firstSettles.again firstEnds later extension
      exact ⟨log, ends_bind_iff.mpr (.inr ⟨fault, firstLater, rfl⟩)⟩

/-- What filling in leaves alone in a machine may be read from it. -/
theorem read {body : Machine → Resolution α}
    (fixed : ∀ {later earlier : Machine}, later.Extends earlier →
      body later = body earlier)
    (settles : ∀ current, Settles (body current)) :
    Settles (machine >>= body) := by
  constructor
  · intro world after result ended
    exact (settles world.machine).fills (ends_machine_bind_iff.mp ended)
  · intro world after result ended later extension
    have bodyEnds := ends_machine_bind_iff.mp ended
    have bodyExtends := (settles world.machine).fills bodyEnds
    obtain ⟨log, bodyLater⟩ :=
      (settles world.machine).again bodyEnds later extension
    rw [← fixed (extension.trans bodyExtends)] at bodyLater
    exact ⟨log, ends_machine_bind_iff.mpr bodyLater⟩

end Settles

/-- A free variable is filled in with the default that the next reading finds. -/
theorem settles_resolveVariable (slot : String) (primitive : Primitive)
    (source : Variable) : Settles (resolveVariable slot primitive source) := by
  constructor
  · intro world after result ended
    rcases ends_resolveVariable_iff.mp ended with
      ⟨free, rfl, rfl⟩ | ⟨solved, rfl, rfl⟩
    · exact .assign _ free
    · exact .refl _
  · intro world after result ended later extension
    -- Either way the variable is solved afterwards, and stays so.
    have laterSolved : ∀ solution : Solution, solution ≠ .undefined →
        after.machine.solutions source = solution →
        result = ofSolution slot primitive solution →
        ∃ log, (resolveVariable slot primitive source).Ends later result
          { later with log := log } := by
      intro solution defined found same
      have kept : later.machine.solutions source = solution := by
        rw [extension.keeps source (by rw [found]; exact defined), found]
      refine ⟨later.log, ends_resolveVariable_iff.mpr (.inr ?_)⟩
      rw [kept]
      exact ⟨defined, same, rfl⟩
    rcases ends_resolveVariable_iff.mp ended with
      ⟨free, rfl, rfl⟩ | ⟨solved, rfl, rfl⟩
    · exact laterSolved _ primitive.family.defaultSolution_ne_undefined
        (overwrite_same _ _ _) rfl
    · exact laterSolved _ solved rfl rfl

/-- Resolutions that are put together from readings of variables and of what
filling in leaves alone in a machine.  They report traces only. -/
inductive Composed : {α : Type} → Resolution α → Prop
  | pure {α : Type} (value : α) : Composed (Pure.pure value : Resolution α)
  | throw {α : Type} (fault : Fault) :
      Composed (MonadExcept.throw fault : Resolution α)
  | ofExcept {α : Type} (given : Except Fault α) : Composed (ofExcept given)
  | emit {event : LogEvent} (traced : event.level = .trace) : Composed (emit event)
  | resolveVariable (slot : String) (primitive : Primitive) (source : Variable) :
      Composed (resolveVariable slot primitive source)
  | read {α : Type} {body : Machine → Resolution α} :
      (∀ {later earlier : Machine}, later.Extends earlier →
        body later = body earlier) →
      (∀ current, Composed (body current)) →
      Composed (machine >>= body)
  | bind {α β : Type} {first : Resolution α} {next : α → Resolution β} :
      Composed first → (∀ value, Composed (next value)) →
      Composed (first >>= next)

namespace Composed

theorem map {resolution : Resolution α} (change : α → β)
    (composed : Composed resolution) : Composed (change <$> resolution) :=
  bind composed fun value => pure (change value)

/-- What is put together from parts that settle settles. -/
theorem settles {resolution : Resolution α} (composed : Composed resolution) :
    Settles resolution := by
  induction composed with
  | pure value => exact .pure value
  | throw fault => exact .throw fault
  | ofExcept given => exact .ofExcept given
  | emit _ => exact .emit _
  | resolveVariable slot primitive source =>
      exact settles_resolveVariable slot primitive source
  | read fixed _ ih => exact .read fixed ih
  | bind _ _ ihFirst ihNext => exact .bind ihFirst ihNext

/-- What is put together from parts reports nothing above the level of traces. -/
theorem traces {resolution : Resolution α} {world after : World}
    {result : Except Fault α} (composed : Composed resolution)
    (ended : resolution.Ends world result after) :
    ∃ events, after.log = world.log ++ events ∧
      ∀ event ∈ events, event.level = .trace := by
  induction composed generalizing world after with
  | pure value =>
      obtain ⟨-, rfl⟩ := ends_pure_iff.mp ended
      exact ⟨[], by simp⟩
  | throw fault =>
      obtain ⟨-, rfl⟩ := ends_throw_iff.mp ended
      exact ⟨[], by simp⟩
  | ofExcept given =>
      obtain ⟨-, rfl⟩ := ends_ofExcept_iff.mp ended
      exact ⟨[], by simp⟩
  | @emit event traced =>
      obtain ⟨-, rfl⟩ := ends_emit_iff.mp ended
      exact ⟨[event], by simpa using traced⟩
  | resolveVariable slot primitive source =>
      rcases ends_resolveVariable_iff.mp ended with ⟨-, -, rfl⟩ | ⟨-, -, rfl⟩
      · exact ⟨[defaultEvent slot primitive.family.defaultSolution],
          by simp [defaultEvent]⟩
      · exact ⟨[], by simp⟩
  | read _ _ ih => exact ih _ (ends_machine_bind_iff.mp ended)
  | bind _ _ ihFirst ihNext =>
      rcases ends_bind_iff.mp ended with
        ⟨value, middle, firstEnds, nextEnds⟩ | ⟨fault, firstEnds, -⟩
      · obtain ⟨first, firstLog, firstTraces⟩ := ihFirst firstEnds
        obtain ⟨next, nextLog, nextTraces⟩ := ihNext value nextEnds
        refine ⟨first ++ next, by rw [nextLog, firstLog, List.append_assoc], ?_⟩
        intro event member
        rcases List.mem_append.mp member with early | late
        · exact firstTraces event early
        · exact nextTraces event late
      · exact ihFirst firstEnds

end Composed

theorem composed_resolveElement (slot : String) (primitive : Primitive)
    (index : Nat) (element : Slot) :
    Composed (resolveElement slot primitive index element) := by
  unfold resolveElement
  cases element.source with
  | none => exact .ofExcept _
  | some source => exact .resolveVariable _ primitive source

theorem composed_resolveElements (slot : String) (primitive : Primitive)
    (index : Nat) (slots : List Slot) :
    Composed (resolveElements slot primitive index slots) := by
  induction slots generalizing index with
  | nil => exact .pure []
  | cons element rest ih =>
      apply Composed.bind (composed_resolveElement slot primitive index element)
      intro value
      apply Composed.bind (ih (index + 1))
      intro values
      exact .pure (value :: values)

theorem composed_resolveHeapArray (slot : String) (declared : Primitive)
    (handle : ArrayHandle) : Composed (resolveHeapArray slot declared handle) := by
  apply Composed.read
  · intro later earlier extension
    rw [extension.heap]
  · intro current
    cases current.heap handle with
    | none => exact .throw _
    | some array =>
        rcases array with ⟨element, slots⟩
        cases element with
        | primitive held =>
            by_cases same : held = declared
            · simp only [if_pos same]
              apply Composed.bind (composed_resolveElements slot held 0 slots)
              intro elements
              exact .pure _
            · simp only [if_neg same]
              exact .throw _
        | _ => exact .throw _

theorem composed_resolveSymbolicArray (symbolicArrays : Bool) (slot : String)
    (element : Primitive) (source : Variable) :
    Composed (resolveSymbolicArray symbolicArrays slot element source) := by
  cases symbolicArrays with
  | false => exact .throw _
  | true =>
      apply Composed.read
      · intro later earlier extension
        rw [extension.arraySolutions]
      · intro current
        cases current.arraySolutions source with
        | none =>
            have traced : (emptyArrayEvent slot).level = .trace := rfl
            apply Composed.bind (.emit traced)
            intro _
            exact .pure _
        | some solutions =>
            apply Composed.bind (.ofExcept _)
            intro elements
            exact .pure _

theorem composed_resolve (symbolicArrays : Bool) (slot : String)
    (type : JavaType) (captured : Captured) :
    Composed (resolve symbolicArrays slot type captured) := by
  cases type with
  | primitive base =>
      cases captured with
      | concrete value => exact .map _ (.ofExcept _)
      | symbolic source => exact .map _ (.resolveVariable slot base source)
      | array handle => exact .throw _
      | symbolicArray source => exact .throw _
  | array element =>
      simp only [resolve]
      cases element.primitive? with
      | none => exact .throw _
      | some base =>
          cases captured with
          | array handle => exact composed_resolveHeapArray slot base handle
          | symbolicArray source =>
              exact composed_resolveSymbolicArray symbolicArrays slot base source
          | concrete value => exact .throw _
          | symbolic source => exact .throw _
  | void => exact .throw _
  | reference name => exact .throw _

theorem composed_resolveArguments (symbolicArrays : Bool)
    (arguments : List (Parameter × Captured)) :
    Composed (resolveArguments symbolicArrays arguments) := by
  induction arguments with
  | nil => exact .pure []
  | cons argument rest ih =>
      rcases argument with ⟨parameter, captured⟩
      apply Composed.bind
        (composed_resolve symbolicArrays parameter.name parameter.type captured)
      intro value
      apply Composed.bind ih
      intro values
      exact .pure _

theorem composed_resolveSnapshot (symbolicArrays : Bool) (snapshot : Snapshot) :
    Composed (resolveSnapshot symbolicArrays snapshot) := by
  apply Composed.bind (composed_resolveArguments symbolicArrays snapshot.symbolic)
  intro resolved
  exact .pure _

theorem composed_resolveReturn (symbolicArrays : Bool) (method : Method)
    (captured : Option Captured) :
    Composed (resolveReturn symbolicArrays method captured) := by
  cases captured with
  | none =>
      unfold resolveReturn
      cases method.returnType.isVoid with
      | true => exact .pure _
      | false => exact .throw _
  | some captured =>
      unfold resolveReturn
      cases method.returnType.isVoid with
      | true => exact .throw _
      | false => exact .map _ (composed_resolve symbolicArrays _ _ captured)

end Resolution

namespace Engine

open Resolution (Composed Settles)

theorem composed_captureArguments (symbolicArrays : Bool) (method : Method)
    (arguments : List ((Parameter × ArgumentKind) × Captured)) :
    Composed (captureArguments symbolicArrays method arguments) := by
  induction arguments with
  | nil => exact .pure _
  | cons argument rest ih =>
      rcases argument with ⟨⟨parameter, kind⟩, captured⟩
      cases kind with
      | symbolic =>
          apply Composed.bind ih
          intro sorted
          exact .pure _
      | concrete =>
          have resolved := Composed.bind
            (Resolution.composed_resolve symbolicArrays parameter.name
              parameter.type captured)
            fun value => Composed.bind ih fun sorted =>
              Composed.pure (sorted.1, (parameter, value) :: sorted.2)
          cases captured with
          | symbolic source =>
              exact .bind (.throw _) fun _ => resolved
          | symbolicArray source =>
              exact .bind (.throw _) fun _ => resolved
          | concrete value => exact resolved
          | array handle => exact resolved

theorem composed_capture (symbolicArrays : Bool) (entry : CallEntry)
    (kinds : List ArgumentKind) :
    Composed (capture symbolicArrays entry kinds) := by
  have captured := Composed.bind
    (composed_captureArguments symbolicArrays entry.method
      ((entry.method.arguments.zip kinds).zip entry.arguments))
    fun sorted => Composed.ofExcept
      (Snapshot.build entry.method sorted.1 sorted.2)
  by_cases miscounted : kinds.length ≠ entry.method.arguments.length ∨
      entry.arguments.length ≠ entry.method.arguments.length
  · simp only [capture, if_pos miscounted]
    exact .bind (.throw _) fun _ => captured
  · simp only [capture, if_neg miscounted]
    exact captured

theorem composed_resolveTest (symbolicArrays : Bool) (snapshot : Snapshot)
    (outcome : Outcome) : Composed (resolveTest symbolicArrays snapshot outcome) := by
  apply Composed.bind
    (Resolution.composed_resolveSnapshot symbolicArrays snapshot)
  intro given
  exact .ofExcept _

theorem composed_resolveExit (symbolicArrays : Bool) (snapshot : Snapshot)
    (returned : Option Captured) :
    Composed (resolveExit symbolicArrays snapshot returned) := by
  apply Composed.bind
    (Resolution.composed_resolveReturn symbolicArrays snapshot.method returned)
  intro outcome
  exact composed_resolveTest symbolicArrays snapshot outcome

theorem settles_capture (symbolicArrays : Bool) (entry : CallEntry)
    (kinds : List ArgumentKind) : Settles (capture symbolicArrays entry kinds) :=
  (composed_capture symbolicArrays entry kinds).settles

theorem settles_resolveTest (symbolicArrays : Bool) (snapshot : Snapshot)
    (outcome : Outcome) : Settles (resolveTest symbolicArrays snapshot outcome) :=
  (composed_resolveTest symbolicArrays snapshot outcome).settles

theorem settles_resolveExit (symbolicArrays : Bool) (snapshot : Snapshot)
    (returned : Option Captured) :
    Settles (resolveExit symbolicArrays snapshot returned) :=
  (composed_resolveExit symbolicArrays snapshot returned).settles

end Engine

end TestSynth
