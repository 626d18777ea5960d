import TestSynth.Proofs.Resolution.Settling

/-!
# Confinement of resolutions

A resolution writes to a machine only where a variable that it mentions is free,
and it writes nothing but defaults there.  This holds however it ends.
-/

namespace TestSynth

/-- The variables of the elements that are symbolic. -/
def HeapArray.sources (array : HeapArray) : List Variable :=
  array.slots.filterMap (·.source)

/-- The variables whose solutions a captured value is made of. -/
def Captured.sources (heap : ArrayHandle → Option HeapArray) :
    Captured → List Variable
  | .symbolic source => [source]
  | .array handle => (heap handle).toList.flatMap HeapArray.sources
  | .concrete _ | .symbolicArray _ => []

/-- The later machine is the earlier one with defaults for some of its free
variables, all of which lie in a footprint. -/
structure Machine.Completes (footprint : Variable → Prop)
    (later earlier : Machine) : Prop where
  solutions : ∀ source,
    later.solutions source = earlier.solutions source ∨
      footprint source ∧ earlier.solutions source = .undefined ∧
        ∃ family : Family, later.solutions source = family.defaultSolution
  frame : later = { earlier with solutions := later.solutions }

namespace Machine.Completes

variable {footprint : Variable → Prop} {machine earlier middle later : Machine}
  {source : Variable}

theorem refl (machine : Machine) : machine.Completes footprint machine :=
  { solutions := fun _ => .inl rfl
    frame := rfl }

theorem trans (second : later.Completes footprint middle)
    (first : middle.Completes footprint earlier) :
    later.Completes footprint earlier := by
  constructor
  · intro source
    rcases second.solutions source with kept | ⟨covered, free, filled⟩
    · rw [kept]
      exact first.solutions source
    · rcases first.solutions source with kept | ⟨_, _, family, solved⟩
      · exact .inr ⟨covered, kept ▸ free, filled⟩
      · rw [solved] at free
        exact absurd free family.defaultSolution_ne_undefined
  · rw [second.frame, first.frame]

theorem heap (completes : later.Completes footprint earlier) :
    later.heap = earlier.heap := by
  rw [completes.frame]

theorem assign (family : Family) (covered : footprint source)
    (free : machine.solutions source = .undefined) :
    (machine.assign source family.defaultSolution).Completes footprint machine := by
  constructor
  · intro other
    by_cases same : other = source
    · subst same
      exact .inr ⟨covered, free, family, overwrite_same _ _ _⟩
    · exact .inl (overwrite_other _ _ same)
  · rfl

/-- What is solved stays as it is. -/
theorem solutions_eq_of_solved (completes : later.Completes footprint earlier)
    (solved : earlier.solutions source ≠ .undefined) :
    later.solutions source = earlier.solutions source := by
  rcases completes.solutions source with kept | ⟨_, free, _⟩
  · exact kept
  · exact absurd free solved

/-- What is free stays so or takes one of the two defaults that models have. -/
theorem solutions_of_free (completes : later.Completes footprint earlier)
    (free : earlier.solutions source = .undefined) :
    later.solutions source = .undefined ∨
      later.solutions source = .integer 0 ∨ later.solutions source = .real 0 := by
  rcases completes.solutions source with kept | ⟨_, _, family, filled⟩
  · exact .inl (kept.trans free)
  · cases family with
    | integer => exact .inr (.inl filled)
    | boolean => exact .inr (.inl filled)
    | real => exact .inr (.inr filled)

/-- A machine that has solutions throughout the footprint is complete. -/
theorem eq_of_solved (completes : later.Completes footprint earlier)
    (solved : ∀ source, footprint source → earlier.solutions source ≠ .undefined) :
    later = earlier := by
  have kept : later.solutions = earlier.solutions := by
    funext source
    rcases completes.solutions source with kept | ⟨covered, free, _⟩
    · exact kept
    · exact absurd free (solved source covered)
  rw [completes.frame, kept]

end Machine.Completes

namespace Resolution

variable {α β : Type} {heap : ArrayHandle → Option HeapArray}
  {footprint : Variable → Prop}

/-- On every machine with a given heap, the resolution only completes the machine
within a footprint. -/
structure Confined (heap : ArrayHandle → Option HeapArray)
    (footprint : Variable → Prop) (resolution : Resolution α) : Prop where
  completes : ∀ {world after : World} {result : Except Fault α},
    world.machine.heap = heap → resolution.Ends world result after →
      after.machine.Completes footprint world.machine

namespace Confined

theorem pure (value : α) :
    Confined heap footprint (Pure.pure value : Resolution α) := by
  constructor
  intro world after result _ ended
  obtain ⟨_, rfl⟩ := ends_pure_iff.mp ended
  exact .refl _

theorem throw (fault : Fault) :
    Confined heap footprint (MonadExcept.throw fault : Resolution α) := by
  constructor
  intro world after result _ ended
  obtain ⟨_, rfl⟩ := ends_throw_iff.mp ended
  exact .refl _

theorem ofExcept (given : Except Fault α) :
    Confined heap footprint (ofExcept given) := by
  constructor
  intro world after result _ ended
  obtain ⟨_, rfl⟩ := ends_ofExcept_iff.mp ended
  exact .refl _

theorem emit (event : LogEvent) : Confined heap footprint (emit event) := by
  constructor
  intro world after result _ ended
  obtain ⟨_, rfl⟩ := ends_emit_iff.mp ended
  exact .refl _

theorem bind {first : Resolution α} {next : α → Resolution β}
    (firstConfined : Confined heap footprint first)
    (nextConfined : ∀ value, Confined heap footprint (next value)) :
    Confined heap footprint (first >>= next) := by
  constructor
  intro world after result given ended
  rcases ends_bind_iff.mp ended with
    ⟨value, middle, firstEnds, nextEnds⟩ | ⟨fault, firstEnds, _⟩
  · have completes := firstConfined.completes given firstEnds
    have middleGiven := completes.heap.trans given
    exact ((nextConfined value).completes middleGiven nextEnds).trans completes
  · exact firstConfined.completes given firstEnds

theorem map {resolution : Resolution α} (change : α → β)
    (confined : Confined heap footprint resolution) :
    Confined heap footprint (change <$> resolution) :=
  bind confined fun value => pure (change value)

theorem read {body : Machine → Resolution α}
    (confined : ∀ current, current.heap = heap →
      Confined heap footprint (body current)) :
    Confined heap footprint (machine >>= body) := by
  constructor
  intro world after result given ended
  have bodyEnds := ends_machine_bind_iff.mp ended
  exact (confined world.machine given).completes given bodyEnds

end Confined

theorem confined_resolveVariable (slot : String) (primitive : Primitive)
    {source : Variable} (covered : footprint source) :
    Confined heap footprint (resolveVariable slot primitive source) := by
  constructor
  intro world after result _ ended
  rcases ends_resolveVariable_iff.mp ended with ⟨free, _, rfl⟩ | ⟨_, _, rfl⟩
  · exact .assign primitive.family covered free
  · exact .refl _

theorem confined_resolveElement (slot : String) (primitive : Primitive)
    (index : Nat) {element : Slot}
    (covered : ∀ source, element.source = some source → footprint source) :
    Confined heap footprint (resolveElement slot primitive index element) := by
  unfold resolveElement
  cases given : element.source with
  | none => exact .ofExcept _
  | some source => exact confined_resolveVariable _ primitive (covered source given)

theorem confined_resolveElements (slot : String) (primitive : Primitive)
    (index : Nat) {slots : List Slot}
    (covered : ∀ source ∈ slots.filterMap (·.source), footprint source) :
    Confined heap footprint (resolveElements slot primitive index slots) := by
  induction slots generalizing index with
  | nil => exact .pure []
  | cons element rest ih =>
      have here : ∀ source, element.source = some source → footprint source := by
        intro source given
        exact covered source
          (List.mem_filterMap.mpr ⟨element, List.mem_cons_self, given⟩)
      have later : ∀ source ∈ rest.filterMap (·.source), footprint source := by
        intro source member
        obtain ⟨other, inside, given⟩ := List.mem_filterMap.mp member
        exact covered source
          (List.mem_filterMap.mpr ⟨other, List.mem_cons_of_mem _ inside, given⟩)
      apply Confined.bind (confined_resolveElement slot primitive index here)
      intro value
      exact .map (List.cons value) (ih (index + 1) later)

theorem confined_resolveHeapArray (slot : String) (declared : Primitive)
    {handle : ArrayHandle}
    (covered : ∀ source ∈ (Captured.array handle).sources heap, footprint source) :
    Confined heap footprint (resolveHeapArray slot declared handle) := by
  apply Confined.read
  intro current given
  rw [given]
  cases found : heap handle with
  | none => exact .throw _
  | some array =>
      have slotsCovered : ∀ source ∈ array.slots.filterMap (·.source),
          footprint source := by
        simpa [Captured.sources, HeapArray.sources, found] using covered
      rcases array with ⟨element, slots⟩
      cases element with
      | primitive held =>
          by_cases same : held = declared
          · simp only [if_pos same]
            exact .map _ (confined_resolveElements slot held 0 slotsCovered)
          · simp only [if_neg same]
            exact .throw _
      | _ => exact .throw _

theorem confined_resolveSymbolicArray (symbolicArrays : Bool) (slot : String)
    (element : Primitive) (source : Variable) :
    Confined heap footprint
      (resolveSymbolicArray symbolicArrays slot element source) := by
  cases symbolicArrays with
  | false => exact .throw _
  | true =>
      apply Confined.read
      intro current _
      cases current.arraySolutions source with
      | none =>
          apply Confined.bind (.emit (emptyArrayEvent slot))
          intro _
          exact .pure _
      | some solutions =>
          apply Confined.bind (.ofExcept _)
          intro elements
          exact .pure _

theorem confined_resolve (symbolicArrays : Bool) (slot : String)
    (type : JavaType) {captured : Captured}
    (covered : ∀ source ∈ captured.sources heap, footprint source) :
    Confined heap footprint (resolve symbolicArrays slot type captured) := by
  cases type with
  | primitive base =>
      cases captured with
      | concrete value => exact .map _ (.ofExcept _)
      | symbolic source =>
          exact .map _
            (confined_resolveVariable slot base (covered _ List.mem_cons_self))
      | array handle => exact .throw _
      | symbolicArray source => exact .throw _
  | array element =>
      simp only [resolve]
      cases element.primitive? with
      | none => exact .throw _
      | some base =>
          cases captured with
          | array handle => exact confined_resolveHeapArray slot base covered
          | symbolicArray source =>
              exact confined_resolveSymbolicArray symbolicArrays slot base source
          | concrete value => exact .throw _
          | symbolic source => exact .throw _
  | void => exact .throw _
  | reference name => exact .throw _

theorem confined_resolveArguments (symbolicArrays : Bool)
    {arguments : List (Parameter × Captured)}
    (covered : ∀ argument ∈ arguments,
      ∀ source ∈ argument.2.sources heap, footprint source) :
    Confined heap footprint (resolveArguments symbolicArrays arguments) := by
  induction arguments with
  | nil => exact .pure []
  | cons argument rest ih =>
      obtain ⟨here, later⟩ := List.forall_mem_cons.mp covered
      rcases argument with ⟨parameter, captured⟩
      apply Confined.bind
        (confined_resolve symbolicArrays parameter.name parameter.type here)
      intro value
      apply Confined.bind (ih later)
      intro values
      exact .pure _

theorem confined_resolveReturn (symbolicArrays : Bool) (method : Method)
    {returned : Option Captured}
    (covered : ∀ captured ∈ returned,
      ∀ source ∈ captured.sources heap, footprint source) :
    Confined heap footprint (resolveReturn symbolicArrays method returned) := by
  cases returned with
  | none =>
      unfold resolveReturn
      cases method.returnType.isVoid with
      | true => exact .pure _
      | false => exact .throw _
  | some captured =>
      unfold resolveReturn
      cases method.returnType.isVoid with
      | true => exact .throw _
      | false =>
          exact .map _ (confined_resolve symbolicArrays _ _ (covered captured rfl))

end Resolution

namespace Engine

open Resolution (Confined)

variable {heap : ArrayHandle → Option HeapArray} {footprint : Variable → Prop}

theorem confined_captureArguments (symbolicArrays : Bool) (method : Method)
    {arguments : List ((Parameter × ArgumentKind) × Captured)}
    (covered : ∀ argument ∈ arguments,
      ∀ source ∈ argument.2.sources heap, footprint source) :
    Confined heap footprint (captureArguments symbolicArrays method arguments) := by
  induction arguments with
  | nil => exact .pure _
  | cons argument rest ih =>
      obtain ⟨here, later⟩ := List.forall_mem_cons.mp covered
      rcases argument with ⟨⟨parameter, kind⟩, captured⟩
      cases kind with
      | symbolic =>
          apply Confined.bind (ih later)
          intro sorted
          exact .pure _
      | concrete =>
          have resolved := Confined.bind
            (Resolution.confined_resolve symbolicArrays parameter.name
              parameter.type here)
            fun value => Confined.bind (ih later) fun sorted =>
              Confined.pure (sorted.1, (parameter, value) :: sorted.2)
          cases captured with
          | symbolic source => exact .bind (.throw _) fun _ => resolved
          | symbolicArray source => exact .bind (.throw _) fun _ => resolved
          | concrete value => exact resolved
          | array handle => exact resolved

theorem confined_capture (symbolicArrays : Bool) {entry : CallEntry}
    (kinds : List ArgumentKind)
    (covered : ∀ captured ∈ entry.arguments,
      ∀ source ∈ captured.sources heap, footprint source) :
    Confined heap footprint (capture symbolicArrays entry kinds) := by
  have zipped : ∀ argument ∈
      (entry.method.arguments.zip kinds).zip entry.arguments,
      ∀ source ∈ argument.2.sources heap, footprint source :=
    fun argument member => covered argument.2 (List.of_mem_zip member).2
  have captured := Confined.bind
    (confined_captureArguments symbolicArrays entry.method zipped)
    fun sorted => Confined.ofExcept
      (Snapshot.build entry.method sorted.1 sorted.2)
  by_cases miscounted : kinds.length ≠ entry.method.arguments.length ∨
      entry.arguments.length ≠ entry.method.arguments.length
  · simp only [capture, if_pos miscounted]
    exact .bind (.throw _) fun _ => captured
  · simp only [capture, if_neg miscounted]
    exact captured

theorem confined_resolveTest (symbolicArrays : Bool) {snapshot : Snapshot}
    (outcome : Outcome)
    (covered : ∀ argument ∈ snapshot.symbolic,
      ∀ source ∈ argument.2.sources heap, footprint source) :
    Confined heap footprint (resolveTest symbolicArrays snapshot outcome) := by
  apply Confined.bind
    (.map _ (Resolution.confined_resolveArguments symbolicArrays covered))
  intro given
  exact .ofExcept _

theorem confined_resolveExit (symbolicArrays : Bool) {snapshot : Snapshot}
    {returned : Option Captured}
    (returnCovered : ∀ captured ∈ returned,
      ∀ source ∈ captured.sources heap, footprint source)
    (covered : ∀ argument ∈ snapshot.symbolic,
      ∀ source ∈ argument.2.sources heap, footprint source) :
    Confined heap footprint (resolveExit symbolicArrays snapshot returned) := by
  apply Confined.bind
    (Resolution.confined_resolveReturn symbolicArrays snapshot.method returnCovered)
  intro outcome
  exact confined_resolveTest symbolicArrays outcome covered

end Engine

end TestSynth
