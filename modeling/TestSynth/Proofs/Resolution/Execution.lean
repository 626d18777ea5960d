import TestSynth.Synthesis.Engine

/-!
# Runs of resolutions

`Ends` says how a resolution ends when it is started in a world.  A sequence of
resolutions ends either in its last part or with the fault of an earlier one;
no proof about resolution has to open the monad beyond this.
-/

namespace TestSynth.Resolution

/-- A resolution started in a world gives a result and leaves another world. -/
def Ends {α : Type} (resolution : Resolution α) (world : World)
    (result : Except Fault α) (after : World) : Prop :=
  resolution.run.run world = (result, after)

variable {α β : Type} {world after : World}

theorem Ends.deterministic {resolution : Resolution α}
    {left right : Except Fault α} {leftAfter rightAfter : World}
    (leftEnds : resolution.Ends world left leftAfter)
    (rightEnds : resolution.Ends world right rightAfter) :
    left = right ∧ leftAfter = rightAfter := by
  have pairs : (left, leftAfter) = (right, rightAfter) :=
    leftEnds.symm.trans rightEnds
  exact Prod.mk.inj pairs

@[simp] theorem ends_pure_iff {value : α} {result : Except Fault α} :
    (pure value : Resolution α).Ends world result after ↔
      result = .ok value ∧ after = world := by
  constructor
  · intro ended
    obtain ⟨rfl, rfl⟩ := Prod.mk.inj ended
    exact ⟨rfl, rfl⟩
  · rintro ⟨rfl, rfl⟩
    rfl

@[simp] theorem ends_throw_iff {fault : Fault} {result : Except Fault α} :
    (throw fault : Resolution α).Ends world result after ↔
      result = .error fault ∧ after = world := by
  constructor
  · intro ended
    obtain ⟨rfl, rfl⟩ := Prod.mk.inj ended
    exact ⟨rfl, rfl⟩
  · rintro ⟨rfl, rfl⟩
    rfl

@[simp] theorem ends_ofExcept_iff {given result : Except Fault α} :
    (ofExcept given).Ends world result after ↔
      result = given ∧ after = world := by
  constructor
  · intro ended
    obtain ⟨rfl, rfl⟩ := Prod.mk.inj ended
    exact ⟨rfl, rfl⟩
  · rintro ⟨rfl, rfl⟩
    rfl

@[simp] theorem ends_emit_iff {event : LogEvent} {result : Except Fault Unit} :
    (emit event).Ends world result after ↔
      result = .ok () ∧ after = { world with log := world.log ++ [event] } := by
  constructor
  · intro ended
    obtain ⟨rfl, rfl⟩ := Prod.mk.inj ended
    exact ⟨rfl, rfl⟩
  · rintro ⟨rfl, rfl⟩
    rfl

@[simp] theorem ends_assign_iff {source : Variable} {solution : Solution}
    {result : Except Fault Unit} :
    (assign source solution).Ends world result after ↔
      result = .ok () ∧
        after = { world with machine := world.machine.assign source solution } := by
  constructor
  · intro ended
    obtain ⟨rfl, rfl⟩ := Prod.mk.inj ended
    exact ⟨rfl, rfl⟩
  · rintro ⟨rfl, rfl⟩
    rfl

theorem ends_machine_bind_iff {body : Machine → Resolution α}
    {result : Except Fault α} :
    (machine >>= body).Ends world result after ↔
      (body world.machine).Ends world result after :=
  Iff.rfl

theorem run_bind (first : Resolution α) (next : α → Resolution β)
    (world : World) :
    (first >>= next).run.run world =
      match first.run.run world with
      | (.ok value, middle) => (next value).run.run middle
      | (.error fault, middle) => (.error fault, middle) := by
  change ExceptT.bindCont next (first.run.run world).1
    (first.run.run world).2 = _
  rcases first.run.run world with ⟨given, middle⟩
  cases given with
  | ok value => rfl
  | error fault => rfl

theorem ends_bind_iff {first : Resolution α} {next : α → Resolution β}
    {result : Except Fault β} :
    (first >>= next).Ends world result after ↔
      (∃ value middle, first.Ends world (.ok value) middle ∧
        (next value).Ends middle result after) ∨
      (∃ fault, first.Ends world (.error fault) after ∧
        result = .error fault) := by
  unfold Ends
  rw [run_bind]
  rcases first.run.run world with ⟨given, middle⟩
  cases given with
  | ok value =>
      constructor
      · intro ended
        exact .inl ⟨value, middle, rfl, ended⟩
      · rintro (⟨_, _, same, ended⟩ | ⟨_, same, _⟩)
        · cases same
          exact ended
        · cases same
  | error fault =>
      constructor
      · intro ended
        obtain ⟨rfl, rfl⟩ := Prod.mk.inj ended
        exact .inr ⟨fault, rfl, rfl⟩
      · rintro (⟨_, _, same, _⟩ | ⟨_, same, rfl⟩)
        · cases same
        · cases same
          rfl

theorem ends_bind_ok_iff {first : Resolution α} {next : α → Resolution β}
    {result : β} :
    (first >>= next).Ends world (.ok result) after ↔
      ∃ value middle, first.Ends world (.ok value) middle ∧
        (next value).Ends middle (.ok result) after := by
  rw [ends_bind_iff]
  constructor
  · rintro (succeeded | ⟨_, _, impossible⟩)
    · exact succeeded
    · cases impossible
  · exact .inl

theorem ends_map_iff {change : α → β} {resolution : Resolution α}
    {result : Except Fault β} :
    (change <$> resolution).Ends world result after ↔
      ∃ given, resolution.Ends world given after ∧
        result = given.map change := by
  have asBind : change <$> resolution =
      resolution >>= fun value => pure (change value) := rfl
  rw [asBind, ends_bind_iff]
  constructor
  · rintro (⟨value, middle, ended, last⟩ | ⟨fault, ended, rfl⟩)
    · obtain ⟨rfl, rfl⟩ := ends_pure_iff.mp last
      exact ⟨.ok value, ended, rfl⟩
    · exact ⟨.error fault, ended, rfl⟩
  · rintro ⟨given, ended, rfl⟩
    cases given with
    | ok value => exact .inl ⟨value, after, ended, ends_pure_iff.mpr ⟨rfl, rfl⟩⟩
    | error fault => exact .inr ⟨fault, ended, rfl⟩

/-- A free variable is given its default; a solved one is read as it is. -/
theorem ends_resolveVariable_iff {slot : String} {primitive : Primitive}
    {source : Variable} {result : Except Fault Scalar} :
    (resolveVariable slot primitive source).Ends world result after ↔
      (world.machine.solutions source = .undefined ∧
        result = ofSolution slot primitive primitive.family.defaultSolution ∧
        after =
          { machine :=
              world.machine.assign source primitive.family.defaultSolution
            log := world.log ++
              [defaultEvent slot primitive.family.defaultSolution] }) ∨
      (world.machine.solutions source ≠ .undefined ∧
        result = ofSolution slot primitive (world.machine.solutions source) ∧
        after = world) := by
  unfold resolveVariable
  rw [ends_machine_bind_iff]
  cases world.machine.solutions source with
  | undefined =>
      simp [ends_bind_iff, ends_assign_iff]
  | integer value => simp
  | real bits => simp

end TestSynth.Resolution
