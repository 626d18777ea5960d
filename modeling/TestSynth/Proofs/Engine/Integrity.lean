import Mathlib.Data.List.TakeWhile
import TestSynth.Proofs.Engine.Handling

/-!
# Integrity of the engine

An event that fails, or that no test case comes of, leaves the engine as it was
up to one count.  An exception that fails on its way keeps what was made of the
frames before.
-/

namespace TestSynth

namespace Engine

variable {exception : ThrownException} {engine finalEngine : Engine}
  {machine finalMachine : Machine} {event : CallExit} {entry : CallEntry}
  {pending : List Snapshot} {frames : List Frame} {fault : Fault}

/-- A test case comes of the return of a call: the call is tracked, the path can
be taken and everything is resolved. -/
def Yields (engine : Engine) (machine : Machine) (event : CallExit)
    (test : TestCase) : Prop :=
  ∃ snapshot world,
    engine.snapshots.get? event.activation = some snapshot ∧
      machine.pathCondition = some true ∧
      (resolveExit engine.config.symbolicArrays snapshot event.returned).Ends
        { machine := machine, log := [] } (.ok test) world

/-- Attribution that stops has gone through the snapshots before successfully. -/
theorem Attributes.split_of_error
    (attributes : Attributes exception engine machine pending (.error fault)
      finalEngine finalMachine) :
    ∃ before snapshot after middle world,
      pending = before ++ snapshot :: after ∧
        Attributes exception engine machine before (.ok ()) finalEngine
          middle ∧
        (resolveTest engine.config.symbolicArrays snapshot
          (.threw exception)).Ends { machine := middle, log := [] }
            (.error fault) world ∧
        fault.isRecoverable = false ∧ finalMachine = world.machine := by
  generalize failed : Except.error fault = result at attributes
  induction attributes with
  | done => cases failed
  | recorded ended _ _ _ ih =>
      obtain ⟨before, snapshot, after, middle, world, rfl, earlier, stop, last⟩ :=
        ih failed
      rw [config_record] at stop
      exact ⟨_ :: before, snapshot, after, middle, world, rfl,
        .of_resolved ended earlier, stop, last⟩
  | skipped ended recoverable _ ih =>
      obtain ⟨before, snapshot, after, middle, world, rfl, earlier, stop, last⟩ :=
        ih failed
      exact ⟨_ :: before, snapshot, after, middle, world, rfl,
        .skipped ended recoverable earlier, stop, last⟩
  | stopped ended final =>
      cases failed
      exact ⟨[], _, _, _, _, rfl, .done, ended, final, rfl⟩

/-- The snapshots before a given one are those of the frames before a given
frame. -/
theorem snapshotsOf_eq_append_cons {before after : List Snapshot}
    {snapshot : Snapshot}
    (split : engine.snapshotsOf frames = before ++ snapshot :: after) :
    ∃ inner frame,
      inner ++ [frame] <+: frames ∧ engine.snapshotsOf inner = before ∧
        engine.snapshots.get? frame.activation = some snapshot := by
  obtain ⟨first, others, rfl, firstEq, othersEq⟩ :=
    List.filterMap_eq_append_iff.mp split
  obtain ⟨untracked, frame, outer, rfl, skipped, tracked, _⟩ :=
    List.filterMap_eq_cons_iff.mp othersEq
  have nothing : engine.snapshotsOf untracked = [] :=
    List.filterMap_eq_nil_iff.mpr skipped
  refine ⟨first ++ untracked, frame, ⟨outer, by simp⟩, ?_, tracked⟩
  rw [snapshotsOf, List.filterMap_append, firstEq]
  simpa [snapshotsOf] using nothing

theorem leftBy_eq_self {inner : List Frame}
    (leaves : inner <+: machine.leftBy exception frames) :
    machine.leftBy exception inner = inner := by
  apply List.takeWhile_eq_self_iff.mpr
  intro frame member
  have escapes := List.mem_takeWhile_imp (leaves.subset member)
  exact escapes

theorem Enters.engine_of_error
    (enters : Enters entry engine machine (.error fault) finalEngine
      finalMachine) :
    finalEngine = engine := by
  cases enters with
  | stopped _ _ _ _ => rfl

theorem Exits.engine_of_error
    (exits : Exits event engine machine (.error fault) finalEngine
      finalMachine) :
    finalEngine = engine := by
  cases exits with
  | stopped _ _ _ _ => rfl

/-- A return that succeeds without a test case counts once, unless its call is
not tracked. -/
theorem Exits.engine_of_ok
    (exits : Exits event engine machine (.ok ()) finalEngine finalMachine)
    (fruitless : ∀ test, ¬ engine.Yields machine event test) :
    (engine.snapshots.get? event.activation = none ∧ finalEngine = engine) ∨
      (engine.snapshots.get? event.activation ≠ none ∧
        machine.pathCondition ≠ some true ∧
        finalEngine = engine.countAbandoned) ∨
      engine.snapshots.get? event.activation ≠ none ∧
        machine.pathCondition = some true ∧
        finalEngine = engine.countSkipped := by
  cases exits with
  | untracked untracked => exact .inl ⟨untracked, rfl⟩
  | abandoned tracked unsolvable =>
      exact .inr (.inl ⟨by simp [tracked], unsolvable, rfl⟩)
  | recorded tracked solvable ended =>
      exact absurd ⟨_, _, tracked, solvable, ended⟩ (fruitless _)
  | skipped tracked solvable _ _ =>
      exact .inr (.inr ⟨by simp [tracked], solvable, rfl⟩)

/-- Exactly this test case is recorded then. -/
theorem record_of_yields {test : TestCase}
    (yields : engine.Yields machine event test) :
    (engine.exit machine event).result = .ok () ∧
      (engine.exit machine event).engine = (engine.record test).1 := by
  obtain ⟨snapshot, world, tracked, solvable, ended⟩ := yields
  have exits := exit_of_exits (.recorded tracked solvable ended)
  exact ⟨exits.1, exits.2.1⟩

/-- An exception whose handling fails at a frame has been carried successfully
through the frames inside that one. -/
theorem Throws.split_of_error
    (throws : Throws exception engine machine (.error fault) finalEngine
      finalMachine) :
    ∃ inner frame snapshot world,
      inner ++ [frame] <+: machine.leftBy exception machine.stack ∧
        engine.snapshots.get? frame.activation = some snapshot ∧
        (unwind exception engine machine inner).result = .ok () ∧
        (resolveTest engine.config.symbolicArrays snapshot
          (.threw exception)).Ends
            { machine := (unwind exception engine machine inner).machine
              log := [] }
            (.error fault) world ∧
        fault.isRecoverable = false ∧
        finalEngine = (unwind exception engine machine inner).engine ∧
        finalMachine = world.machine := by
  cases throws with
  | attributed solvable attributes =>
      obtain ⟨before, snapshot, after, middle, world, split, earlier, stop,
        final, machineEq⟩ := attributes.split_of_error
      obtain ⟨inner, frame, leaves, beforeEq, tracked⟩ :=
        snapshotsOf_eq_append_cons split
      have unwound := attributes_unwind exception engine solvable inner
      rw [leftBy_eq_self ((List.prefix_append inner [frame]).trans leaves),
        beforeEq] at unwound
      obtain ⟨resultEq, engineEq, middleEq⟩ := earlier.deterministic unwound
      rw [middleEq] at stop
      exact ⟨inner, frame, snapshot, world, leaves, tracked, resultEq.symm,
        stop, final, engineEq, machineEq⟩

/-- A call that fails to be entered or to return leaves the engine as it was, a
return without a test case counts at most, and an exception that fails at a frame
keeps what unwinding the frames inside that one has made. -/
theorem handle_intact (engine : Engine) (machine : Machine) :
    (∀ entry fault, (engine.enter machine entry).result = .error fault →
      (engine.enter machine entry).engine = engine) ∧
    (∀ event,
      let response := engine.exit machine event
      (∀ fault, response.result = .error fault → response.engine = engine) ∧
      (response.result = .ok () →
        (∀ test, ¬ engine.Yields machine event test) →
        (engine.snapshots.get? event.activation = none ∧
          response.engine = engine) ∨
        (engine.snapshots.get? event.activation ≠ none ∧
          machine.pathCondition ≠ some true ∧
          response.engine = engine.countAbandoned) ∨
        engine.snapshots.get? event.activation ≠ none ∧
          machine.pathCondition = some true ∧
          response.engine = engine.countSkipped)) ∧
    ∀ exception fault,
      let response := engine.throwException machine exception
      response.result = .error fault →
        ∃ inner frame snapshot world,
          let earlier := unwind exception engine machine inner
          inner ++ [frame] <+: machine.leftBy exception machine.stack ∧
            engine.snapshots.get? frame.activation = some snapshot ∧
            earlier.result = .ok () ∧
            (resolveTest engine.config.symbolicArrays snapshot
              (.threw exception)).Ends
                { machine := earlier.machine, log := [] }
                (.error fault) world ∧
            fault.isRecoverable = false ∧
            response.engine = earlier.engine ∧
            response.machine = world.machine := by
  refine ⟨?_, ?_, ?_⟩
  · intro entry fault failed
    have enters := enters_enter engine machine entry
    rw [failed] at enters
    exact enters.engine_of_error
  · intro event
    have exits := exits_exit engine machine event
    constructor
    · intro fault failed
      rw [failed] at exits
      exact exits.engine_of_error
    · intro succeeded fruitless
      rw [succeeded] at exits
      exact exits.engine_of_ok fruitless
  · intro exception fault response failed
    have throws := throws_throwException engine machine exception
    rw [failed] at throws
    exact throws.split_of_error

end Engine

end TestSynth
