import TestSynth.Proofs.Engine.Handling

/-!
# Replay of notifications

When the end of a call is handled once more, every resolution ends as it did
before, since the machine has settled, and every test case is known.  Only counts
change.
-/

namespace TestSynth

/-- The counts after so many more test cases were new, known, left out or given
up. -/
def Statistics.tally (statistics : Statistics) (fresh known left up : Nat) :
    Statistics :=
  { statistics with
    emitted := statistics.emitted + fresh
    duplicates := statistics.duplicates + known
    skipped := statistics.skipped + left
    abandoned := statistics.abandoned + up }

theorem Statistics.tally_tally (statistics : Statistics)
    (fresh known left up fresh' known' left' up' : Nat) :
    (statistics.tally fresh known left up).tally fresh' known' left' up' =
      statistics.tally (fresh + fresh') (known + known') (left + left')
        (up + up') := by
  simp [tally, Nat.add_assoc]

def Engine.tally (engine : Engine) (fresh known left up : Nat) : Engine :=
  { engine with statistics := engine.statistics.tally fresh known left up }

theorem Engine.tally_tally (engine : Engine)
    (fresh known left up fresh' known' left' up' : Nat) :
    (engine.tally fresh known left up).tally fresh' known' left' up' =
      engine.tally (fresh + fresh') (known + known') (left + left')
        (up + up') := by
  simp [tally, Statistics.tally_tally]

/-- The second response repeats the first one.  What it counts are known test
cases in place of new ones. -/
structure Response.Repeats (second first : Response) (before : Statistics) :
    Prop where
  result : second.result = first.result
  engine : second.engine =
    { first.engine with statistics := second.engine.statistics }
  machine : second.machine =
    { first.machine with ignoredBranches := second.machine.ignoredBranches }
  counts : ∃ fresh known left up,
    first.engine.statistics = before.tally fresh known left up ∧
      second.engine.statistics =
        first.engine.statistics.tally 0 (fresh + known) left up

theorem Response.repeats_of_tally {second first : Response}
    {before : Statistics} {fresh known left up branches : Nat}
    (counted : first.engine.statistics = before.tally fresh known left up)
    (resultEq : second.result = first.result)
    (engineEq : second.engine = first.engine.tally 0 (fresh + known) left up)
    (machineEq : second.machine =
      { first.machine with ignoredBranches := branches }) :
    second.Repeats first before := by
  constructor
  · exact resultEq
  · rw [engineEq]
    rfl
  · rw [machineEq]
  · refine ⟨fresh, known, left, up, counted, ?_⟩
    rw [engineEq]
    rfl

namespace Engine

variable {engine finalEngine : Engine} {machine finalMachine : Machine}
  {exception : ThrownException} {pending : List Snapshot}
  {result : Except Fault Unit} {test : TestCase}

/-- A test case is counted once, as new or as known. -/
theorem statistics_record (engine : Engine) (test : TestCase) :
    ∃ fresh known, fresh + known = 1 ∧
      (engine.record test).1.statistics =
        engine.statistics.tally fresh known 0 0 := by
  cases recorded : engine.collection.contains test with
  | true =>
      refine ⟨0, 1, rfl, ?_⟩
      rw [record_of_contains recorded]
      rfl
  | false =>
      refine ⟨1, 0, rfl, ?_⟩
      rw [record_of_not_contains recorded]
      rfl

theorem Attributes.contains
    (attributes : Attributes exception engine machine pending result
      finalEngine finalMachine)
    (known : engine.collection.contains test = true) :
    finalEngine.collection.contains test = true := by
  induction attributes with
  | done => exact known
  | recorded _ _ _ _ ih => exact ih (contains_record_of_contains known)
  | skipped _ _ _ ih => exact ih known
  | stopped _ _ => exact known

/-- Attribution on a machine that has settled, by an engine that has the test
cases, only counts. -/
theorem Attributes.again
    (attributes : Attributes exception engine machine pending result
      finalEngine finalMachine)
    (laterEngine : Engine) {laterMachine : Machine}
    (config : laterEngine.config = engine.config)
    (collected : ∀ test, finalEngine.collection.contains test = true →
      laterEngine.collection.contains test = true)
    (extension : laterMachine.Extends finalMachine) :
    ∃ fresh known left,
      finalEngine.statistics = engine.statistics.tally fresh known left 0 ∧
        Attributes exception laterEngine laterMachine pending result
          (laterEngine.tally 0 (fresh + known) left 0) laterMachine := by
  -- The later machine is fixed throughout: it has settled for every snapshot at
  -- once.  The later engine varies, since it counts on its way.
  induction attributes generalizing laterEngine with
  | done => exact ⟨0, 0, 0, rfl, .done⟩
  | @recorded engine _ machine _ snapshot _ test _ _ ended _ _ others ih =>
      obtain ⟨log, endedLater⟩ := (settles_resolveTest _ _ _).again ended
        { machine := laterMachine, log := [] }
        (extension.trans others.extends)
      have recorded : (laterEngine.record test).1 = laterEngine.tally 0 1 0 0 :=
        record_of_contains
          (collected test (others.contains contains_record_self))
      obtain ⟨fresh, known, left, counted, othersLater⟩ :=
        ih (laterEngine.tally 0 1 0 0)
          (config.trans config_record.symm) collected extension
      obtain ⟨isFresh, isKnown, single, first⟩ := statistics_record engine test
      refine ⟨isFresh + fresh, isKnown + known, left, ?_, ?_⟩
      · rw [counted, first, Statistics.tally_tally, Nat.zero_add]
      · have once : 1 + (fresh + known) = isFresh + fresh + (isKnown + known) := by
          omega
        simp only [Engine.tally_tally, once, Nat.zero_add] at othersLater
        rw [← recorded] at othersLater
        rw [← config] at endedLater
        exact .of_resolved endedLater othersLater
  | @skipped engine _ _ _ _ _ _ _ _ ended recoverable others ih =>
      obtain ⟨log, endedLater⟩ := (settles_resolveTest _ _ _).again ended
        { machine := laterMachine, log := [] }
        (extension.trans others.extends)
      obtain ⟨fresh, known, left, counted, othersLater⟩ :=
        ih laterEngine.countSkipped config collected extension
      change _ = engine.countSkipped.statistics.tally fresh known left 0 at counted
      refine ⟨fresh, known, 1 + left, ?_, ?_⟩
      · have skipped : engine.countSkipped.statistics =
            engine.statistics.tally 0 0 1 0 := rfl
        simp only [counted, skipped, Statistics.tally_tally, Nat.zero_add]
      · have skipped : laterEngine.countSkipped = laterEngine.tally 0 0 1 0 :=
          rfl
        rw [skipped, Engine.tally_tally] at othersLater
        simp only [Nat.zero_add] at othersLater
        rw [← config] at endedLater
        exact .skipped endedLater recoverable othersLater
  | stopped ended final =>
      obtain ⟨log, endedLater⟩ := (settles_resolveTest _ _ _).again ended
        { machine := laterMachine, log := [] } extension
      rw [← config] at endedLater
      exact ⟨0, 0, 0, rfl, .stopped endedLater final⟩

theorem prune_frame (engine : Engine) (machine : Machine) (method : Method)
    (activation : Activation) :
    (engine.prune machine method activation).1 =
      { machine with
        ignoredBranches :=
          (engine.prune machine method activation).1.ignoredBranches } := by
  unfold prune
  split <;> rfl

theorem Exits.again {event : CallExit}
    (exits : Exits event engine machine result finalEngine finalMachine) :
    ∃ fresh known left up branches,
      finalEngine.statistics = engine.statistics.tally fresh known left up ∧
        Exits event finalEngine finalMachine result
          (finalEngine.tally 0 (fresh + known) left up)
          { finalMachine with ignoredBranches := branches } := by
  cases exits with
  | untracked untracked =>
      exact ⟨0, 0, 0, 0, machine.ignoredBranches, rfl, .untracked untracked⟩
  | abandoned tracked unsolvable =>
      exact ⟨0, 0, 0, 1, machine.ignoredBranches, rfl,
        .abandoned tracked unsolvable⟩
  | @recorded snapshot test world tracked solvable ended =>
      let first := (engine.record test).1
      let pruned := (first.prune world.machine snapshot.method event.activation).1
      have pruning : pruned.Extends world.machine :=
        extends_prune first world.machine snapshot.method event.activation
      have extension := pruning.trans ((settles_resolveExit _ _ _).fills ended)
      obtain ⟨log, endedLater⟩ := (settles_resolveExit _ _ _).again ended
        { machine := pruned, log := [] } pruning
      have recorded : (first.record test).1 = first.tally 0 1 0 0 :=
        record_of_contains contains_record_self
      have trackedLater :
          first.snapshots.get? event.activation = some snapshot := by
        rw [snapshots_record]
        exact tracked
      have solvableLater := extension.solvable solvable
      rw [← @config_record engine test] at endedLater
      have exitsLater := Exits.recorded trackedLater solvableLater endedLater
      rw [recorded, prune_frame] at exitsLater
      obtain ⟨isFresh, isKnown, single, counted⟩ := statistics_record engine test
      let prunedAgain := ((first.tally 0 1 0 0).prune pruned snapshot.method
        event.activation).1
      refine ⟨isFresh, isKnown, 0, 0, prunedAgain.ignoredBranches, counted, ?_⟩
      rw [single]
      exact exitsLater
  | @skipped snapshot fault world tracked solvable ended recoverable =>
      have extension := (settles_resolveExit _ _ _).fills ended
      obtain ⟨log, endedLater⟩ := (settles_resolveExit _ _ _).again ended
        { machine := world.machine, log := [] } (.refl _)
      have solvableLater := extension.solvable solvable
      refine ⟨0, 0, 1, 0, world.machine.ignoredBranches, rfl, ?_⟩
      exact @Exits.skipped event engine.countSkipped world.machine snapshot
        fault { world with log := log } tracked solvableLater endedLater
        recoverable
  | @stopped snapshot fault world tracked solvable ended final =>
      have extension := (settles_resolveExit _ _ _).fills ended
      obtain ⟨log, endedLater⟩ := (settles_resolveExit _ _ _).again ended
        { machine := world.machine, log := [] } (.refl _)
      have solvableLater := extension.solvable solvable
      refine ⟨0, 0, 0, 0, world.machine.ignoredBranches, rfl, ?_⟩
      exact @Exits.stopped event engine world.machine snapshot fault
        { world with log := log } tracked solvableLater endedLater final

theorem Throws.again
    (throws : Throws exception engine machine result finalEngine
      finalMachine) :
    ∃ fresh known left up,
      finalEngine.statistics = engine.statistics.tally fresh known left up ∧
        Throws exception finalEngine finalMachine result
          (finalEngine.tally 0 (fresh + known) left up) finalMachine := by
  cases throws with
  | untracked untracked => exact ⟨0, 0, 0, 0, rfl, .untracked untracked⟩
  | abandoned tracked unsolvable =>
      exact ⟨0, 0, 0, 1, rfl, .abandoned tracked unsolvable⟩
  | attributed solvable attributes =>
      have extension := attributes.extends
      have frame := attributes.finalEngine_eq
      have config : finalEngine.config = engine.config := by
        rw [frame]
      have sameSnapshots : finalEngine.snapshots = engine.snapshots := by
        rw [frame]
      obtain ⟨fresh, known, left, counted, attributesLater⟩ :=
        attributes.again finalEngine config (fun _ known => known) (.refl finalMachine)
      refine ⟨fresh, known, left, 0, counted,
        .attributed (extension.solvable solvable) ?_⟩
      rw [extension.leftBy, extension.stack]
      simp only [snapshotsOf, sameSnapshots]
      exact attributesLater

/-- Handling the end of a call once more gives the same result and changes
neither the collection nor a solution. -/
theorem handle_again (engine : Engine) (machine : Machine) :
    (∀ event,
      let first := engine.handle machine (.exited event)
      (first.engine.handle first.machine (.exited event)).Repeats first
        engine.statistics) ∧
    ∀ exception,
      let first := engine.handle machine (.thrown exception)
      (first.engine.handle first.machine (.thrown exception)).Repeats first
        engine.statistics := by
  constructor
  · intro event first
    obtain ⟨fresh, known, left, up, branches, counted, exitsLater⟩ :=
      (exits_exit engine machine event).again
    obtain ⟨resultEq, engineEq, machineEq⟩ := exit_of_exits exitsLater
    exact Response.repeats_of_tally counted resultEq engineEq machineEq
  · intro exception first
    obtain ⟨fresh, known, left, up, counted, throwsLater⟩ :=
      (throws_throwException engine machine exception).again
    obtain ⟨resultEq, engineEq, machineEq⟩ :=
      throwException_of_throws throwsLater
    exact Response.repeats_of_tally counted resultEq engineEq machineEq

end Engine

end TestSynth
