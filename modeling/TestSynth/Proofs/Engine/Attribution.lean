import TestSynth.Proofs.Engine.Recording

/-!
# Attribution of exceptions

An exception leaves the frames inside the first one that catches it.
`Attributes` says what becomes of their snapshots, one after the other; unwinding
the stack is adequate to it whenever the path can be taken.
-/

namespace TestSynth

/-- The frames that an exception leaves, the innermost one first. -/
def Machine.leftBy (machine : Machine) (exception : ThrownException)
    (frames : List Frame) : List Frame :=
  frames.takeWhile fun frame =>
    !machine.handlers frame.activation exception.typeName

/-- The snapshots of the frames that have one. -/
def Engine.snapshotsOf (engine : Engine) (frames : List Frame) : List Snapshot :=
  frames.filterMap fun frame => engine.snapshots.get? frame.activation

namespace Machine

variable {machine later earlier : Machine} {exception : ThrownException}
  {frame : Frame} {rest frames : List Frame}

theorem leftBy_cons_of_handled
    (handled : machine.handlers frame.activation exception.typeName = true) :
    machine.leftBy exception (frame :: rest) = [] := by
  simp [leftBy, handled]

theorem leftBy_cons_of_unhandled
    (unhandled : machine.handlers frame.activation exception.typeName = false) :
    machine.leftBy exception (frame :: rest) =
      frame :: machine.leftBy exception rest := by
  simp [leftBy, unhandled]

theorem Extends.leftBy (extension : later.Extends earlier) :
    later.leftBy exception frames = earlier.leftBy exception frames := by
  simp only [Machine.leftBy, extension.handlers]

theorem Realizes.mono (extension : later.Extends earlier) {snapshot : Snapshot}
    {outcome : Outcome} {test : TestCase}
    (realizes : earlier.Realizes snapshot outcome test) :
    later.Realizes snapshot outcome test := by
  obtain ⟨values, reads, permutation⟩ := realizes.arguments
  exact {
    method := realizes.method
    outcome := realizes.outcome
    arguments :=
      ⟨values, reads.imp fun _ _ => ReadsArgument.mono extension, permutation⟩
    ascending := realizes.ascending }

end Machine

namespace Engine

/-- Test cases are made of snapshots in order, each on the machine that the ones
before it left.  A test case has the method and the arguments of its snapshot and is
recorded.  A recoverable fault leaves a snapshot out, any other is the end. -/
inductive Attributes (exception : ThrownException) :
    Engine → Machine → List Snapshot →
      Except Fault Unit → Engine → Machine → Prop
  | done {engine : Engine} {machine : Machine} :
      Attributes exception engine machine [] (.ok ()) engine machine
  | recorded {engine finalEngine : Engine} {machine finalMachine : Machine}
      {snapshot : Snapshot} {rest : List Snapshot} {test : TestCase}
      {world : World} {result : Except Fault Unit} :
      (resolveTest engine.config.symbolicArrays snapshot
        (.threw exception)).Ends { machine := machine, log := [] }
          (.ok test) world →
      world.machine.Realizes snapshot (.threw exception) test →
      engine.Records test (engine.record test).1 →
      Attributes exception (engine.record test).1 world.machine rest
        result finalEngine finalMachine →
      Attributes exception engine machine (snapshot :: rest)
        result finalEngine finalMachine
  | skipped {engine finalEngine : Engine} {machine finalMachine : Machine}
      {snapshot : Snapshot} {rest : List Snapshot} {fault : Fault}
      {world : World} {result : Except Fault Unit} :
      (resolveTest engine.config.symbolicArrays snapshot
        (.threw exception)).Ends { machine := machine, log := [] }
          (.error fault) world →
      fault.isRecoverable = true →
      Attributes exception
        { engine with
          statistics :=
            { engine.statistics with skipped := engine.statistics.skipped + 1 } }
        world.machine rest
        result finalEngine finalMachine →
      Attributes exception engine machine (snapshot :: rest)
        result finalEngine finalMachine
  | stopped {engine : Engine} {machine : Machine} {snapshot : Snapshot}
      {rest : List Snapshot} {fault : Fault} {world : World} :
      (resolveTest engine.config.symbolicArrays snapshot
        (.threw exception)).Ends { machine := machine, log := [] }
          (.error fault) world →
      fault.isRecoverable = false →
      Attributes exception engine machine (snapshot :: rest)
        (.error fault) engine world.machine

variable {exception : ThrownException} {engine finalEngine : Engine}
  {machine finalMachine : Machine} {pending : List Snapshot}
  {result : Except Fault Unit} {frame : Frame} {rest frames : List Frame}

/-- A test case that was made is that of its snapshot, and is recorded. -/
theorem Attributes.of_resolved {snapshot : Snapshot} {test : TestCase} {world : World}
    (ended : (resolveTest engine.config.symbolicArrays snapshot
      (.threw exception)).Ends { machine := machine, log := [] } (.ok test) world)
    (others : Attributes exception (engine.record test).1 world.machine pending result
      finalEngine finalMachine) :
    Attributes exception engine machine (snapshot :: pending) result finalEngine
      finalMachine :=
  .recorded ended (realizes_of_resolveTest ended) (records_record engine test) others

@[simp] theorem snapshotsOf_record (test : TestCase) :
    (engine.record test).1.snapshotsOf frames = engine.snapshotsOf frames := by
  simp only [snapshotsOf, snapshots_record]

theorem snapshotsOf_cons_of_tracked {snapshot : Snapshot}
    (tracked : engine.snapshots.get? frame.activation = some snapshot) :
    engine.snapshotsOf (frame :: rest) =
      snapshot :: engine.snapshotsOf rest := by
  simp [snapshotsOf, tracked]

theorem snapshotsOf_cons_of_untracked
    (untracked : engine.snapshots.get? frame.activation = none) :
    engine.snapshotsOf (frame :: rest) = engine.snapshotsOf rest := by
  simp [snapshotsOf, untracked]

theorem Attributes.extends
    (attributes : Attributes exception engine machine pending result
      finalEngine finalMachine) :
    finalMachine.Extends machine := by
  induction attributes with
  | done => exact .refl _
  | recorded ended _ _ _ ih => exact ih.trans ((settles_resolveTest _ _ _).fills ended)
  | skipped ended _ _ ih => exact ih.trans ((settles_resolveTest _ _ _).fills ended)
  | stopped ended _ => exact (settles_resolveTest _ _ _).fills ended

theorem Attributes.deterministic
    {leftResult rightResult : Except Fault Unit}
    {leftEngine rightEngine : Engine} {leftMachine rightMachine : Machine}
    (left : Attributes exception engine machine pending leftResult
      leftEngine leftMachine)
    (right : Attributes exception engine machine pending rightResult
      rightEngine rightMachine) :
    leftResult = rightResult ∧ leftEngine = rightEngine ∧
      leftMachine = rightMachine := by
  induction left with
  | done =>
      cases right
      exact ⟨rfl, rfl, rfl⟩
  | recorded ended _ _ _ ih =>
      cases right with
      | recorded otherEnded _ _ others =>
          obtain ⟨same, rfl⟩ := ended.deterministic otherEnded
          cases same
          exact ih others
      | skipped otherEnded _ _ => cases (ended.deterministic otherEnded).1
      | stopped otherEnded _ => cases (ended.deterministic otherEnded).1
  | skipped ended recoverable _ ih =>
      cases right with
      | recorded otherEnded => cases (ended.deterministic otherEnded).1
      | skipped otherEnded _ others =>
          obtain ⟨_, rfl⟩ := ended.deterministic otherEnded
          exact ih others
      | stopped otherEnded final =>
          obtain ⟨same, _⟩ := ended.deterministic otherEnded
          cases same
          rw [recoverable] at final
          cases final
  | stopped ended final =>
      cases right with
      | recorded otherEnded => cases (ended.deterministic otherEnded).1
      | skipped otherEnded recoverable _ =>
          obtain ⟨same, _⟩ := ended.deterministic otherEnded
          cases same
          rw [recoverable] at final
          cases final
      | stopped otherEnded _ =>
          obtain ⟨same, rfl⟩ := ended.deterministic otherEnded
          cases same
          exact ⟨rfl, rfl, rfl⟩

/-- Every test case that is new was made of one of the snapshots. -/
theorem Attributes.mem_tests
    (attributes : Attributes exception engine machine pending result
      finalEngine finalMachine)
    {test : TestCase} (member : test ∈ finalEngine.collection.tests) :
    test ∈ engine.collection.tests ∨
      ∃ snapshot ∈ pending,
        finalMachine.Realizes snapshot (.threw exception) test := by
  induction attributes with
  | done => exact .inl member
  | recorded _ realized _ others ih =>
      rcases ih member with earlier | ⟨snapshot, origin, realizes⟩
      · rcases mem_tests_record earlier with kept | rfl
        · exact .inl kept
        · exact .inr ⟨_, List.mem_cons_self, realized.mono others.extends⟩
      · exact .inr ⟨snapshot, List.mem_cons_of_mem _ origin, realizes⟩
  | skipped ended _ others ih =>
      rcases ih member with earlier | ⟨snapshot, origin, realizes⟩
      · exact .inl earlier
      · exact .inr ⟨snapshot, List.mem_cons_of_mem _ origin, realizes⟩
  | stopped ended _ => exact .inl member

/-- Attribution changes the collection and counts only. -/
theorem Attributes.finalEngine_eq
    (attributes : Attributes exception engine machine pending result
      finalEngine finalMachine) :
    finalEngine =
      { engine with
        collection := finalEngine.collection
        statistics := finalEngine.statistics } := by
  induction attributes with
  | done => rfl
  | recorded _ _ _ _ ih =>
      rw [ih, record_frame]
  | skipped _ _ _ ih => exact ih
  | stopped _ _ => rfl

theorem attributes_unwind (exception : ThrownException) (engine : Engine)
    {machine : Machine} (solvable : machine.pathCondition = some true)
    (frames : List Frame) :
    Attributes exception engine machine
      (engine.snapshotsOf (machine.leftBy exception frames))
      (unwind exception engine machine frames).result
      (unwind exception engine machine frames).engine
      (unwind exception engine machine frames).machine := by
  -- Each resolution fills in the machine, but leaves its handlers, its path
  -- condition and the snapshots of the engine as they are.
  induction frames generalizing engine machine with
  | nil => exact .done
  | cons frame rest ih =>
      unfold unwind
      cases handled : machine.handlers frame.activation exception.typeName with
      | true =>
          rw [Machine.leftBy_cons_of_handled handled]
          exact .done
      | false =>
          rw [Machine.leftBy_cons_of_unhandled handled]
          cases tracked : engine.snapshots.get? frame.activation with
          | none =>
              rw [snapshotsOf_cons_of_untracked tracked]
              exact ih engine solvable
          | some snapshot =>
              rw [snapshotsOf_cons_of_tracked tracked]
              simp only [pathEvent?_eq_none_iff.mpr solvable]
              rcases resolved : runResolution
                  (resolveTest engine.config.symbolicArrays snapshot
                    (.threw exception)) machine with ⟨given, world⟩
              have extension := (settles_resolveTest _ _ _).fills resolved
              have stillSolvable := extension.solvable solvable
              cases given with
              | ok test =>
                  have others := ih (engine.record test).1 stillSolvable
                  rw [extension.leftBy, snapshotsOf_record] at others
                  exact .of_resolved resolved others
              | error fault =>
                  cases recoverable : fault.isRecoverable with
                  | true =>
                      have others := ih engine.countSkipped stillSolvable
                      rw [extension.leftBy] at others
                      simp only [skipTest_of_recoverable recoverable]
                      exact .skipped resolved recoverable others
                  | false =>
                      simp only [skipTest_of_not_recoverable recoverable]
                      exact .stopped resolved recoverable

theorem unwind_of_untracked (exception : ThrownException) (engine : Engine)
    (machine : Machine) (frames : List Frame)
    (untracked : engine.snapshotsOf (machine.leftBy exception frames) = []) :
    (unwind exception engine machine frames).result = .ok () ∧
      (unwind exception engine machine frames).engine = engine ∧
      (unwind exception engine machine frames).machine = machine := by
  induction frames with
  | nil => exact ⟨rfl, rfl, rfl⟩
  | cons frame rest ih =>
      unfold unwind
      cases handled : machine.handlers frame.activation exception.typeName with
      | true => exact ⟨rfl, rfl, rfl⟩
      | false =>
          rw [Machine.leftBy_cons_of_unhandled handled] at untracked
          cases tracked : engine.snapshots.get? frame.activation with
          | none =>
              rw [snapshotsOf_cons_of_untracked tracked] at untracked
              exact ih untracked
          | some snapshot =>
              rw [snapshotsOf_cons_of_tracked tracked] at untracked
              cases untracked

theorem unwind_of_unsolvable (exception : ThrownException) (engine : Engine)
    (machine : Machine) (unsolvable : machine.pathCondition ≠ some true)
    (frames : List Frame)
    (tracked : engine.snapshotsOf (machine.leftBy exception frames) ≠ []) :
    (unwind exception engine machine frames).result = .ok () ∧
      (unwind exception engine machine frames).engine =
        engine.countAbandoned ∧
      (unwind exception engine machine frames).machine = machine := by
  induction frames with
  | nil => exact absurd rfl tracked
  | cons frame rest ih =>
      unfold unwind
      cases handled : machine.handlers frame.activation exception.typeName with
      | true =>
          rw [Machine.leftBy_cons_of_handled handled] at tracked
          exact absurd rfl tracked
      | false =>
          rw [Machine.leftBy_cons_of_unhandled handled] at tracked
          cases found : engine.snapshots.get? frame.activation with
          | none =>
              rw [snapshotsOf_cons_of_untracked found] at tracked
              exact ih tracked
          | some snapshot =>
              cases event : pathEvent? machine snapshot.method with
              | some problem =>
                  simp only [event]
                  exact ⟨rfl, rfl, rfl⟩
              | none =>
                  exact absurd (pathEvent?_eq_none_iff.mp event) unsolvable

/-- The ways in which an exception is handled. -/
inductive Throws (exception : ThrownException) (engine : Engine)
    (machine : Machine) : Except Fault Unit → Engine → Machine → Prop
  | untracked :
      engine.snapshotsOf (machine.leftBy exception machine.stack) = [] →
      Throws exception engine machine (.ok ()) engine machine
  | abandoned :
      engine.snapshotsOf (machine.leftBy exception machine.stack) ≠ [] →
      machine.pathCondition ≠ some true →
      Throws exception engine machine (.ok ()) engine.countAbandoned machine
  | attributed {result : Except Fault Unit} {finalEngine : Engine}
      {finalMachine : Machine} :
      machine.pathCondition = some true →
      Attributes exception engine machine
        (engine.snapshotsOf (machine.leftBy exception machine.stack))
        result finalEngine finalMachine →
      Throws exception engine machine result finalEngine finalMachine

theorem throws_throwException (engine : Engine) (machine : Machine)
    (exception : ThrownException) :
    Throws exception engine machine
      (engine.throwException machine exception).result
      (engine.throwException machine exception).engine
      (engine.throwException machine exception).machine := by
  unfold throwException
  by_cases solvable : machine.pathCondition = some true
  · exact .attributed solvable
      (attributes_unwind exception engine solvable machine.stack)
  · by_cases tracked :
        engine.snapshotsOf (machine.leftBy exception machine.stack) = []
    · obtain ⟨resultEq, engineEq, machineEq⟩ :=
        unwind_of_untracked exception engine machine machine.stack tracked
      rw [resultEq, engineEq, machineEq]
      exact .untracked tracked
    · obtain ⟨resultEq, engineEq, machineEq⟩ :=
        unwind_of_unsolvable exception engine machine solvable machine.stack
          tracked
      rw [resultEq, engineEq, machineEq]
      exact .abandoned tracked solvable

theorem throwException_of_throws
    (throws : Throws exception engine machine result finalEngine
      finalMachine) :
    (engine.throwException machine exception).result = result ∧
      (engine.throwException machine exception).engine = finalEngine ∧
      (engine.throwException machine exception).machine = finalMachine := by
  cases throws with
  | untracked untracked =>
      exact unwind_of_untracked exception engine machine machine.stack untracked
  | abandoned tracked unsolvable =>
      exact unwind_of_unsolvable exception engine machine unsolvable
        machine.stack tracked
  | attributed solvable attributes =>
      exact (attributes_unwind exception engine solvable
        machine.stack).deterministic attributes

theorem Throws.extends
    (throws : Throws exception engine machine result finalEngine
      finalMachine) :
    finalMachine.Extends machine := by
  cases throws with
  | untracked _ => exact .refl machine
  | abandoned _ _ => exact .refl machine
  | attributed _ attributes => exact attributes.extends

theorem Throws.snapshots
    (throws : Throws exception engine machine result finalEngine
      finalMachine) :
    finalEngine.snapshots = engine.snapshots := by
  cases throws with
  | untracked _ => rfl
  | abandoned _ _ => rfl
  | attributed _ attributes => rw [attributes.finalEngine_eq]

theorem Throws.mem_tests
    (throws : Throws exception engine machine result finalEngine
      finalMachine)
    {test : TestCase} (member : test ∈ finalEngine.collection.tests) :
    test ∈ engine.collection.tests ∨
      ∃ snapshot ∈ engine.snapshotsOf (machine.leftBy exception machine.stack),
        finalMachine.Realizes snapshot (.threw exception) test := by
  cases throws with
  | untracked _ => exact .inl member
  | abandoned _ _ => exact .inl member
  | attributed _ attributes => exact attributes.mem_tests member

/-- An exception does nothing if no snapshot is left by it, counts once if the
path cannot be taken, and is attributed to the snapshots left by it otherwise, whose test
cases are recorded one after the other.  No other snapshot gets a test case. -/
theorem throwException_attributes (engine : Engine) (machine : Machine)
    (exception : ThrownException) :
    let left := engine.snapshotsOf (machine.leftBy exception machine.stack)
    let response := engine.throwException machine exception
    (left = [] →
      response.result = .ok () ∧ response.engine = engine ∧
        response.machine = machine) ∧
    (left ≠ [] → machine.pathCondition ≠ some true →
      response.result = .ok () ∧
        response.engine =
          { engine with
            statistics :=
              { engine.statistics with abandoned := engine.statistics.abandoned + 1 } } ∧
        response.machine = machine) ∧
    (left ≠ [] → machine.pathCondition = some true →
      ∀ result finalEngine finalMachine,
        Attributes exception engine machine left
            result finalEngine finalMachine ↔
          response.result = result ∧ response.engine = finalEngine ∧
            response.machine = finalMachine) ∧
    ∀ test ∈ response.engine.collection.tests,
      test ∈ engine.collection.tests ∨
        ∃ snapshot ∈ left,
          response.machine.Realizes snapshot (.threw exception) test := by
  have throws := throws_throwException engine machine exception
  refine ⟨?_, ?_, ?_, ?_⟩
  · intro untracked
    exact throwException_of_throws (.untracked untracked)
  · intro tracked unsolvable
    exact throwException_of_throws (.abandoned tracked unsolvable)
  · intro _ solvable result finalEngine finalMachine
    constructor
    · intro attributes
      exact throwException_of_throws (.attributed solvable attributes)
    · rintro ⟨rfl, rfl, rfl⟩
      exact attributes_unwind exception engine solvable machine.stack
  · intro test member
    exact throws.mem_tests member

end Engine

end TestSynth
