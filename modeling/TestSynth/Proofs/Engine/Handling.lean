import TestSynth.Proofs.Engine.Attribution

/-!
# Handling of notifications

What a notification can do to the engine and to the machine: capture a snapshot,
make test cases of the snapshots there are, or leave everything but counts as it
is.  The machine only has free variables filled in.
-/

namespace TestSynth

namespace Engine

/-- The ways in which the entry of a method is handled. -/
inductive Enters (entry : CallEntry) (engine : Engine) (machine : Machine) :
    Except Fault Unit → Engine → Machine → Prop
  | known :
      engine.tracks entry.activation = true →
      Enters entry engine machine (.ok ()) engine machine
  | unclassified :
      machine.classify entry.method = none →
      Enters entry engine machine (.ok ()) engine machine
  | refused {kinds : List ArgumentKind} {fault : Fault} :
      engine.tracks entry.activation = false →
      machine.classify entry.method = some kinds →
      entry.method.checkSignature = .error fault →
      Enters entry engine machine (.ok ())
        { engine.countSkipped with
          rejected := engine.rejected.insert entry.method }
        machine
  | skipped {kinds : List ArgumentKind} {fault : Fault} {world : World} :
      engine.tracks entry.activation = false →
      machine.classify entry.method = some kinds →
      (capture engine.config.symbolicArrays entry kinds).Ends
        { machine := machine, log := [] } (.error fault) world →
      fault.isRecoverable = true →
      Enters entry engine machine (.ok ()) engine.countSkipped world.machine
  | stopped {kinds : List ArgumentKind} {fault : Fault} {world : World} :
      engine.tracks entry.activation = false →
      machine.classify entry.method = some kinds →
      (capture engine.config.symbolicArrays entry kinds).Ends
        { machine := machine, log := [] } (.error fault) world →
      fault.isRecoverable = false →
      Enters entry engine machine (.error fault) engine world.machine
  | captured {kinds : List ArgumentKind} {snapshot : Snapshot}
      {world : World} :
      engine.tracks entry.activation = false →
      machine.classify entry.method = some kinds →
      entry.method.checkSignature = .ok () →
      (capture engine.config.symbolicArrays entry kinds).Ends
        { machine := machine, log := [] } (.ok snapshot) world →
      Enters entry engine machine (.ok ())
        { engine.countSnapshot with
          snapshots :=
            (engine.snapshots.attach entry.activation snapshot).2 }
        world.machine

/-- The ways in which the return of a call is handled. -/
inductive Exits (event : CallExit) (engine : Engine) (machine : Machine) :
    Except Fault Unit → Engine → Machine → Prop
  | untracked :
      engine.snapshots.get? event.activation = none →
      Exits event engine machine (.ok ()) engine machine
  | abandoned {snapshot : Snapshot} :
      engine.snapshots.get? event.activation = some snapshot →
      machine.pathCondition ≠ some true →
      Exits event engine machine (.ok ()) engine.countAbandoned machine
  | recorded {snapshot : Snapshot} {test : TestCase} {world : World} :
      engine.snapshots.get? event.activation = some snapshot →
      machine.pathCondition = some true →
      (resolveExit engine.config.symbolicArrays snapshot event.returned).Ends
        { machine := machine, log := [] } (.ok test) world →
      Exits event engine machine (.ok ()) (engine.record test).1
        ((engine.record test).1.prune world.machine snapshot.method
          event.activation).1
  | skipped {snapshot : Snapshot} {fault : Fault} {world : World} :
      engine.snapshots.get? event.activation = some snapshot →
      machine.pathCondition = some true →
      (resolveExit engine.config.symbolicArrays snapshot event.returned).Ends
        { machine := machine, log := [] } (.error fault) world →
      fault.isRecoverable = true →
      Exits event engine machine (.ok ()) engine.countSkipped world.machine
  | stopped {snapshot : Snapshot} {fault : Fault} {world : World} :
      engine.snapshots.get? event.activation = some snapshot →
      machine.pathCondition = some true →
      (resolveExit engine.config.symbolicArrays snapshot event.returned).Ends
        { machine := machine, log := [] } (.error fault) world →
      fault.isRecoverable = false →
      Exits event engine machine (.error fault) engine world.machine

variable {engine : Engine} {machine : Machine}

theorem enters_enter (engine : Engine) (machine : Machine)
    (entry : CallEntry) :
    Enters entry engine machine (engine.enter machine entry).result
      (engine.enter machine entry).engine
      (engine.enter machine entry).machine := by
  unfold enter
  cases tracked : engine.tracks entry.activation with
  | true => exact .known tracked
  | false =>
      cases classified : machine.classify entry.method with
      | none => exact .unclassified classified
      | some kinds =>
          cases admissible : entry.method.checkSignature with
          | error fault =>
              obtain ⟨log, skipping⟩ := skipMethod_of_recoverable engine entry.method
                (Method.recoverable_of_checkSignature admissible)
              simp only [Bool.false_eq_true, if_false, skipping]
              exact .refused tracked classified admissible
          | ok _ =>
              rcases resolved : runResolution
                  (capture engine.config.symbolicArrays entry kinds)
                  machine with ⟨given, world⟩
              cases given with
              | ok snapshot =>
                  simp only [resolved]
                  exact .captured tracked classified admissible resolved
              | error fault =>
                  cases recoverable : fault.isRecoverable with
                  | true =>
                      simp only [resolved, skipTest_of_recoverable recoverable]
                      exact .skipped tracked classified resolved recoverable
                  | false =>
                      simp only [resolved,
                        skipTest_of_not_recoverable recoverable]
                      exact .stopped tracked classified resolved recoverable

theorem exits_exit (engine : Engine) (machine : Machine) (event : CallExit) :
    Exits event engine machine (engine.exit machine event).result
      (engine.exit machine event).engine
      (engine.exit machine event).machine := by
  unfold exit
  cases tracked : engine.snapshots.get? event.activation with
  | none => exact .untracked tracked
  | some snapshot =>
      cases problem : pathEvent? machine snapshot.method with
      | some warning =>
          have unsolvable : machine.pathCondition ≠ some true := by
            intro solvable
            rw [pathEvent?_eq_none_iff.mpr solvable] at problem
            cases problem
          simp only [problem]
          exact .abandoned tracked unsolvable
      | none =>
          have solvable := pathEvent?_eq_none_iff.mp problem
          rcases resolved : runResolution
              (resolveExit engine.config.symbolicArrays snapshot
                event.returned) machine with ⟨given, world⟩
          cases given with
          | ok test =>
              simp only [problem, resolved]
              exact .recorded tracked solvable resolved
          | error fault =>
              cases recoverable : fault.isRecoverable with
              | true =>
                  simp only [problem, resolved,
                    skipTest_of_recoverable recoverable]
                  exact .skipped tracked solvable resolved recoverable
              | false =>
                  simp only [problem, resolved,
                    skipTest_of_not_recoverable recoverable]
                  exact .stopped tracked solvable resolved recoverable

theorem exit_of_exits {event : CallExit} {result : Except Fault Unit}
    {finalEngine : Engine} {finalMachine : Machine}
    (exits : Exits event engine machine result finalEngine finalMachine) :
    (engine.exit machine event).result = result ∧
      (engine.exit machine event).engine = finalEngine ∧
      (engine.exit machine event).machine = finalMachine := by
  unfold exit
  cases exits with
  | untracked untracked => simp only [untracked, and_self]
  | abandoned tracked unsolvable =>
      simp only [tracked]
      split
      · exact ⟨rfl, rfl, rfl⟩
      · rename_i solvable
        exact absurd (pathEvent?_eq_none_iff.mp solvable) unsolvable
  | recorded tracked solvable resolved =>
      have run : runResolution _ machine = _ := resolved
      simp only [tracked, pathEvent?_eq_none_iff.mpr solvable, run, and_self]
  | skipped tracked solvable resolved recoverable =>
      have run : runResolution _ machine = _ := resolved
      simp only [tracked, pathEvent?_eq_none_iff.mpr solvable, run,
        skipTest_of_recoverable recoverable, and_self]
  | stopped tracked solvable resolved final =>
      have run : runResolution _ machine = _ := resolved
      simp only [tracked, pathEvent?_eq_none_iff.mpr solvable, run,
        skipTest_of_not_recoverable final, and_self]

theorem extends_prune (engine : Engine) (machine : Machine) (method : Method)
    (activation : Activation) :
    (engine.prune machine method activation).1.Extends machine := by
  unfold prune
  split
  · exact .ignoreBranch machine
  · exact .refl machine

theorem realizes_of_resolveExit {symbolicArrays : Bool} {snapshot : Snapshot}
    {returned : Option Captured} {test : TestCase} {world after : World}
    (ended : (resolveExit symbolicArrays snapshot returned).Ends world
      (.ok test) after) :
    ∃ outcome,
      after.machine.ReadsReturn snapshot.method.returnType returned outcome ∧
        after.machine.Realizes snapshot outcome test := by
  obtain ⟨outcome, middle, outcomeEnds, testEnds⟩ :=
    Resolution.ends_bind_ok_iff.mp ended
  have extension := (settles_resolveTest _ _ _).fills testEnds
  have reads := Resolution.reads_of_resolveReturn outcomeEnds
  exact ⟨outcome, reads.mono extension, realizes_of_resolveTest testEnds⟩

end Engine

/-- A notification ends the call of an activation in a given way. -/
inductive Machine.Concludes (machine : Machine) (method : Method) :
    Notification → Activation → Outcome → Prop
  | returned {event : CallExit} {outcome : Outcome} :
      machine.ReadsReturn method.returnType event.returned outcome →
      Concludes machine method (.exited event) event.activation outcome
  | threw {exception : ThrownException} {frame : Frame} :
      frame ∈ machine.leftBy exception machine.stack →
      Concludes machine method (.thrown exception) frame.activation
        (.threw exception)

theorem Machine.Concludes.readsReturn {machine : Machine} {method : Method}
    {event : CallExit} {activation : Activation} {outcome : Outcome}
    (concludes : machine.Concludes method (.exited event) activation outcome) :
    machine.ReadsReturn method.returnType event.returned outcome := by
  cases concludes with
  | returned reads => exact reads

theorem Machine.Concludes.fits {machine : Machine} {method : Method}
    {notification : Notification} {activation : Activation} {outcome : Outcome}
    (concludes : machine.Concludes method notification activation outcome) :
    outcome.Fits method.returnType := by
  cases concludes with
  | returned reads => exact reads.fits
  | threw _ => exact .threw _ _

namespace Engine

variable {engine : Engine} {machine : Machine} {notification : Notification}

theorem Exits.extends {event : CallExit} {result : Except Fault Unit}
    {finalEngine : Engine} {finalMachine : Machine}
    (exits : Exits event engine machine result finalEngine finalMachine) :
    finalMachine.Extends machine := by
  cases exits with
  | untracked _ => exact .refl machine
  | abandoned _ _ => exact .refl machine
  | recorded _ _ ended =>
      exact (extends_prune _ _ _ _).trans
        ((settles_resolveExit _ _ _).fills ended)
  | skipped _ _ ended _ => exact (settles_resolveExit _ _ _).fills ended
  | stopped _ _ ended _ => exact (settles_resolveExit _ _ _).fills ended

theorem Enters.extends {entry : CallEntry} {result : Except Fault Unit}
    {finalEngine : Engine} {finalMachine : Machine}
    (enters : Enters entry engine machine result finalEngine finalMachine) :
    finalMachine.Extends machine := by
  cases enters with
  | known _ => exact .refl machine
  | unclassified _ => exact .refl machine
  | refused _ _ _ => exact .refl machine
  | skipped _ _ ended _ => exact (settles_capture _ _ _).fills ended
  | stopped _ _ ended _ => exact (settles_capture _ _ _).fills ended
  | captured _ _ _ ended => exact (settles_capture _ _ _).fills ended

theorem extends_handle (engine : Engine) (machine : Machine)
    (notification : Notification) :
    (engine.handle machine notification).machine.Extends machine := by
  cases notification with
  | entered entry => exact (enters_enter engine machine entry).extends
  | exited event => exact (exits_exit engine machine event).extends
  | thrown exception =>
      exact (throws_throwException engine machine exception).extends
  | released activation => exact .refl machine

theorem Enters.collection {entry : CallEntry} {result : Except Fault Unit}
    {finalEngine : Engine} {finalMachine : Machine}
    (enters : Enters entry engine machine result finalEngine finalMachine) :
    finalEngine.collection = engine.collection := by
  cases enters <;> rfl

theorem Enters.get? {entry : CallEntry} {result : Except Fault Unit}
    {finalEngine : Engine} {finalMachine : Machine}
    (enters : Enters entry engine machine result finalEngine finalMachine)
    {activation : Activation} {snapshot : Snapshot}
    (tracked : finalEngine.snapshots.get? activation = some snapshot) :
    engine.snapshots.get? activation = some snapshot ∨
      ∃ kinds,
        entry.activation = activation ∧
          machine.classify entry.method = some kinds ∧
          entry.method.checkSignature = .ok () ∧
          finalMachine.Captures entry kinds snapshot := by
  cases enters with
  | captured _ classified admissible ended =>
      rcases SnapshotTable.get?_attach tracked with known | ⟨rfl, rfl⟩
      · exact .inl known
      · exact .inr ⟨_, rfl, classified, admissible,
          captures_of_capture ended⟩
  | _ => exact .inl tracked

theorem Exits.snapshots {event : CallExit} {result : Except Fault Unit}
    {finalEngine : Engine} {finalMachine : Machine}
    (exits : Exits event engine machine result finalEngine finalMachine) :
    finalEngine.snapshots = engine.snapshots := by
  cases exits with
  | recorded _ _ _ => exact snapshots_record
  | _ => rfl

theorem Exits.mem_tests {event : CallExit} {result : Except Fault Unit}
    {finalEngine : Engine} {finalMachine : Machine}
    (exits : Exits event engine machine result finalEngine finalMachine)
    {test : TestCase} (member : test ∈ finalEngine.collection.tests) :
    test ∈ engine.collection.tests ∨
      ∃ snapshot outcome,
        engine.snapshots.get? event.activation = some snapshot ∧
          finalMachine.ReadsReturn snapshot.method.returnType event.returned
            outcome ∧
          finalMachine.Realizes snapshot outcome test := by
  cases exits with
  | untracked _ => exact .inl member
  | abandoned _ _ => exact .inl member
  | @recorded snapshot _ world tracked _ ended =>
      rcases mem_tests_record member with kept | rfl
      · exact .inl kept
      · obtain ⟨outcome, reads, realizes⟩ := realizes_of_resolveExit ended
        have extension := extends_prune (engine.record test).1 world.machine
          snapshot.method event.activation
        exact .inr ⟨_, outcome, tracked, reads.mono extension,
          realizes.mono extension⟩
  | skipped _ _ _ _ => exact .inl member
  | stopped _ _ _ _ => exact .inl member

theorem Enters.settings {entry : CallEntry} {result : Except Fault Unit}
    {finalEngine : Engine} {finalMachine : Machine}
    (enters : Enters entry engine machine result finalEngine finalMachine) :
    finalEngine.config = engine.config ∧
      finalEngine.registry = engine.registry := by
  cases enters <;> exact ⟨rfl, rfl⟩

theorem Exits.settings {event : CallExit} {result : Except Fault Unit}
    {finalEngine : Engine} {finalMachine : Machine}
    (exits : Exits event engine machine result finalEngine finalMachine) :
    finalEngine.config = engine.config ∧
      finalEngine.registry = engine.registry := by
  cases exits with
  | recorded _ _ _ =>
      rw [record_frame]
      exact ⟨rfl, rfl⟩
  | _ => exact ⟨rfl, rfl⟩

theorem Throws.settings {exception : ThrownException} {result : Except Fault Unit}
    {finalEngine : Engine} {finalMachine : Machine}
    (throws : Throws exception engine machine result finalEngine finalMachine) :
    finalEngine.config = engine.config ∧
      finalEngine.registry = engine.registry := by
  cases throws with
  | attributed _ attributes =>
      rw [attributes.finalEngine_eq]
      exact ⟨rfl, rfl⟩
  | _ => exact ⟨rfl, rfl⟩

/-- A notification changes neither the configuration nor the registry. -/
theorem settings_handle (engine : Engine) (machine : Machine)
    (notification : Notification) :
    (engine.handle machine notification).engine.config = engine.config ∧
      (engine.handle machine notification).engine.registry = engine.registry := by
  cases notification with
  | entered entry => exact (enters_enter engine machine entry).settings
  | exited event => exact (exits_exit engine machine event).settings
  | thrown exception => exact (throws_throwException engine machine exception).settings
  | released activation => exact ⟨rfl, rfl⟩

/-- A new test case realizes a snapshot whose call the notification ends. -/
theorem mem_tests_handle {test : TestCase}
    (member : test ∈
      (engine.handle machine notification).engine.collection.tests) :
    test ∈ engine.collection.tests ∨
      ∃ activation snapshot outcome,
        engine.snapshots.get? activation = some snapshot ∧
          (engine.handle machine notification).machine.Concludes
            snapshot.method notification activation outcome ∧
          (engine.handle machine notification).machine.Realizes snapshot
            outcome test := by
  cases notification with
  | entered entry =>
      have unchanged := (enters_enter engine machine entry).collection
      simp only [handle, unchanged] at member
      exact .inl member
  | exited event =>
      rcases (exits_exit engine machine event).mem_tests member with
        kept | ⟨snapshot, outcome, tracked, reads, realizes⟩
      · exact .inl kept
      · exact .inr ⟨_, snapshot, outcome, tracked, .returned reads, realizes⟩
  | thrown exception =>
      have throws := throws_throwException engine machine exception
      rcases throws.mem_tests member with kept | ⟨snapshot, origin, realizes⟩
      · exact .inl kept
      · obtain ⟨frame, left, tracked⟩ := List.mem_filterMap.mp origin
        rw [← throws.extends.leftBy, ← throws.extends.stack] at left
        exact .inr ⟨frame.activation, snapshot, _, tracked, .threw left,
          realizes⟩
  | released activation => exact .inl member

/-- A new snapshot captures a tracked method that tests can be written for. -/
theorem get?_handle {activation : Activation} {snapshot : Snapshot}
    (tracked : (engine.handle machine notification).engine.snapshots.get?
      activation = some snapshot) :
    engine.snapshots.get? activation = some snapshot ∨
      ∃ entry kinds,
        notification = .entered entry ∧ entry.activation = activation ∧
          machine.classify entry.method = some kinds ∧
          entry.method.checkSignature = .ok () ∧
          (engine.handle machine notification).machine.Captures entry kinds
            snapshot := by
  cases notification with
  | entered entry =>
      rcases (enters_enter engine machine entry).get? tracked with
        known | ⟨kinds, same, classified, admissible, captures⟩
      · exact .inl known
      · exact .inr ⟨entry, kinds, rfl, same, classified, admissible, captures⟩
  | exited event =>
      have unchanged := (exits_exit engine machine event).snapshots
      simp only [handle, unchanged] at tracked
      exact .inl tracked
  | thrown exception =>
      have unchanged :=
        (throws_throwException engine machine exception).snapshots
      simp only [handle, unchanged] at tracked
      exact .inl tracked
  | released released => exact .inl (SnapshotTable.get?_release tracked)

end Engine

end TestSynth
