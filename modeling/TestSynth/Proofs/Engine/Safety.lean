import TestSynth.Proofs.Engine.Session
import TestSynth.Proofs.Report.Rendering

/-!
# Type safety of sessions

Whatever the machine reports, the snapshots of a session are sound and its test
cases are well-typed.  No fault of the engine comes from building a test case,
and no fault of a report from writing one.
-/

namespace TestSynth

namespace Engine

variable {symbolicArrays : Bool} {snapshot : Snapshot} {outcome : Outcome}
  {returned : Option Captured} {world after : World} {fault : Fault}

/-- What keeps a sound snapshot from becoming a test case is its resolution. -/
theorem fault_of_resolveTest (sound : snapshot.Sound)
    (fits : outcome.Fits snapshot.method.returnType)
    (ended : (resolveTest symbolicArrays snapshot outcome).Ends world
      (.error fault) after) :
    (Resolution.resolveSnapshot symbolicArrays snapshot).Ends world
      (.error fault) after := by
  rcases Resolution.ends_bind_iff.mp ended with
    ⟨given, middle, givenEnds, last⟩ | ⟨same, faultEnds, faultEq⟩
  · obtain ⟨test, built⟩ :=
      exists_build_of_resolveSnapshot sound fits givenEnds
    rw [built] at last
    cases (Resolution.ends_ofExcept_iff.mp last).1
  · cases faultEq
    exact faultEnds

theorem fault_of_resolveExit (sound : snapshot.Sound)
    (ended : (resolveExit symbolicArrays snapshot returned).Ends world
      (.error fault) after) :
    (Resolution.resolveReturn symbolicArrays snapshot.method returned).Ends
        world (.error fault) after ∨
      ∃ outcome middle,
        (Resolution.resolveReturn symbolicArrays snapshot.method returned).Ends
            world (.ok outcome) middle ∧
          (Resolution.resolveSnapshot symbolicArrays snapshot).Ends middle
            (.error fault) after := by
  rcases Resolution.ends_bind_iff.mp ended with
    ⟨outcome, middle, outcomeEnds, testEnds⟩ | ⟨same, faultEnds, faultEq⟩
  · have fits := (Resolution.reads_of_resolveReturn outcomeEnds).fits
    exact .inr ⟨outcome, middle, outcomeEnds,
      fault_of_resolveTest sound fits testEnds⟩
  · cases faultEq
    exact .inl faultEnds

end Engine

namespace Session

structure Sound (session : Session) : Prop where
  snapshots : ∀ activation snapshot,
    session.engine.snapshots.get? activation = some snapshot → snapshot.Sound
  tests : ∀ test ∈ session.engine.collection.tests, test.WellTyped

theorem sound_start (config : Config) (registry : Registry)
    (machine : Machine) : (start config registry machine).Sound := by
  constructor
  · intro activation snapshot tracked
    cases tracked
  · intro test member
    cases member

theorem sound_step {session : Session} (sound : session.Sound) (move : Move) :
    (session.step move).Sound := by
  cases move with
  | alter change =>
      exact {
        snapshots := sound.snapshots
        tests := sound.tests }
  | notify notification =>
      constructor
      · intro activation snapshot tracked
        rcases Engine.get?_handle tracked with
          known | ⟨entry, kinds, _, _, _, admissible, captures⟩
        · exact sound.snapshots activation snapshot known
        · exact captures.sound admissible
      · intro test member
        rcases Engine.mem_tests_handle member with
          kept | ⟨activation, snapshot, outcome, tracked, concludes, realizes⟩
        · exact sound.tests test kept
        · have origin := sound.snapshots activation snapshot tracked
          exact realizes.wellTyped origin concludes.fits

theorem sound_run (config : Config) (registry : Registry) (machine : Machine)
    (moves : List Move) : ((start config registry machine).run moves).Sound :=
  run_invariant (fun _ move sound => sound_step sound move)
    (sound_start config registry machine)

/-- In every session the test cases are well-typed, building a test case never
fails, and a report for either dialect fails with the sink only. -/
theorem run_typeSafe (config : Config) (registry : Registry)
    (machine : Machine) (moves : List Move) :
    let engine := ((start config registry machine).run moves).engine
    (∀ test ∈ engine.collection.tests, test.WellTyped) ∧
    (∀ activation snapshot,
      engine.snapshots.get? activation = some snapshot →
        ∀ world fault after,
          (∀ exception,
            (Engine.resolveTest engine.config.symbolicArrays snapshot
                (.threw exception)).Ends world (.error fault) after →
              (Resolution.resolveSnapshot engine.config.symbolicArrays
                snapshot).Ends world (.error fault) after) ∧
          ∀ returned,
            (Engine.resolveExit engine.config.symbolicArrays snapshot
                returned).Ends world (.error fault) after →
              (Resolution.resolveReturn engine.config.symbolicArrays
                  snapshot.method returned).Ends world (.error fault) after ∨
                ∃ outcome middle,
                  (Resolution.resolveReturn engine.config.symbolicArrays
                      snapshot.method returned).Ends world
                        (.ok outcome) middle ∧
                    (Resolution.resolveSnapshot engine.config.symbolicArrays
                      snapshot).Ends middle (.error fault) after) ∧
    ∀ dialect settings counter sink fault,
      ((JUnit.formatter dialect settings).formatAll counter
          engine.collection sink).result = .error fault →
        ∃ failure : SinkFailure, fault = .stream failure.reason := by
  intro engine
  have sound := sound_run config registry machine moves
  refine ⟨sound.tests, ?_, ?_⟩
  · intro activation snapshot tracked world fault after
    have origin := sound.snapshots activation snapshot tracked
    constructor
    · intro exception ended
      exact Engine.fault_of_resolveTest origin (.threw exception _) ended
    · intro returned ended
      exact Engine.fault_of_resolveExit origin ended
  · intro dialect settings counter sink fault failed
    obtain ⟨text, resultEq, _⟩ :=
      JUnit.formatAll_eq_deliver (JUnit.Style.ofConfig dialect settings)
        counter sink sound.tests
    have delivered : (sink.deliver text).1 = .error fault :=
      resultEq.symm.trans failed
    exact Sink.deliver_eq_error delivered

end Session

end TestSynth
