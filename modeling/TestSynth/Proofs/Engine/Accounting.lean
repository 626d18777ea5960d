import TestSynth.Proofs.Engine.Replay
import TestSynth.Proofs.Engine.Session

/-!
# Accounting

The counts of an engine agree with what it keeps: test cases that were new with
the collection, and snapshots with the table and those that were released.  Every
event is counted once for each snapshot that it concerns.
-/

namespace TestSynth

namespace SnapshotTable

variable {table : SnapshotTable} {activation : Activation}

theorem size_attach (untracked : table.contains activation = false)
    (snapshot : Snapshot) :
    (table.attach activation snapshot).2.size = table.size + 1 := by
  simp [attach, untracked, size]

/-- An activation has one entry at most. -/
theorem countP_key (table : SnapshotTable) (activation : Activation) :
    table.entries.countP (·.1 == activation) =
      (table.contains activation).toNat := by
  have count := table.distinct.count (a := activation)
  rw [List.count, List.countP_map] at count
  cases tracked : table.contains activation with
  | true =>
      rw [if_pos (contains_iff.mp tracked)] at count
      exact count
  | false =>
      have absent : activation ∉ table.entries.map (·.1) := by
        simp [← contains_iff, tracked]
      rw [if_neg absent] at count
      exact count

/-- A release makes a table smaller by one if it gives a snapshot. -/
theorem size_release (table : SnapshotTable) (activation : Activation) :
    (table.release activation).2.size +
        (table.release activation).1.isSome.toNat =
      table.size := by
  have split := table.entries.length_eq_countP_add_countP (·.1 == activation)
  simp only [release, size, ← List.countP_eq_length_filter]
  rw [split, countP_key, Nat.add_comm]
  congr 2
  funext entry
  by_cases same : entry.1 = activation <;> simp [same]

end SnapshotTable

/-- The counts of an engine agree with what it keeps, when so many snapshots were
released. -/
structure Engine.Balanced (engine : Engine) (released : Nat) : Prop where
  emitted : engine.statistics.emitted = engine.collection.size
  snapshots : engine.statistics.snapshots = engine.snapshots.size + released

namespace Engine

variable {engine finalEngine : Engine} {machine finalMachine : Machine}
  {exception : ThrownException} {event : CallExit} {entry : CallEntry}
  {pending : List Snapshot} {frames : List Frame} {result : Except Fault Unit}
  {released : Nat}

theorem Balanced.record (balanced : engine.Balanced released)
    (test : TestCase) : (engine.record test).1.Balanced released := by
  cases known : engine.collection.contains test with
  | true =>
      rw [record_of_contains known]
      exact ⟨balanced.emitted, balanced.snapshots⟩
  | false =>
      rw [record_of_not_contains known]
      constructor
      · rw [Collection.size_insert_of_not_contains known, ← balanced.emitted]
        rfl
      · exact balanced.snapshots

theorem Enters.balanced
    (enters : Enters entry engine machine result finalEngine finalMachine)
    (balanced : engine.Balanced released) : finalEngine.Balanced released := by
  cases enters with
  | @captured _ snapshot _ untracked _ _ _ =>
      constructor
      · exact balanced.emitted
      · have grown := SnapshotTable.size_attach untracked snapshot
        have counted := balanced.snapshots
        simp only [countSnapshot, grown]
        omega
  | _ => exact ⟨balanced.emitted, balanced.snapshots⟩

theorem Exits.balanced
    (exits : Exits event engine machine result finalEngine finalMachine)
    (balanced : engine.Balanced released) : finalEngine.Balanced released := by
  cases exits with
  | recorded _ _ _ => exact balanced.record _
  | _ => exact ⟨balanced.emitted, balanced.snapshots⟩

theorem Attributes.balanced
    (attributes : Attributes exception engine machine pending result
      finalEngine finalMachine)
    (balanced : engine.Balanced released) : finalEngine.Balanced released := by
  induction attributes with
  | done => exact balanced
  | recorded _ _ _ _ ih => exact ih (balanced.record _)
  | skipped _ _ _ ih => exact ih ⟨balanced.emitted, balanced.snapshots⟩
  | stopped _ _ => exact balanced

theorem Throws.balanced
    (throws : Throws exception engine machine result finalEngine finalMachine)
    (balanced : engine.Balanced released) : finalEngine.Balanced released := by
  cases throws with
  | untracked _ => exact balanced
  | abandoned _ _ => exact ⟨balanced.emitted, balanced.snapshots⟩
  | attributed _ attributes => exact attributes.balanced balanced

theorem Balanced.release (balanced : engine.Balanced released)
    (activation : Activation) :
    (engine.release activation).2.Balanced
      (released + (engine.release activation).1.toNat) := by
  constructor
  · exact balanced.emitted
  · have shrunk := engine.snapshots.size_release activation
    have counted := balanced.snapshots
    simp only [Engine.release]
    omega

theorem length_snapshotsOf (engine : Engine) (frames : List Frame) :
    (engine.snapshotsOf frames).length =
      frames.countP fun frame => engine.tracks frame.activation :=
  List.length_filterMap_eq_countP

/-- Every snapshot that an exception is attributed to is counted once, as a new
test case, as a known one or as left out. -/
theorem Attributes.statistics
    (attributes : Attributes exception engine machine pending (.ok ())
      finalEngine finalMachine) :
    ∃ fresh known left,
      fresh + known + left = pending.length ∧
        finalEngine.statistics =
          engine.statistics.tally fresh known left 0 := by
  generalize succeeded : Except.ok () = result at attributes
  induction attributes with
  | done => exact ⟨0, 0, 0, rfl, rfl⟩
  | @recorded engine _ _ _ _ _ test _ _ _ _ _ _ ih =>
      obtain ⟨isFresh, isKnown, single, first⟩ := statistics_record engine test
      obtain ⟨fresh, known, left, total, others⟩ := ih succeeded
      refine ⟨isFresh + fresh, isKnown + known, left, ?_, ?_⟩
      · rw [List.length_cons]
        omega
      · rw [others, first, Statistics.tally_tally, Nat.zero_add]
  | @skipped engine _ _ _ _ _ _ _ _ _ _ _ ih =>
      obtain ⟨fresh, known, left, total, others⟩ := ih succeeded
      change _ = engine.countSkipped.statistics.tally fresh known left 0 at others
      refine ⟨fresh, known, 1 + left, ?_, ?_⟩
      · rw [List.length_cons]
        omega
      · have skipped : engine.countSkipped.statistics =
            engine.statistics.tally 0 0 1 0 := rfl
        simp only [others, skipped, Statistics.tally_tally, Nat.zero_add]
  | stopped _ _ => cases succeeded

/-- An entry that succeeds counts a snapshot or a call that is left out, unless
the call is tracked already or its method is not. -/
theorem Enters.statistics
    (enters : Enters entry engine machine (.ok ()) finalEngine finalMachine) :
    if engine.tracks entry.activation = true ∨
        machine.classify entry.method = none then
      finalEngine = engine ∧ finalMachine = machine
    else
      finalEngine.statistics = engine.countSnapshot.statistics ∨
        finalEngine.statistics = engine.countSkipped.statistics := by
  cases enters with
  | known tracked =>
      rw [if_pos (.inl tracked)]
      exact ⟨rfl, rfl⟩
  | unclassified classified =>
      rw [if_pos (.inr classified)]
      exact ⟨rfl, rfl⟩
  | refused untracked classified _ =>
      rw [if_neg (by simp [untracked, classified])]
      exact .inr rfl
  | skipped untracked classified _ _ =>
      rw [if_neg (by simp [untracked, classified])]
      exact .inr rfl
  | captured untracked classified _ _ =>
      rw [if_neg (by simp [untracked, classified])]
      exact .inl rfl

/-- A return of a tracked call that succeeds is counted once. -/
theorem Exits.statistics
    (exits : Exits event engine machine (.ok ()) finalEngine finalMachine)
    (tracked : engine.tracks event.activation = true) :
    ∃ fresh known left up,
      fresh + known + left + up = 1 ∧
        finalEngine.statistics =
          engine.statistics.tally fresh known left up := by
  cases exits with
  | untracked untracked =>
      simp [tracks, SnapshotTable.contains, untracked] at tracked
  | abandoned _ _ => exact ⟨0, 0, 0, 1, rfl, rfl⟩
  | recorded _ _ _ =>
      obtain ⟨fresh, known, single, counted⟩ := statistics_record engine _
      exact ⟨fresh, known, 0, 0, single, counted⟩
  | skipped _ _ _ _ => exact ⟨0, 0, 1, 0, rfl, rfl⟩

/-- An exception that is handled without failing is counted once for each tracked
frame that it leaves, or once in all if the path cannot be taken. -/
theorem Throws.statistics
    (throws : Throws exception engine machine (.ok ()) finalEngine
      finalMachine) :
    let left := (machine.leftBy exception machine.stack).countP fun frame =>
      engine.tracks frame.activation
    if left ≠ 0 ∧ machine.pathCondition ≠ some true then
      finalEngine.statistics = engine.countAbandoned.statistics
    else
      ∃ fresh known skipped, fresh + known + skipped = left ∧
        finalEngine.statistics =
          engine.statistics.tally fresh known skipped 0 := by
  intro left
  have length : (engine.snapshotsOf
      (machine.leftBy exception machine.stack)).length = left :=
    length_snapshotsOf engine _
  rw [← length]
  cases throws with
  | untracked untracked =>
      rw [untracked, if_neg (fun given => given.1 rfl)]
      exact ⟨0, 0, 0, rfl, rfl⟩
  | abandoned tracked unsolvable =>
      rw [if_pos ⟨by simpa using tracked, unsolvable⟩]
  | attributed solvable attributes =>
      rw [if_neg (fun given => given.2 solvable)]
      exact attributes.statistics

end Engine

namespace Session

/-- Whether a move releases an activation that has a snapshot. -/
def removes (session : Session) : Move → Bool
  | .notify (.released activation) => (session.engine.release activation).1
  | _ => false

variable {session : Session} {released : Nat}

end Session

end TestSynth
