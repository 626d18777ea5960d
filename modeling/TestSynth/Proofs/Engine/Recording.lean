import TestSynth.Proofs.Engine.Capture
import TestSynth.Proofs.TestCase.Collecting

/-!
# Records of test cases

What the engine keeps of a resolution: a test case that it has not collected yet,
or a count.  Snapshots are kept apart by activation.
-/

namespace TestSynth

/-- An unsupported signature is a reason to leave a method out, never to stop. -/
theorem Method.recoverable_of_checkSignature {method : Method} {fault : Fault}
    (refused : method.checkSignature = .error fault) :
    fault.isRecoverable = true := by
  unfold checkSignature at refused
  split at refused
  · cases refused
    rfl
  · split at refused
    · cases refused
    · cases refused
      rfl

namespace SnapshotTable

variable {table : SnapshotTable} {activation other : Activation}
  {snapshot found : Snapshot}

theorem get?_attach (found? : (table.attach activation snapshot).2.get? other =
      some found) :
    table.get? other = some found ∨ other = activation ∧ found = snapshot := by
  unfold attach at found?
  split at found?
  · exact .inl found?
  · simp only [get?, List.find?_append] at found? ⊢
    cases known : table.entries.find? fun entry => entry.1 == other with
    | some entry =>
        rw [known] at found?
        exact .inl found?
    | none =>
        rw [known] at found?
        by_cases same : activation = other
        · exact .inr ⟨same.symm, by simpa [same] using found?.symm⟩
        · simp [same] at found?

theorem get?_release_self : (table.release activation).2.get? activation = none := by
  unfold release get?
  rw [List.find?_filter]
  simp

theorem get?_release_other (different : other ≠ activation) :
    (table.release activation).2.get? other = table.get? other := by
  unfold release get?
  rw [List.find?_filter]
  congr 2
  funext entry
  by_cases key : entry.1 = other
  · simp [key, different]
  · simp [key]

theorem get?_release (found? : (table.release activation).2.get? other =
      some found) :
    table.get? other = some found := by
  by_cases same : other = activation
  · rw [same, get?_release_self] at found?
    cases found?
  · rw [get?_release_other same] at found?
    exact found?

end SnapshotTable

namespace Engine

variable {engine : Engine} {test other : TestCase}

theorem record_frame (engine : Engine) (test : TestCase) :
    (engine.record test).1 =
      { engine with
        collection := (engine.record test).1.collection
        statistics := (engine.record test).1.statistics } := by
  unfold record
  split <;> rfl

@[simp] theorem config_record :
    (engine.record test).1.config = engine.config := by
  rw [record_frame]

@[simp] theorem snapshots_record :
    (engine.record test).1.snapshots = engine.snapshots := by
  rw [record_frame]

theorem record_of_contains (known : engine.collection.contains test = true) :
    (engine.record test).1 = engine.countDuplicate := by
  simp [record, Collection.offer_eq, known, Collection.insert_of_contains known,
    countDuplicate]

theorem record_of_not_contains
    (fresh : engine.collection.contains test = false) :
    (engine.record test).1 =
      { engine.countEmitted with
        collection := engine.collection.insert test } := by
  simp [record, Collection.offer_eq, fresh]

/-- A test case is recorded.  A new one comes into the collection and is counted as
emitted, one that is there already is counted as a duplicate.  Nothing else changes. -/
inductive Records (engine : Engine) (test : TestCase) : Engine → Prop
  | emitted {collection : Collection} :
      ¬ engine.collection.Has test → engine.collection.Gains test collection →
      Records engine test
        { engine with
          collection := collection
          statistics :=
            { engine.statistics with emitted := engine.statistics.emitted + 1 } }
  | duplicate :
      engine.collection.Has test →
      Records engine test
        { engine with
          statistics :=
            { engine.statistics with duplicates := engine.statistics.duplicates + 1 } }

theorem records_record (engine : Engine) (test : TestCase) :
    engine.Records test (engine.record test).1 := by
  cases known : engine.collection.contains test with
  | true =>
      rw [record_of_contains known]
      exact .duplicate (Collection.contains_iff_has.mp known)
  | false =>
      rw [record_of_not_contains known]
      refine .emitted ?_ (Collection.gains_insert known)
      rw [← Collection.contains_iff_has, known]
      exact Bool.false_ne_true

theorem mem_tests_record
    (member : other ∈ (engine.record test).1.collection.tests) :
    other ∈ engine.collection.tests ∨ other = test := by
  cases known : engine.collection.contains test with
  | true =>
      rw [record_of_contains known] at member
      exact .inl member
  | false =>
      rw [record_of_not_contains known] at member
      exact Collection.mem_tests_insert member

theorem contains_record_self :
    (engine.record test).1.collection.contains test = true := by
  cases known : engine.collection.contains test with
  | true =>
      rw [record_of_contains known]
      exact known
  | false =>
      rw [record_of_not_contains known]
      exact Collection.contains_insert_self

theorem contains_record_of_contains
    (known : engine.collection.contains other = true) :
    (engine.record test).1.collection.contains other = true := by
  cases recorded : engine.collection.contains test with
  | true =>
      rw [record_of_contains recorded]
      exact known
  | false =>
      rw [record_of_not_contains recorded]
      exact Collection.contains_insert_of_contains known

theorem skipTest_of_recoverable {fault : Fault}
    (recoverable : fault.isRecoverable = true) :
    engine.skipTest fault =
      (.ok (), engine.countSkipped,
        [{ level := .warn
           message := fault.message ++ ", test case skipped" }]) := by
  simp [skipTest, recoverable]

theorem skipTest_of_not_recoverable {fault : Fault}
    (final : fault.isRecoverable = false) :
    engine.skipTest fault = (.error fault, engine, []) := by
  simp [skipTest, final]

/-- A method that is left out is remembered, so that the next warning is not
about it. -/
theorem skipMethod_of_recoverable (engine : Engine) (method : Method)
    {fault : Fault} (recoverable : fault.isRecoverable = true) :
    ∃ log, engine.skipMethod method fault =
      (.ok (),
        { engine.countSkipped with rejected := engine.rejected.insert method },
        log) := by
  by_cases rejected : method ∈ engine.rejected
  · exact ⟨[trace (fault.message ++ ", skipping")],
      by simp [skipMethod, recoverable, rejected, countSkipped]⟩
  · exact ⟨[{ level := .warn, message := fault.message ++ ", skipping" }],
      by simp [skipMethod, recoverable, rejected]⟩

theorem pathEvent?_eq_none_iff {machine : Machine} {method : Method} :
    pathEvent? machine method = none ↔ machine.pathCondition = some true := by
  unfold pathEvent?
  rcases machine.pathCondition with _ | (_ | _) <;> simp

end Engine

end TestSynth
