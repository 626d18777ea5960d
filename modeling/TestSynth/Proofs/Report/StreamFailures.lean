import TestSynth.Proofs.Report.Delivery
import TestSynth.Proofs.Text.Octets

/-!
# Failures of the stream

A sink that fails while a report is written to it makes the request fail, with a fault
that names the failure.  It is a fault of the stream, except that a document that is
cut short is reported as a fault of the document.
-/

namespace TestSynth

namespace Sink

/-- How the sink fails if so many bytes are written to it and, where this is asked for,
it is flushed: there is no room for all of them, or it cannot be flushed. -/
def failure? (sink : Sink) (flushes : Bool) (length : Nat) : Option SinkFailure :=
  if sink.room.any (· < length) then some .full
  else if flushes && !sink.canFlush then some .flush
  else none

variable {sink : Sink} {bytes : List UInt8}

theorem failure?_of_full {length : Nat} (full : sink.room.any (· < length) = true)
    (flushes : Bool) : sink.failure? flushes length = some .full := by
  rw [failure?, if_pos full]

theorem write_of_full (full : sink.room.any (· < bytes.length) = true) :
    (sink.write bytes).1 = .error .full := by
  rcases sink with ⟨_ | room, canFlush, received⟩
  · cases full
  · simpa [write] using full

theorem write_of_not_full (fits : sink.room.any (· < bytes.length) = false) :
    (sink.write bytes).1 = .ok () := by
  rcases sink with ⟨_ | room, canFlush, received⟩
  · rfl
  · simpa [write] using fits

/-- What was written has taken its part of the room. -/
theorem failure?_write (fits : sink.room.any (· < bytes.length) = false) (flushes : Bool)
    (length : Nat) :
    (sink.write bytes).2.failure? flushes length =
      sink.failure? flushes (bytes.length + length) := by
  rcases sink with ⟨_ | room, canFlush, received⟩
  · rfl
  · have inside : bytes.length ≤ room := by simpa using fits
    have rooms : room - bytes.length < length ↔ room < bytes.length + length := by omega
    simp [write, failure?, rooms]

theorem streamFault_write (sink : Sink) (bytes : List UInt8) :
    streamFault (sink.write bytes).1 =
      match sink.failure? false bytes.length with
      | some failure => .error (.stream failure.reason)
      | none => .ok () := by
  cases full : sink.room.any (· < bytes.length) with
  | true =>
      rw [write_of_full full, failure?_of_full full]
      rfl
  | false =>
      rw [write_of_not_full full, failure?, if_neg (by simp [full])]
      rfl

theorem streamFault_flush (sink : Sink) :
    streamFault sink.flush =
      match sink.failure? true 0 with
      | some failure => .error (.stream failure.reason)
      | none => .ok () := by
  rcases sink with ⟨_ | room, _ | _, received⟩ <;> rfl

/-- A text that is written and flushed meets the failure of the sink, if it has one. -/
theorem deliver_fst (sink : Sink) (text : String) :
    (sink.deliver text).1 =
      match sink.failure? true text.toUTF8.toList.length with
      | some failure => .error (.stream failure.reason)
      | none => .ok () := by
  have steps : (sink.deliver text).1 =
      (streamFault (sink.write text.toUTF8.toList).1 >>= fun _ =>
        streamFault (sink.write text.toUTF8.toList).2.flush) := rfl
  rw [steps]
  cases full : sink.room.any (· < text.toUTF8.toList.length) with
  | true =>
      rw [write_of_full full, failure?_of_full full]
      rfl
  | false =>
      rw [write_of_not_full full, streamFault_flush, failure?_write full, Nat.add_zero]
      rfl

end Sink

/-- A request to write to a sink fails where rendering fails, whatever the sink is, and
otherwise exactly if the sink fails, with the fault that goes with the failure. -/
structure FailsBy (flushes : Bool) (fault : Sink → Nat → SinkFailure → Fault)
    (request : Sink → Delivery) : Prop where
  refuses : ∀ unrenderable, (request .unlimited).result = .error unrenderable →
    ∀ sink, (request sink).result = .error unrenderable
  succeeds : (request .unlimited).result = .ok () →
    ∀ sink : Sink,
      sink.failure? flushes (request .unlimited).sink.received.length = none →
        (request sink).result = .ok ()
  fails : (request .unlimited).result = .ok () →
    ∀ (sink : Sink) failure,
      sink.failure? flushes (request .unlimited).sink.received.length = some failure →
        (request sink).result =
          .error (fault sink (request .unlimited).sink.received.length failure)

/-- A failure as one of the stream. -/
def Sink.streamFailure (_sink : Sink) (_length : Nat) (failure : SinkFailure) : Fault :=
  .stream failure.reason

/-- A failure of a sink that got a document, which is followed by one more byte. -/
def Sink.documentFailure (sink : Sink) (length : Nat) (failure : SinkFailure) : Fault :=
  if sink.room.any (· + 1 < length) then .document failure.reason
  else .stream failure.reason

section Requests

variable {flushes : Bool} {fault : Sink → Nat → SinkFailure → Fault}
  {request : Sink → Delivery}

/-- A request that writes a given number of bytes. -/
theorem failsBy_of_result (length : Nat)
    (written : (request .unlimited).sink.received.length = length)
    (result : ∀ sink : Sink, (request sink).result =
      match sink.failure? flushes length with
      | some failure => .error (fault sink length failure)
      | none => .ok ()) :
    FailsBy flushes fault request := by
  have accepted : (request .unlimited).result = .ok () := by
    rw [result]
    cases flushes <;> rfl
  rw [← written] at result
  constructor
  · intro unrenderable failed
    rw [accepted] at failed
    cases failed
  · intro _ sink none
    rw [result, none]
  · intro _ sink failure some
    rw [result, some]

/-- A request that fails before anything is written. -/
theorem failsBy_of_refuses (unrenderable : Fault)
    (refuses : ∀ sink, (request sink).result = .error unrenderable) :
    FailsBy flushes fault request := by
  constructor
  · intro other failed sink
    rw [refuses] at failed ⊢
    exact failed
  · intro accepted
    rw [refuses] at accepted
    cases accepted
  · intro accepted
    rw [refuses] at accepted
    cases accepted

end Requests

theorem Formatter.writeTest_failsBy (formatter : Formatter) (counter : Nat)
    (test : TestCase) :
    FailsBy false Sink.streamFailure (formatter.writeTest counter test) := by
  rcases formatted : formatter.formatTest counter test with ⟨fault | text, after⟩
  · apply failsBy_of_refuses fault
    intro sink
    simp only [writeTest, formatted]
  · refine failsBy_of_result text.toUTF8.toList.length ?_ ?_
    · simp only [writeTest, formatted]
      rfl
    · intro sink
      simp only [writeTest, formatted]
      exact sink.streamFault_write text.toUTF8.toList

theorem JUnit.formatAll_failsBy (style : Style) (counter : Nat) (collection : Collection) :
    FailsBy true Sink.streamFailure (formatAll style counter collection) := by
  rcases written : unitText style (resetCounter counter) collection with
    ⟨fault | text, last⟩
  · apply failsBy_of_refuses fault
    intro sink
    simp only [formatAll, written]
  · refine failsBy_of_result text.toUTF8.toList.length ?_ ?_
    · simp only [formatAll, written]
      rfl
    · intro sink
      simp only [formatAll, written]
      exact sink.deliver_fst text

/-- A document is followed by a line feed. -/
theorem Document.length_received (style : Style) (counter : Nat) (collection : Collection) :
    (formatAll style counter collection .unlimited).sink.received.length =
      (suiteText style (resetCounter counter) collection).toUTF8.toList.length + 1 := by
  have whole : (formatAll style counter collection .unlimited).sink.received =
      [] ++ (suiteText style (resetCounter counter) collection).toUTF8.toList ++
        "\n".toUTF8.toList := rfl
  have feed : "\n".toUTF8.toList.length = 1 := length_toUTF8 "\n"
  rw [whole, List.nil_append, List.length_append, feed]

theorem Document.formatAll_failsBy (style : Style) (counter : Nat)
    (collection : Collection) :
    FailsBy true Sink.documentFailure (formatAll style counter collection) := by
  let text := (suiteText style (resetCounter counter) collection).toUTF8.toList
  refine failsBy_of_result (text.length + 1) (length_received style counter collection) ?_
  intro sink
  have rooms : sink.room.any (· + 1 < text.length + 1) = sink.room.any (· < text.length) := by
    simp only [Nat.add_lt_add_iff_right]
  have feed : "\n".toUTF8.toList.length = 1 := length_toUTF8 "\n"
  rcases written : sink.write text with ⟨result, after⟩
  have writtenText :
      sink.writeText (suiteText style (resetCounter counter) collection) = (result, after) :=
    written
  have outcome : (sink.write text).1 = result := congrArg Prod.fst written
  cases full : sink.room.any (· < text.length) with
  | true =>
      rw [Sink.write_of_full full] at outcome
      subst outcome
      have longer : sink.room.any (· < text.length + 1) = true := by
        rw [Option.any_eq_true] at full ⊢
        obtain ⟨room, limited, short⟩ := full
        exact ⟨room, limited, by simpa using Nat.lt_succ_of_lt (of_decide_eq_true short)⟩
      simp only [formatAll, writtenText, Sink.failure?_of_full longer, Sink.documentFailure,
        rooms, full, if_true]
  | false =>
      rw [Sink.write_of_not_full full] at outcome
      subst outcome
      have remaining := Sink.failure?_write full true 1
      rw [written] at remaining
      simp only [formatAll, writtenText, Sink.deliver_fst, feed, remaining,
        Sink.documentFailure, rooms, full]
      rfl

namespace ReportKind

/-- The fault that goes with a failure of the sink a report of the kind is written to. -/
def failureFault : ReportKind → Sink → Nat → SinkFailure → Fault
  | .junit _ => Sink.streamFailure
  | .document => Sink.documentFailure

/-- A report fails by its sink exactly if the sink fails, and so does a single test.  The
failure is always reported as one of the stream, unless more than the final line feed of a
document is missing. -/
theorem failsBy_failureFault (kind : ReportKind) (config : Config) (counter : Nat) :
    (∀ collection,
      FailsBy true kind.failureFault
        ((kind.formatter config).formatAll counter collection)) ∧
    ∀ test,
      FailsBy false Sink.streamFailure ((kind.formatter config).writeTest counter test) := by
  refine ⟨fun collection => ?_, (kind.formatter config).writeTest_failsBy counter⟩
  cases kind with
  | junit dialect =>
      exact JUnit.formatAll_failsBy (.ofConfig dialect config) counter collection
  | document => exact Document.formatAll_failsBy (.ofConfig config) counter collection

/-- A document that is cut short does not count as a failure of the stream. -/
theorem failsBy_cut_document :
    let request := (ReportKind.document.formatter {}).formatAll 0 .empty
    let sink : Sink := { room := some 10, canFlush := true, received := [] }
    (request .unlimited).result = .ok () ∧
      sink.failure? true (request .unlimited).sink.received.length = some .full ∧
      (request sink).result = .error (.document "disk full") ∧
      ¬ FailsBy true Sink.streamFailure request := by
  intro request sink
  have failsBy : FailsBy true Sink.documentFailure request := Document.formatAll_failsBy _ 0 _
  have long : 11 < (request .unlimited).sink.received.length := by
    have size : 10 < (Document.suiteText (.ofConfig {}) 0 .empty).utf8ByteSize := by
      decide +kernel
    have length : (request .unlimited).sink.received.length = _ :=
      Document.length_received (.ofConfig {}) 0 .empty
    rw [length, length_toUTF8]
    exact Nat.succ_lt_succ size
  have narrow : sink.room.any (· < (request .unlimited).sink.received.length) = true :=
    decide_eq_true (Nat.lt_of_succ_lt long)
  have full : sink.failure? true (request .unlimited).sink.received.length = some .full :=
    Sink.failure?_of_full narrow true
  have accepted : (request .unlimited).result = .ok () := rfl
  have cut : (request sink).result = .error (.document "disk full") := by
    rw [failsBy.fails accepted sink .full full]
    exact congrArg Except.error (if_pos (decide_eq_true long))
  refine ⟨accepted, full, cut, fun uniform => ?_⟩
  have stream := uniform.fails accepted sink .full full
  rw [cut] at stream
  cases stream

end ReportKind

end TestSynth
