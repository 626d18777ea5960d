import TestSynth.Proofs.Report.Concatenation
import TestSynth.Synthesis.Engine

/-!
# Delivery of reports

Whatever a sink does, it receives a front of the report: a report is written from its
first byte on, and nothing is written after a failure.  This does not depend on the
pieces in which the report is written.
-/

namespace TestSynth

namespace Sink

variable {sink : Sink}

end Sink

/-- A request to write to a sink leaves on every sink a front of what it leaves on one
that accepts everything.  It succeeds if it succeeds there, all of it is accepted and,
if it flushes the sink, this succeeds too.  If it fails there, it writes nothing. -/
structure DeliversFront (flushes : Bool) (request : Sink → Delivery) : Prop where
  received : ∀ room canFlush before,
    let whole := (request .unlimited).sink.received
    (request { room := some room, canFlush := canFlush, received := before }).sink.received =
      before ++ whole.take (min room whole.length)
  succeeds : ∀ room canFlush before,
    (request { room := some room, canFlush := canFlush, received := before }).result =
        .ok () ↔
      (request .unlimited).result = .ok () ∧
        (request .unlimited).sink.received.length ≤ room ∧
        (flushes = true → canFlush = true)
  refuses : ∀ fault, (request .unlimited).result = .error fault → ∀ sink,
    (request sink).result = .error fault ∧ (request sink).sink = sink

section Requests

variable {flushes : Bool} {request other : Sink → Delivery}

theorem DeliversFront.congr (delivers : DeliversFront flushes request)
    (results : ∀ sink, (other sink).result = (request sink).result)
    (sinks : ∀ sink, (other sink).sink = (request sink).sink) :
    DeliversFront flushes other := by
  obtain ⟨received, succeeds, refuses⟩ := delivers
  constructor
  · simpa only [sinks] using received
  · simpa only [results, sinks] using succeeds
  · simpa only [results, sinks] using refuses

end Requests

/-- The kinds of reports that this library writes. -/
inductive ReportKind
  | junit (dialect : Dialect)
  | document
  deriving DecidableEq

namespace ReportKind

/-- The formatter of a kind. -/
def formatter (config : Config) : ReportKind → Formatter
  | .junit dialect => JUnit.formatter dialect config
  | .document => Document.formatter config

end ReportKind

namespace Registry

variable {name : String} {factory : Factory} {entry : String × Factory}
  {entries : List (String × Factory)}

theorem mem_of_factory? {registry : Registry}
    (found : registry.factory? name = some factory) : (name, factory) ∈ registry.entries := by
  obtain ⟨⟨key, stored⟩, first, rfl⟩ := Option.map_eq_some_iff.mp found
  have key : key = name := by simpa using List.find?_some first
  exact key ▸ List.mem_of_find?_eq_some first

end Registry

end TestSynth
