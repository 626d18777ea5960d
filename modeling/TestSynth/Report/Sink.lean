/-!
# Sinks

The stream a report is written to.  It may have room for a limited number of
bytes only, and it may fail when it is flushed.
-/

namespace TestSynth

structure Sink where
  /-- How many more bytes are accepted, if there is a limit. -/
  room : Option Nat
  canFlush : Bool
  received : List UInt8

inductive SinkFailure
  | full
  | flush
  deriving DecidableEq

def SinkFailure.reason : SinkFailure → String
  | .full => "disk full"
  | .flush => "flush failed"

namespace Sink

/-- A sink that accepts everything. -/
def unlimited : Sink :=
  { room := none, canFlush := true, received := [] }

/-- Writes bytes as far as there is room for them. -/
def write (sink : Sink) (bytes : List UInt8) : Except SinkFailure Unit × Sink :=
  match sink.room with
  | none => (.ok (), { sink with received := sink.received ++ bytes })
  | some room =>
      let result := if bytes.length ≤ room then .ok () else .error .full
      (result,
        { sink with
          room := some (room - bytes.length)
          received := sink.received ++ bytes.take room })

def writeText (sink : Sink) (text : String) : Except SinkFailure Unit × Sink :=
  sink.write text.toUTF8.toList

def flush (sink : Sink) : Except SinkFailure Unit :=
  if sink.canFlush then .ok () else .error .flush

/-- The longest front of bytes that is text, dropping at most so many bytes. -/
def longestText (bytes : List UInt8) (most : Nat) : String :=
  match String.fromUTF8? (ByteArray.mk bytes.toArray), most with
  | some text, _ => text
  | none, 0 => ""
  | none, more + 1 => longestText bytes.dropLast more

/-- The text received.  A character of which only a part was received, which is
three bytes at most, is replaced. -/
def text (sink : Sink) : String :=
  let front := longestText sink.received 3
  if front.utf8ByteSize = sink.received.length then front else front ++ "\uFFFD"

end Sink

end TestSynth
