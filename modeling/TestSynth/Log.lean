/-!
# Log events

What the program reports besides its results.
-/

namespace TestSynth

inductive LogLevel
  | error
  | warn
  | info
  | debug
  | trace
  deriving DecidableEq

def LogLevel.text : LogLevel → String
  | .error => "ERROR"
  | .warn => "WARN"
  | .info => "INFO"
  | .debug => "DEBUG"
  | .trace => "TRACE"

structure LogEvent where
  level : LogLevel
  message : String
  deriving DecidableEq

end TestSynth
