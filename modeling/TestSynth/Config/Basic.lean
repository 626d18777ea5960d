import TestSynth.Fault
import TestSynth.Text.Identifier

/-!
# Configuration

The options of a run and what makes them valid.
-/

namespace TestSynth

/-- How much an assertion says when it fails. -/
inductive MessageLevel
  | off
  /-- Names the method under test. -/
  | short
  /-- Also lists the arguments. -/
  | full
  deriving DecidableEq

namespace MessageLevel

def text : MessageLevel → String
  | .off => "none"
  | .short => "short"
  | .full => "full"

/-- The level with a name; `simple` is another name of `short`. -/
def ofName? : String → Option MessageLevel
  | "none" => some .off
  | "short" => some .short
  | "simple" => some .short
  | "full" => some .full
  | _ => none

end MessageLevel

/-- The text with the ASCII capitals in lower case. -/
def lowerCase (text : String) : String :=
  String.ofList (text.toList.map Char.toLower)

/-- The level a text names in any case; an empty text names no messages. -/
def MessageLevel.ofText (text : String) : Except Fault MessageLevel :=
  let lowered := lowerCase text
  if lowered = "" then .ok .off
  else
    match MessageLevel.ofName? lowered with
    | some level => .ok level
    | none => .error (.configuration (.unknownMessageLevel lowered))

structure Config where
  /-- The name the formatter is registered under. -/
  formatter : String := "junit5"
  /-- The package of the generated unit. -/
  package : Option String := none
  /-- The name of the generated class. -/
  className : String := "Testcases"
  message : MessageLevel := .off
  /-- Whether a branch is given up once its last call has become a test. -/
  optimize : Bool := false
  /-- Whether arrays that are symbolic as a whole are resolved. -/
  symbolicArrays : Bool := false
  deriving DecidableEq

namespace Config

/-- Refuses values no formatter could work with. -/
def validate (config : Config) : Except Fault Unit :=
  if config.formatter = "" then .error (.configuration .emptyFormatter)
  else if !Text.isIdentifier config.className then
    .error (.configuration (.className config.className))
  else
    match config.package with
    | some package =>
        if Text.isDottedIdentifier package then .ok ()
        else .error (.configuration (.packageName package))
    | none => .ok ()

/-- The configuration itself, if it is valid. -/
def validated (config : Config) : Except Fault Config := do
  config.validate
  return config

end Config

end TestSynth
