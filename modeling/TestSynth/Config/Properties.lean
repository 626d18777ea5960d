import TestSynth.Config.Basic
import TestSynth.Log
import TestSynth.Text.Blank

/-!
# Configuration from properties

Options are looked up under a group name that can itself be configured.
-/

namespace TestSynth

/-- The properties of a host, by key. -/
abbrev Properties := String → Option String

/-- The group that options belong to unless another one is chosen. -/
def defaultGroup : String :=
  "symtest"

/-- The key of an option in a group. -/
def optionKey (group option : String) : String :=
  group ++ "." ++ option

namespace Properties

/-- The group the options are read from. -/
def group (properties : Properties) : String :=
  (properties (optionKey defaultGroup "abbreviation")).getD defaultGroup

/-- The text of an option without the blanks around it. -/
def option? (properties : Properties) (option : String) : Option String :=
  (properties (optionKey properties.group option)).map Text.trim

/-- The value of a spelling of a truth value. -/
def truthValue? : String → Option Bool
  | "true" | "yes" | "on" | "1" => some true
  | "false" | "no" | "off" | "0" => some false
  | _ => none

/-- A truth value, false if the option is absent. -/
def flag (properties : Properties) (option : String) : Except Fault Bool :=
  match properties.option? option with
  | none => .ok false
  | some text =>
      match truthValue? (lowerCase text) with
      | some value => .ok value
      | none =>
          .error
            (.configuration
              (.notBoolean (optionKey properties.group option) (lowerCase text)))

/-- The message level; a text that names none is reported and counts as silence. -/
def messageLevel (properties : Properties) : MessageLevel × List LogEvent :=
  match properties.option? "formatter.message" with
  | none => (.off, [])
  | some text =>
      match MessageLevel.ofText text with
      | .ok level => (level, [])
      | .error fault =>
          (.off,
            [{ level := .warn, message := fault.message ++ ", falling back to 'none'" }])

/-- The package, of which an empty text is none. -/
def package? (properties : Properties) : Option String :=
  (properties.option? "formatter.package").filter (· ≠ "")

end Properties

namespace Config

/-- The configuration that properties describe, and what is reported on the
way. -/
def ofProperties (properties : Properties) : Except Fault Config × List LogEvent :=
  let (message, log) := properties.messageLevel
  let defaults : Config := {}
  let config : Except Fault Config := do
    let optimize ← properties.flag "optimize"
    let symbolicArrays ← properties.flag "symbolic_arrays"
    Config.validated
      { formatter := (properties.option? "formatter").getD defaults.formatter
        package := properties.package?
        className := (properties.option? "formatter.class_name").getD defaults.className
        message := message
        optimize := optimize
        symbolicArrays := symbolicArrays }
  (config, log)

end Config

end TestSynth
