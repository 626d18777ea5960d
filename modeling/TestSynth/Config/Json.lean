import TestSynth.Config.Basic
import TestSynth.Json.Form

/-!
# Configuration as JSON
-/

namespace TestSynth

namespace MessageLevel

def toJson (level : MessageLevel) : Json :=
  .string level.text

def ofJson? (json : Json) : Option MessageLevel :=
  json.caseName?.bind ofName?

end MessageLevel

namespace Config

def toJson (config : Config) : Json :=
  .object
    [("formatter", .string config.formatter),
      ("package", .orNull .string config.package),
      ("class_name", .string config.className),
      ("message", config.message.toJson),
      ("optimize", .boolean config.optimize),
      ("symbolic_arrays", .boolean config.symbolicArrays)]

/-- Reads a configuration; missing options take their defaults. -/
def ofJson? (json : Json) : Option Config := do
  let defaults : Config := {}
  match ← json.fields?
      ["formatter", "package", "class_name", "message", "optimize", "symbolic_arrays"] with
  | [formatter, package, className, message, optimize, symbolicArrays] =>
      return {
        formatter := ← Json.defaulted? Json.string? defaults.formatter formatter
        package := ← Json.defaulted? (Json.nullable? Json.string?) defaults.package package
        className := ← Json.defaulted? Json.string? defaults.className className
        message := ← Json.defaulted? MessageLevel.ofJson? defaults.message message
        optimize := ← Json.defaulted? Json.boolean? defaults.optimize optimize
        symbolicArrays :=
          ← Json.defaulted? Json.boolean? defaults.symbolicArrays symbolicArrays }
  | _ => none

end Config

end TestSynth
