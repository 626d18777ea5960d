import TestSynth.Config.Basic
import TestSynth.Toml.Document

/-!
# Configuration documents

A configuration can be written as a TOML document.  Unknown keys are ignored and
missing ones take their defaults.
-/

namespace TestSynth

namespace Toml.Item

def string? : Item → Option String
  | .string text => some text
  | _ => none

def boolean? : Item → Option Bool
  | .boolean value => some value
  | _ => none

/-- Whether the item is an array or a table without anything in it. -/
def isEmptyContainer : Item → Bool
  | .array items => items.isEmpty
  | .table _ entries => entries.isEmpty
  | .tables rows => rows.isEmpty
  | _ => false

/-- The name of a case without data: a text, or the only key of a table, with
nothing under it. -/
def caseName? : Item → Option String
  | .string text => some text
  | .table _ [(name, content)] => if content.isEmptyContainer then some name else none
  | _ => none

end Toml.Item

/-- The value of a key, or a default if the document lacks the key. -/
def Toml.Entries.decode? {α : Type} (entries : Toml.Entries)
    (decode : Toml.Item → Option α) (default : α) (key : String) : Option α :=
  match entries.get? key with
  | none => some default
  | some item => decode item

namespace Config

def ofEntries? (entries : Toml.Entries) : Option Config := do
  let defaults : Config := {}
  return {
    formatter := ← entries.decode? Toml.Item.string? defaults.formatter "formatter"
    package :=
      ← entries.decode? (fun item => item.string?.map some) defaults.package "package"
    className := ← entries.decode? Toml.Item.string? defaults.className "class_name"
    message :=
      ← entries.decode? (fun item => item.caseName?.bind MessageLevel.ofName?)
        defaults.message "message"
    optimize := ← entries.decode? Toml.Item.boolean? defaults.optimize "optimize"
    symbolicArrays :=
      ← entries.decode? Toml.Item.boolean? defaults.symbolicArrays "symbolic_arrays" }

/-- The configuration a document describes, if it is a valid one. -/
def ofDocument (text : String) : Except Fault Config :=
  match (Toml.ofText? text).bind ofEntries? with
  | none => .error (.configuration .malformedDocument)
  | some config => config.validated

end Config

end TestSynth
