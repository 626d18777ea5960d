import TestSynth.Value.Basic

/-!
# JSON values

Integers and reals are kept apart, and the members of an object keep the order
in which they are written.
-/

namespace TestSynth

inductive Json
  | null
  | boolean (value : Bool)
  | integer (value : Int)
  | real (bits : UInt64)
  | string (text : String)
  | array (items : List Json)
  | object (members : List (String × Json))

namespace Json

/-- A number as JSON. -/
def count (number : Nat) : Json :=
  .integer number

/-- An optional value, `null` if there is none. -/
def orNull {α : Type} (encode : α → Json) : Option α → Json
  | none => .null
  | some value => encode value

/-- The value of a member. -/
def member? (name : String) (members : List (String × Json)) : Option Json :=
  (members.find? fun (key, _) => key == name).map (·.2)

/-- An object of members as they are written; of several members of one name the
last one counts. -/
def ofMembers (members : List (String × Json)) : Json :=
  .object
    (members.foldr
      (fun member later =>
        if later.any (·.1 == member.1) then later else member :: later)
      [])

/-- The member of an object, if the value is one that has it. -/
def field? (name : String) : Json → Option Json
  | .object members => member? name members
  | _ => none

end Json

/-- Scalars are written without a tag. -/
def Scalar.toJson : Scalar → Json
  | .integer value => .integer value.toInt
  | .real bits => .real bits
  | .boolean value => .boolean value

/-- A scalar stands for itself; an array also names its element type. -/
def Value.toJson : Value → Json
  | .scalar content => content.toJson
  | .array content =>
      .object
        [("element", .string content.element.keyword),
          ("elements", .array (content.elements.map Scalar.toJson))]

end TestSynth
