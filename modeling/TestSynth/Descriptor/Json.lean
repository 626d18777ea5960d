import TestSynth.Json.Form

/-!
# Types as JSON

Primitives are written by their keywords.  The other types are objects with one
member, except for `void`, which is a name.
-/

namespace TestSynth

namespace Primitive

def toJson (primitive : Primitive) : Json :=
  .string primitive.keyword

def ofJson? (json : Json) : Option Primitive :=
  json.caseName?.bind ofKeyword?

end Primitive

namespace JavaType

def toJson : JavaType → Json
  | .void => .string "Void"
  | .primitive base => .object [("Primitive", base.toJson)]
  | .array element => .object [("Array", element.toJson)]
  | .reference name => .object [("Reference", .string name)]

def ofJson? : Json → Option JavaType
  | .string "Void" => some .void
  | .object [("Void", .null)] => some .void
  | .object [("Primitive", value)] => (Primitive.ofJson? value).map .primitive
  | .object [("Array", element)] => (ofJson? element).map .array
  | .object [("Reference", .string name)] => some (.reference name)
  | _ => none

end JavaType

end TestSynth
