import TestSynth.Descriptor.Json
import TestSynth.Method.Basic

/-!
# Methods as JSON
-/

namespace TestSynth

namespace Parameter

def toJson (parameter : Parameter) : Json :=
  .object
    [("name", .string parameter.name),
      ("ty", parameter.type.toJson),
      ("ordinal", .count parameter.ordinal),
      ("is_receiver", .boolean parameter.isReceiver)]

def ofJson? (json : Json) : Option Parameter := do
  match ← json.fields? ["name", "ty", "ordinal", "is_receiver"] with
  | [name, type, ordinal, isReceiver] =>
      return {
        name := ← Json.required? Json.string? name
        type := ← Json.required? JavaType.ofJson? type
        ordinal := ← Json.required? Json.natural? ordinal
        isReceiver := ← Json.required? Json.boolean? isReceiver }
  | _ => none

end Parameter

namespace DeclaringClass

def toJson (owner : DeclaringClass) : Json :=
  .object
    [("name", .string owner.name),
      ("has_default_constructor", .boolean owner.hasDefaultConstructor)]

def ofJson? (json : Json) : Option DeclaringClass := do
  match ← json.fields? ["name", "has_default_constructor"] with
  | [name, hasDefaultConstructor] =>
      return {
        name := ← Json.required? Json.string? name
        hasDefaultConstructor := ← Json.required? Json.boolean? hasDefaultConstructor }
  | _ => none

end DeclaringClass

namespace Method

def toJson (method : Method) : Json :=
  .object
    [("declaring_class", method.declaringClass.toJson),
      ("name", .string method.name),
      ("is_static", .boolean method.isStatic),
      ("params", .array (method.parameters.map Parameter.toJson)),
      ("return_type", method.returnType.toJson),
      ("thrown", .array (method.thrown.map .string))]

def ofJson? (json : Json) : Option Method := do
  match ← json.fields?
      ["declaring_class", "name", "is_static", "params", "return_type", "thrown"] with
  | [owner, name, isStatic, parameters, returnType, thrown] =>
      return {
        declaringClass := ← Json.required? DeclaringClass.ofJson? owner
        name := ← Json.required? Json.string? name
        isStatic := ← Json.required? Json.boolean? isStatic
        parameters := ← (← Json.required? Json.items? parameters).mapM Parameter.ofJson?
        returnType := ← Json.required? JavaType.ofJson? returnType
        thrown := ← (← Json.required? Json.items? thrown).mapM Json.string? }
  | _ => none

end Method

end TestSynth
