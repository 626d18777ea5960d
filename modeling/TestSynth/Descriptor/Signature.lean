import TestSynth.Fault

/-!
# Type descriptors

The compact spelling of types: a letter for `void` and for each primitive, a
bracket before the element type of an array, and a class name between `L` and a
semicolon with slashes for its dots.
-/

namespace TestSynth

/-- The character of a dotted name as a descriptor writes it. -/
def slashed (character : Char) : Char :=
  if character = '.' then '/' else character

/-- The character of a descriptor as a dotted name has it. -/
def dotted (character : Char) : Char :=
  if character = '/' then '.' else character

namespace JavaType

def descriptorChars : JavaType → List Char
  | .void => ['V']
  | .primitive base => [base.code]
  | .array element => '[' :: element.descriptorChars
  | .reference name => 'L' :: name.toList.map slashed ++ [';']

/-- The descriptor of a type. -/
def descriptor (type : JavaType) : String :=
  String.ofList type.descriptorChars

def malformed {α : Type} (characters : List Char) : Except Fault α :=
  .error (.malformedDescriptor (String.ofList characters))

/-- Reads a descriptor off the front of a text and gives the rest.  A fault
names the text from the innermost descriptor that is malformed. -/
def readDescriptor : List Char → Except Fault (JavaType × List Char)
  | [] => malformed []
  | 'V' :: rest => .ok (.void, rest)
  | '[' :: rest =>
      match readDescriptor rest with
      | .error fault => .error fault
      | .ok (.void, _) => malformed ('[' :: rest)
      | .ok (element, after) => .ok (.array element, after)
  | 'L' :: rest =>
      let name := rest.takeWhile (· != ';')
      match rest.dropWhile (· != ';') with
      | [] => malformed ('L' :: rest)
      | _ :: after =>
          if name.isEmpty then malformed ('L' :: rest)
          else .ok (.reference (String.ofList (name.map dotted)), after)
  | code :: rest =>
      match Primitive.ofCode? code with
      | some base => .ok (.primitive base, rest)
      | none => malformed (code :: rest)

/-- The type a descriptor stands for; nothing may follow it. -/
def ofDescriptor (text : String) : Except Fault JavaType :=
  match readDescriptor text.toList with
  | .error fault => .error fault
  | .ok (type, []) => .ok type
  | .ok (_, _ :: _) => malformed text.toList

end JavaType

end TestSynth
