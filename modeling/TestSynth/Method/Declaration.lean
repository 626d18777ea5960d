import TestSynth.Method.Basic

/-!
# Declaring methods

A method is declared with the names and types of its parameters.  The receiver
of an instance method is added in front, and ordinals count from zero.
-/

namespace TestSynth

/-- The receiver parameter of the instance methods of a class. -/
def DeclaringClass.receiver (owner : DeclaringClass) : Parameter :=
  { name := "this"
    type := .reference owner.name
    ordinal := 0
    isReceiver := true }

namespace Method

/-- Appends parameters to those bound so far.  None may be void, and none may
repeat a name. -/
def bindParameters (method : String) (bound : List Parameter) :
    List (String × JavaType) → Except Fault (List Parameter)
  | [] => .ok bound
  | (name, type) :: rest =>
      if type.isVoid then .error (.voidParameter name method)
      else if bound.any (·.name == name) then .error (.duplicateParameter name method)
      else
        bindParameters method
          (bound ++
            [{ name := name
               type := type
               ordinal := bound.length
               isReceiver := false }])
          rest

/-- Declares a method. -/
def declare (owner : DeclaringClass) (name : String) (isStatic : Bool)
    (given : List (String × JavaType)) (returnType : JavaType) (thrown : List String) :
    Except Fault Method := do
  let receiver := if isStatic then [] else [owner.receiver]
  let parameters ← bindParameters (qualifiedName owner.name name) receiver given
  return {
    declaringClass := owner
    name := name
    isStatic := isStatic
    parameters := parameters
    returnType := returnType
    thrown := thrown }

end Method

end TestSynth
