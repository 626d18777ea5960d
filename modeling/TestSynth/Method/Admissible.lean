import TestSynth.Method.Basic

/-!
# Methods tests can be written for

The types of a signature are checked when a call is captured, the receiver when
a report is written.
-/

namespace TestSynth

namespace JavaType

/-- Whether values of the type can be written as literals; `void` counts, since
it has none. -/
def isSupported : JavaType → Bool
  | .void => true
  | .primitive _ => true
  | .array element => element.primitive?.isSome
  | .reference _ => false

end JavaType

namespace Method

/-- Refuses the first parameter of an unsupported type, then the result type. -/
def checkSignature (method : Method) : Except Fault Unit :=
  match method.arguments.find? fun parameter => !parameter.type.isSupported with
  | some parameter =>
      .error (.unsupportedSignature method.baseName (.parameter parameter.name) parameter.type)
  | none =>
      if method.returnType.isSupported then .ok ()
      else .error (.unsupportedSignature method.baseName .result method.returnType)

/-- Whether tests of the method can be reported: the receiver of an instance
method is made by a constructor without arguments. -/
def isRenderable (method : Method) : Bool :=
  method.isStatic || method.declaringClass.hasDefaultConstructor

def checkReceiver (method : Method) : Except Fault Unit :=
  if method.isRenderable then .ok ()
  else .error (.noDefaultConstructor method.baseName method.declaringClass.name)

end Method

end TestSynth
