import TestSynth.Descriptor.Signature

/-!
# Methods

The identity of a method under test and its formal parameters.
-/

namespace TestSynth

/-- A formal parameter.  The receiver of an instance method is the parameter of
ordinal zero. -/
structure Parameter where
  name : String
  type : JavaType
  ordinal : Nat
  isReceiver : Bool
  deriving DecidableEq

/-- The class that declares a method, by its dotted name. -/
structure DeclaringClass where
  name : String
  hasDefaultConstructor : Bool
  deriving DecidableEq

structure Method where
  declaringClass : DeclaringClass
  name : String
  isStatic : Bool
  /-- All formal parameters, the receiver included. -/
  parameters : List Parameter
  returnType : JavaType
  /-- Names of the exceptions the method declares. -/
  thrown : List String
  deriving DecidableEq

/-- The part of a class name after its last dot. -/
def DeclaringClass.simpleName (owner : DeclaringClass) : String :=
  String.ofList (owner.name.toList.reverse.takeWhile (· != '.')).reverse

/-- The name of a method together with its class. -/
def qualifiedName (className methodName : String) : String :=
  className ++ "." ++ methodName

namespace Method

/-- The parameters other than the receiver, in declaration order. -/
def arguments (method : Method) : List Parameter :=
  method.parameters.filter fun parameter => !parameter.isReceiver

def argument? (method : Method) (name : String) : Option Parameter :=
  method.arguments.find? (·.name == name)

def baseName (method : Method) : String :=
  qualifiedName method.declaringClass.name method.name

/-- The argument types in parentheses and the result type. -/
def descriptor (method : Method) : String :=
  "(" ++ String.join (method.arguments.map (·.type.descriptor)) ++ ")" ++
    method.returnType.descriptor

/-- The base name with the descriptor, which tells overloads apart. -/
def fullName (method : Method) : String :=
  method.baseName ++ method.descriptor

end Method

end TestSynth
