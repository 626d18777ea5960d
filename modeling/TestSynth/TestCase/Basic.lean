import TestSynth.Method.Basic

/-!
# Test cases

A test case is a method with a value for each of its arguments and the outcome
of the call.  It is built with a check that every argument is bound exactly once
and that the outcome fits the declared result.
-/

namespace TestSynth

/-- An exception that left the method under test. -/
structure ThrownException where
  typeName : String
  message : Option String
  deriving DecidableEq

/-- How a call ended. -/
inductive Outcome
  /-- The normal end of a method without a result. -/
  | void
  | returned (value : Value)
  | threw (exception : ThrownException)
  deriving DecidableEq

structure Argument where
  parameter : Parameter
  value : Value
  deriving DecidableEq

structure TestCase where
  method : Method
  /-- The arguments by ascending ordinal. -/
  arguments : List Argument
  outcome : Outcome
  deriving DecidableEq

namespace Argument

/-- Inserts an argument before those of larger ordinals. -/
def insertByOrdinal (argument : Argument) : List Argument → List Argument
  | [] => [argument]
  | first :: rest =>
      if argument.parameter.ordinal < first.parameter.ordinal then argument :: first :: rest
      else first :: argument.insertByOrdinal rest

/-- Whether one of the arguments has the ordinal of a parameter. -/
def isBound (bound : List Argument) (parameter : Parameter) : Bool :=
  bound.any fun argument => argument.parameter.ordinal == parameter.ordinal

end Argument

namespace TestCase

/-- Binds values to parameters of a method, each once. -/
def bindArguments (method : Method) (bound : List Argument) :
    List (Parameter × Value) → Except Fault (List Argument)
  | [] => .ok bound
  | (parameter, value) :: rest =>
      if parameter.isReceiver then
        .error (.contract (.receiverAsArgument method.baseName))
      else if parameter ∉ method.parameters then
        .error (.contract (.foreignParameter parameter.name method.baseName))
      else if Argument.isBound bound parameter then
        .error (.contract (.boundTwice parameter.ordinal method.baseName))
      else
        let argument : Argument := { parameter := parameter, value := value }
        bindArguments method (argument.insertByOrdinal bound) rest

/-- Refuses the first argument that has no value. -/
def checkBound (method : Method) (bound : List Argument) : Except Fault Unit :=
  match method.arguments.find? fun parameter => !Argument.isBound bound parameter with
  | some missing => .error (.contract (.neverResolved missing.name method.baseName))
  | none => .ok ()

/-- A result is there exactly if one is declared, unless an exception left the
method. -/
def checkOutcome (method : Method) : Outcome → Except Fault Unit
  | .void =>
      if method.returnType.isVoid then .ok ()
      else .error (.contract (.outcomeWithoutValue method.baseName method.returnType))
  | .returned _ =>
      if method.returnType.isVoid then .error (.contract (.voidWithValue method.baseName))
      else .ok ()
  | .threw _ => .ok ()

/-- Builds a test case. -/
def build (method : Method) (given : List (Parameter × Value)) (outcome : Outcome) :
    Except Fault TestCase := do
  let bound ← bindArguments method [] given
  checkBound method bound
  checkOutcome method outcome
  return { method := method, arguments := bound, outcome := outcome }

/-- The value of the argument with a name. -/
def argument? (test : TestCase) (name : String) : Option Value :=
  (test.arguments.find? (·.parameter.name == name)).map (·.value)

/-- The value bound at the ordinal of a parameter. -/
def valueOf? (test : TestCase) (parameter : Parameter) : Option Value :=
  (test.arguments.find? (·.parameter.ordinal == parameter.ordinal)).map (·.value)

def didThrow (test : TestCase) : Bool :=
  match test.outcome with
  | .threw _ => true
  | _ => false

def returnValue? (test : TestCase) : Option Value :=
  match test.outcome with
  | .returned value => some value
  | _ => none

end TestCase

end TestSynth
