import TestSynth.Machine.Capture

/-!
# Faults

Every way in which synthesis or reporting can fail, by cause.  A fault of an
unsupported method, array or receiver is recoverable: the method or test
concerned is left out.  Every other fault ends the operation.
-/

namespace TestSynth

/-- Where a signature mentions a type no test can be written for. -/
inductive SignaturePlace
  | parameter (name : String)
  | result
  deriving DecidableEq

/-- What keeps an array from being written as literals. -/
inductive ArrayProblem
  /-- The declared type is not a one-dimensional array of primitives. -/
  | declared (type : JavaType)
  /-- The array on the heap holds elements that are not primitive. -/
  | held (element : JavaType)
  deriving DecidableEq

/-- What is wrong with a configuration. -/
inductive Misconfiguration
  | unknownMessageLevel (text : String)
  | notBoolean (key text : String)
  | emptyFormatter
  | className (name : String)
  | packageName (name : String)
  /-- The document does not read as a configuration at all. -/
  | malformedDocument
  /-- A reason given by a formatter that refuses the configuration. -/
  | refused (reason : String)
  deriving DecidableEq

/-- Data that breaks what the parts of the program promise each other.  Methods
and slots are named by text. -/
inductive Breach
  | receiverAsArgument (method : String)
  | foreignParameter (name method : String)
  | boundTwice (ordinal : Nat) (method : String)
  | neverResolved (name method : String)
  | outcomeWithoutValue (method : String) (result : JavaType)
  | voidWithValue (method : String)
  | valueOutsideType (value : Value) (type : JavaType)
  | typeWithoutLiteral (type : JavaType)
  | scalarOutsideType (value : Scalar) (primitive : Primitive)
  | missingValue (name method : String)
  | unbalancedDedent
  | finishedInside (depth : Nat)
  | snapshotBinding (method name : String)
  | snapshotMissing (method name : String)
  | voidReported (method : String)
  | returnedWithoutValue (method : String)
  | arrayNotOnHeap (slot : String)
  | elementMismatch (slot : String) (declared held : Primitive)
  | unsolved (slot : String)
  | resolvedOutsideType (slot : String) (primitive : Primitive) (value : Scalar)
  | capturedOutsideType (slot : String) (type : JavaType) (captured : Captured)
  | argumentCount (method : String) (expected kinds values : Nat)
  | concreteCapturedSymbolically (name method : String)
  deriving DecidableEq

inductive Fault
  | unsupportedSignature (method : String) (place : SignaturePlace) (type : JavaType)
  | unsupportedArray (slot : String) (problem : ArrayProblem)
  | symbolicArraysDisabled (slot : String)
  | noDefaultConstructor (method className : String)
  | unknownFormatter (name : String)
  | configuration (problem : Misconfiguration)
  | malformedDescriptor (text : String)
  | voidParameter (name method : String)
  | duplicateParameter (name method : String)
  | contract (breach : Breach)
  /-- The stream a report is written to refused it. -/
  | stream (reason : String)
  /-- The stream failed inside a structured document. -/
  | document (reason : String)
  /-- A text that was to be part of a report could not be written. -/
  | unprintable
  /-- A parameter's ordinal lies outside the parameter list it belongs to. -/
  | ordinalOutOfRange (ordinal count : Nat)
  deriving DecidableEq

namespace SignaturePlace

def text : SignaturePlace → String
  | .parameter name => "parameter '" ++ name ++ "'"
  | .result => "return type"

end SignaturePlace

/-- Why no test can be written for a type. -/
def unsupportedTypeText : JavaType → String
  | .reference name =>
      "has reference type " ++ name ++
        ", reference types other than arrays are not supported"
  | type =>
      "has type " ++ type.sourceName ++
        ", only one-dimensional arrays of primitives are supported"

def ArrayProblem.text : ArrayProblem → String
  | .declared type => type.sourceName ++ " is not a one-dimensional array of primitives"
  | .held element =>
      "elements of type " ++ element.sourceName ++ " cannot be written as literals"

def Misconfiguration.text : Misconfiguration → String
  | .unknownMessageLevel text => "unknown message level '" ++ text ++ "'"
  | .notBoolean key text => key ++ ": expected a boolean, got '" ++ text ++ "'"
  | .emptyFormatter => "formatter name is empty"
  | .className name => "'" ++ name ++ "' is not a valid class name"
  | .packageName name => "'" ++ name ++ "' is not a valid package name"
  | .malformedDocument => "the document is not a configuration"
  | .refused reason => reason

def Breach.text : Breach → String
  | .receiverAsArgument method => "receiver bound as an argument of " ++ method
  | .foreignParameter name method => "'" ++ name ++ "' is not a parameter of " ++ method
  | .boundTwice ordinal method =>
      "parameter #" ++ toString ordinal ++ " of " ++ method ++ " bound twice"
  | .neverResolved name method =>
      "parameter '" ++ name ++ "' of " ++ method ++ " was never resolved"
  | .outcomeWithoutValue method result =>
      method ++ " returns " ++ result.sourceName ++ " but the outcome has no value"
  | .voidWithValue method => "void method " ++ method ++ " produced a return value"
  | .valueOutsideType value type =>
      "value " ++ value.text ++ " does not fit declared type " ++ type.sourceName
  | .typeWithoutLiteral type => "cannot render a literal of type " ++ type.sourceName
  | .scalarOutsideType value primitive =>
      "value " ++ value.text ++ " cannot be rendered as " ++ primitive.keyword
  | .missingValue name method => "no value for '" ++ name ++ "' in " ++ method
  | .unbalancedDedent => "unbalanced dedent in code generation"
  | .finishedInside depth =>
      "code generation finished at nesting depth " ++ toString depth
  | .snapshotBinding method name =>
      "snapshot of " ++ method ++ " binds '" ++ name ++ "' twice or out of range"
  | .snapshotMissing method name =>
      "snapshot of " ++ method ++ " does not capture '" ++ name ++ "'"
  | .voidReported method => "void method " ++ method ++ " reported a return value"
  | .returnedWithoutValue method => method ++ " returned without a value"
  | .arrayNotOnHeap slot => "array behind '" ++ slot ++ "' is not on the heap"
  | .elementMismatch slot declared held =>
      "'" ++ slot ++ "' is declared " ++ declared.keyword ++ "[] but holds " ++
        held.keyword ++ " elements"
  | .unsolved slot => "'" ++ slot ++ "' has no solution"
  | .resolvedOutsideType slot primitive value =>
      "'" ++ slot ++ "' is declared " ++ primitive.keyword ++ " but resolved to " ++ value.text
  | .capturedOutsideType slot type captured =>
      "'" ++ slot ++ "' is declared " ++ type.sourceName ++ " but was captured as " ++
        captured.text
  | .argumentCount method expected kinds values =>
      method ++ " takes " ++ toString expected ++ " argument(s) but " ++ toString kinds ++
        " classification(s) and " ++ toString values ++ " value(s) were reported"
  | .concreteCapturedSymbolically name method =>
      "'" ++ name ++ "' of " ++ method ++
        " is classified concrete but was captured symbolically"

namespace Fault

/-- Whether the method or test concerned is merely left out. -/
def isRecoverable : Fault → Bool
  | .unsupportedSignature .. | .unsupportedArray .. | .symbolicArraysDisabled ..
  | .noDefaultConstructor .. => true
  | _ => false

/-- The wording of a fault. -/
def message : Fault → String
  | .unsupportedSignature method place type =>
      "Unsupported signature for '" ++ method ++ "': " ++ place.text ++ " " ++
        unsupportedTypeText type
  | .unsupportedArray slot problem =>
      "Unsupported array for '" ++ slot ++ "': " ++ problem.text
  | .symbolicArraysDisabled slot =>
      "Fully symbolic array '" ++ slot ++
        "' cannot be resolved, symbolic array support is disabled"
  | .noDefaultConstructor method className =>
      "Cannot generate tests for '" ++ method ++ "': declaring class '" ++ className ++
        "' has no zero-argument constructor"
  | .unknownFormatter name => "Could not instantiate formatter '" ++ name ++ "'"
  | .configuration problem => "Configuration error: " ++ problem.text
  | .malformedDescriptor text => "Invalid type signature '" ++ text ++ "'"
  | .voidParameter name method =>
      "Invalid type signature 'parameter '" ++ name ++ "' of " ++ method ++ " is void'"
  | .duplicateParameter name method =>
      "Invalid type signature 'duplicate parameter '" ++ name ++ "' in " ++ method ++ "'"
  | .contract breach => "Contract violation: " ++ breach.text
  | .stream reason => "I/O error: " ++ reason
  | .document reason => "Serialization error: " ++ reason
  | .unprintable => "Formatting error: an error occurred when formatting an argument"
  | .ordinalOutOfRange ordinal count =>
      "index out of bounds: the len is " ++ toString count ++ " but the index is " ++
        toString ordinal

end Fault

end TestSynth
