import TestSynth.Value.Basic

/-!
# Captured values

What a symbolic machine reports of an argument or result slot, and what its
solver knows of a variable.
-/

namespace TestSynth

/-- One run of a method, as numbered by the machine. -/
structure Activation where
  number : Nat
  deriving DecidableEq

/-- A symbolic variable of the solver. -/
structure Variable where
  number : Nat
  deriving DecidableEq

/-- An array on the heap of the machine. -/
structure ArrayHandle where
  number : Nat
  deriving DecidableEq

inductive Captured
  /-- A concrete primitive; booleans may be reported as integers. -/
  | concrete (value : Scalar)
  /-- A symbolic primitive. -/
  | symbolic (source : Variable)
  /-- A heap array, whose elements may be symbolic. -/
  | array (source : ArrayHandle)
  /-- An array that is symbolic as a whole. -/
  | symbolicArray (source : Variable)
  deriving DecidableEq

/-- The solver's value of a variable; booleans are integers here. -/
inductive Solution
  | integer (value : Int64)
  | real (bits : UInt64)
  /-- The path condition leaves the variable free. -/
  | undefined
  deriving DecidableEq

/-- How a parameter is treated on the current branch. -/
inductive ArgumentKind
  | symbolic
  | concrete
  deriving DecidableEq

def Activation.text (activation : Activation) : String :=
  "#" ++ toString activation.number

/-- A label around a text, as messages name the case of a captured value. -/
def labelled (label content : String) : String :=
  label ++ "(" ++ content ++ ")"

/-- The scalar with the name of its family. -/
def Scalar.labelledText (scalar : Scalar) : String :=
  match scalar with
  | .integer _ => labelled "Integer" scalar.text
  | .real _ => labelled "Real" scalar.text
  | .boolean _ => labelled "Boolean" scalar.text

/-- The captured value in messages. -/
def Captured.text : Captured → String
  | .concrete value => labelled "Concrete" value.labelledText
  | .symbolic source => labelled "Symbolic" (labelled "VarId" (toString source.number))
  | .array source => labelled "Array" (labelled "ArrayRef" (toString source.number))
  | .symbolicArray source =>
      labelled "SymbolicArray" (labelled "VarId" (toString source.number))

namespace Solution

/-- The solution as a scalar, if the variable has one. -/
def scalar? : Solution → Option Scalar
  | .integer value => some (.integer value)
  | .real bits => some (.real bits)
  | .undefined => none

/-- The solution in messages. -/
def text (solution : Solution) : String :=
  match solution.scalar? with
  | some scalar => scalar.labelledText
  | none => "Undefined"

end Solution

end TestSynth
