import TestSynth.Machine.Capture
import TestSynth.Method.Basic

/-!
# Symbolic machines

The state of a symbolic machine as far as synthesis can see it: the model of its
solver, the arrays on its heap, the methods to track, the path condition, the
call stack with its exception handlers, and the choice points left.
-/

namespace TestSynth

/-- An element of a heap array.  The content of a symbolic element does not
count. -/
structure Slot where
  value : Scalar
  source : Option Variable
  deriving DecidableEq

structure HeapArray where
  element : JavaType
  slots : List Slot
  deriving DecidableEq

structure Frame where
  activation : Activation
  method : Method
  deriving DecidableEq

structure Machine where
  solutions : Variable → Solution
  /-- The elements of arrays that are symbolic as a whole, where the path condition
  settles them. -/
  arraySolutions : Variable → Option (List Solution)
  heap : ArrayHandle → Option HeapArray
  /-- How the arguments of tracked methods are treated, by full name. -/
  tracked : String → Option (List ArgumentKind)
  /-- Whether the path condition can be satisfied, if there is one. -/
  pathCondition : Option Bool
  /-- The frames of the call stack, the innermost one first. -/
  stack : List Frame
  /-- Whether an activation catches exceptions of a type. -/
  handlers : Activation → String → Bool
  hasPendingAlternatives : Bool
  /-- How many branches were given up on request. -/
  ignoredBranches : Nat
  nextVariable : Nat
  nextArray : Nat

/-- A symbolic element; its content is a placeholder. -/
def Slot.symbolic (source : Variable) : Slot :=
  { value := .integer 0, source := some source }

def HeapArray.isPartiallySymbolic (array : HeapArray) : Bool :=
  array.slots.any (·.source.isSome)

/-- A function changed at one argument. -/
def overwrite {α β : Type} [DecidableEq α] (function : α → β) (argument : α) (value : β) :
    α → β :=
  fun other => if other = argument then value else function other

@[simp] theorem overwrite_same {α β : Type} [DecidableEq α]
    (function : α → β) (argument : α) (value : β) :
    overwrite function argument value argument = value := by
  simp [overwrite]

@[simp] theorem overwrite_other {α β : Type} [DecidableEq α]
    (function : α → β) {argument other : α} (value : β) (different : other ≠ argument) :
    overwrite function argument value other = function other := by
  simp [overwrite, different]

namespace Machine

/-- A machine that knows nothing, on a path that can be taken. -/
def new : Machine :=
  { solutions := fun _ => .undefined
    arraySolutions := fun _ => none
    heap := fun _ => none
    tracked := fun _ => none
    pathCondition := some true
    stack := []
    handlers := fun _ _ => false
    hasPendingAlternatives := false
    ignoredBranches := 0
    nextVariable := 0
    nextArray := 0 }

/-- Tracks a method whose arguments are treated as given. -/
def trackWith (machine : Machine) (method : Method) (kinds : List ArgumentKind) : Machine :=
  { machine with tracked := overwrite machine.tracked method.fullName (some kinds) }

/-- Tracks a method with all arguments symbolic. -/
def track (machine : Machine) (method : Method) : Machine :=
  machine.trackWith method (method.arguments.map fun _ => .symbolic)

/-- How the arguments of a method are treated, if it is tracked. -/
def classify (machine : Machine) (method : Method) : Option (List ArgumentKind) :=
  machine.tracked method.fullName

/-- Fixes the solution of a variable. -/
def assign (machine : Machine) (source : Variable) (solution : Solution) : Machine :=
  { machine with solutions := overwrite machine.solutions source solution }

/-- A fresh variable with a solution. -/
def newVariable (machine : Machine) (solution : Solution) : Variable × Machine :=
  let source : Variable := { number := machine.nextVariable }
  (source, { machine.assign source solution with nextVariable := machine.nextVariable + 1 })

/-- A fresh variable for a whole array. -/
def newSymbolicArray (machine : Machine) (solution : Option (List Solution)) :
    Variable × Machine :=
  let source : Variable := { number := machine.nextVariable }
  (source,
    { machine with
      arraySolutions := overwrite machine.arraySolutions source solution
      nextVariable := machine.nextVariable + 1 })

/-- A fresh array on the heap. -/
def newArray (machine : Machine) (array : HeapArray) : ArrayHandle × Machine :=
  let handle : ArrayHandle := { number := machine.nextArray }
  (handle,
    { machine with
      heap := overwrite machine.heap handle (some array)
      nextArray := machine.nextArray + 1 })

/-- Pushes a frame, which becomes the innermost one. -/
def pushFrame (machine : Machine) (frame : Frame) : Machine :=
  { machine with stack := frame :: machine.stack }

/-- Removes the innermost frame. -/
def popFrame (machine : Machine) : Option Frame × Machine :=
  (machine.stack.head?, { machine with stack := machine.stack.tail })

/-- Makes an activation catch exceptions of a type. -/
def addHandler (machine : Machine) (activation : Activation) (typeName : String) : Machine :=
  { machine with
    handlers :=
      overwrite machine.handlers activation
        (overwrite (machine.handlers activation) typeName true) }

/-- Gives up the current branch. -/
def ignoreBranch (machine : Machine) : Machine :=
  { machine with ignoredBranches := machine.ignoredBranches + 1 }

end Machine

end TestSynth
