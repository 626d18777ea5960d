import TestSynth.Log
import TestSynth.Synthesis.Snapshot
import TestSynth.TestCase.Basic

/-!
# Resolution

Turning captured values into concrete ones.  A variable that the solver leaves
free takes a default, which is fixed in the model, so that every later reading
of the variable agrees with it.
-/

namespace TestSynth

/-- What resolution reads and changes. -/
structure World where
  machine : Machine
  log : List LogEvent

/-- A resolution changes the model also if it fails in the end. -/
abbrev Resolution := ExceptT Fault (StateM World)

/-- The value of a free variable; `false` is zero. -/
def Family.defaultSolution : Family → Solution
  | .integer | .boolean => .integer 0
  | .real => .real 0

namespace Resolution

def emit (event : LogEvent) : Resolution Unit :=
  modify fun world => { world with log := world.log ++ [event] }

def assign (source : Variable) (solution : Solution) : Resolution Unit :=
  modify fun world => { world with machine := world.machine.assign source solution }

def machine : Resolution Machine := do
  return (← get).machine

def ofExcept {α : Type} (result : Except Fault α) : Resolution α :=
  ExceptT.mk (pure result)

/-- A value as one of the declared primitive type. -/
def coerce (slot : String) (primitive : Primitive) (value : Scalar) : Except Fault Scalar :=
  match value.coerce? primitive with
  | some coerced => .ok coerced
  | none => .error (.contract (.resolvedOutsideType slot primitive value))

/-- A solution as a value of the declared primitive type. -/
def ofSolution (slot : String) (primitive : Primitive) (solution : Solution) :
    Except Fault Scalar :=
  match solution.scalar? with
  | some value => coerce slot primitive value
  | none => .error (.contract (.unsolved slot))

def defaultEvent (slot : String) (solution : Solution) : LogEvent :=
  { level := .trace
    message := "'" ++ slot ++ "' is underconstrained, defaulting to " ++ solution.text }

/-- The value of a variable.  A free variable is fixed to its default first. -/
def resolveVariable (slot : String) (primitive : Primitive) (source : Variable) :
    Resolution Scalar := do
  match (← machine).solutions source with
  | .undefined =>
      let solution := primitive.family.defaultSolution
      emit (defaultEvent slot solution)
      assign source solution
      ofExcept (ofSolution slot primitive solution)
  | solution => ofExcept (ofSolution slot primitive solution)

/-- The name of an element in messages. -/
def elementSlot (slot : String) (index : Nat) : String :=
  slot ++ "[" ++ toString index ++ "]"

/-- An element of a heap array: through the model if it is symbolic, else as it is
stored. -/
def resolveElement (slot : String) (primitive : Primitive) (index : Nat) (element : Slot) :
    Resolution Scalar :=
  match element.source with
  | some source => resolveVariable (elementSlot slot index) primitive source
  | none => ofExcept (coerce slot primitive element.value)

/-- The elements from an index on. -/
def resolveElements (slot : String) (primitive : Primitive) (index : Nat) :
    List Slot → Resolution (List Scalar)
  | [] => pure []
  | element :: rest => do
      let value ← resolveElement slot primitive index element
      let values ← resolveElements slot primitive (index + 1) rest
      return value :: values

/-- An array on the heap, whose elements have exactly the declared type. -/
def resolveHeapArray (slot : String) (declared : Primitive) (handle : ArrayHandle) :
    Resolution Value := do
  match (← machine).heap handle with
  | none => throw (.contract (.arrayNotOnHeap slot))
  | some array =>
      match array.element with
      | .primitive held =>
          if held = declared then
            let elements ← resolveElements slot held 0 array.slots
            return .array { element := held, elements := elements }
          else throw (.contract (.elementMismatch slot declared held))
      | other => throw (.unsupportedArray slot (.held other))

/-- A solution, or the default of the family if there is none. -/
def orDefault (family : Family) : Solution → Solution
  | .undefined => family.defaultSolution
  | solution => solution

def emptyArrayEvent (slot : String) : LogEvent :=
  { level := .trace
    message := "array '" ++ slot ++ "' is underconstrained, resolving to an empty array" }

/-- An array that is symbolic as a whole.  It is empty if it is free; free
elements take defaults, which are not fixed in the model. -/
def resolveSymbolicArray (symbolicArrays : Bool) (slot : String) (element : Primitive)
    (source : Variable) : Resolution Value := do
  if symbolicArrays then
    match (← machine).arraySolutions source with
    | none =>
        emit (emptyArrayEvent slot)
        return .array { element := element, elements := [] }
    | some solutions =>
        let elements ← ofExcept (solutions.mapM fun solution =>
          ofSolution slot element (orDefault element.family solution))
        return .array { element := element, elements := elements }
  else throw (.symbolicArraysDisabled slot)

/-- The value of one slot of a declared type; messages name the slot. -/
def resolve (symbolicArrays : Bool) (slot : String) (type : JavaType) (captured : Captured) :
    Resolution Value :=
  match type with
  | .primitive base =>
      match captured with
      | .concrete value => .scalar <$> ofExcept (coerce slot base value)
      | .symbolic source => .scalar <$> resolveVariable slot base source
      | _ => throw (.contract (.capturedOutsideType slot type captured))
  | .array element =>
      match element.primitive? with
      | none => throw (.unsupportedArray slot (.declared type))
      | some base =>
          match captured with
          | .array handle => resolveHeapArray slot base handle
          | .symbolicArray source => resolveSymbolicArray symbolicArrays slot base source
          | _ => throw (.contract (.capturedOutsideType slot type captured))
  | _ => throw (.contract (.capturedOutsideType slot type captured))

/-- The symbolic arguments of a snapshot, one after the other. -/
def resolveArguments (symbolicArrays : Bool) :
    List (Parameter × Captured) → Resolution (List (Parameter × Value))
  | [] => pure []
  | (parameter, captured) :: rest => do
      let value ← resolve symbolicArrays parameter.name parameter.type captured
      let values ← resolveArguments symbolicArrays rest
      return (parameter, value) :: values

/-- All arguments of a snapshot, by ascending ordinal. -/
def resolveSnapshot (symbolicArrays : Bool) (snapshot : Snapshot) :
    Resolution (List (Parameter × Value)) := do
  let resolved ← resolveArguments symbolicArrays snapshot.symbolic
  return (resolved ++ snapshot.concrete).mergeSort
    fun left right => left.1.ordinal ≤ right.1.ordinal

/-- The outcome of a call that returned. -/
def resolveReturn (symbolicArrays : Bool) (method : Method) (captured : Option Captured) :
    Resolution Outcome :=
  match captured with
  | none =>
      if method.returnType.isVoid then return .void
      else throw (.contract (.returnedWithoutValue method.baseName))
  | some captured =>
      if method.returnType.isVoid then throw (.contract (.voidReported method.baseName))
      else
        .returned <$>
          resolve symbolicArrays (method.baseName ++ " return value") method.returnType captured

end Resolution

end TestSynth
