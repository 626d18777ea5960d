import TestSynth.Machine.Basic

/-!
# Operations on machines

Everything that can be done to a machine from outside, one operation after the other.
-/

namespace TestSynth

/-- What can be done to a machine between notifications. -/
inductive Machine.Operation
  | track (method : Method)
  | trackWith (method : Method) (kinds : List ArgumentKind)
  | newVariable (solution : Solution)
  | assign (source : Variable) (solution : Solution)
  | newSymbolicArray (solution : Option (List Solution))
  | newArray (array : HeapArray)
  | setPathCondition (satisfiable : Option Bool)
  | pushFrame (frame : Frame)
  | popFrame
  | addHandler (activation : Activation) (typeName : String)
  | setPendingAlternatives (pending : Bool)
  | ignoreBranch

namespace Machine.Operation

def apply (machine : Machine) : Operation → Machine
  | track method => machine.track method
  | trackWith method kinds => machine.trackWith method kinds
  | newVariable solution => (machine.newVariable solution).2
  | assign source solution => machine.assign source solution
  | newSymbolicArray solution => (machine.newSymbolicArray solution).2
  | newArray array => (machine.newArray array).2
  | setPathCondition satisfiable => { machine with pathCondition := satisfiable }
  | pushFrame frame => machine.pushFrame frame
  | popFrame => machine.popFrame.2
  | addHandler activation typeName => machine.addHandler activation typeName
  | setPendingAlternatives pending =>
      { machine with hasPendingAlternatives := pending }
  | ignoreBranch => machine.ignoreBranch

end Machine.Operation

end TestSynth
