import TestSynth.Report.Registry
import TestSynth.Synthesis.Resolution

/-!
# The synthesis engine

A machine notifies the engine of calls, returns and exceptions.  The engine takes
a snapshot when a tracked method is entered, and makes a test case of it whenever
the call ends on a path that can be taken.
-/

namespace TestSynth

structure Statistics where
  /-- Activations that got a snapshot. -/
  snapshots : Nat
  /-- Test cases that were added to the collection. -/
  emitted : Nat
  /-- Test cases that the collection already had. -/
  duplicates : Nat
  /-- Resolutions given up because the path cannot be taken. -/
  abandoned : Nat
  /-- Methods or test cases that were left out. -/
  skipped : Nat
  deriving DecidableEq

def Statistics.toJson (statistics : Statistics) : Json :=
  .object
    [("snapshots", .count statistics.snapshots),
      ("emitted", .count statistics.emitted),
      ("duplicates", .count statistics.duplicates),
      ("abandoned", .count statistics.abandoned),
      ("skipped", .count statistics.skipped)]

structure Engine where
  config : Config
  registry : Registry
  snapshots : SnapshotTable
  collection : Collection
  /-- Methods whose signatures were reported as unsupported. -/
  rejected : List Method
  statistics : Statistics

/-- A method was entered; its arguments are in declaration order. -/
structure CallEntry where
  activation : Activation
  method : Method
  arguments : List Captured

/-- A method returned. -/
structure CallExit where
  activation : Activation
  returned : Option Captured

/-- What handling a notification leads to. -/
structure Response where
  result : Except Fault Unit
  engine : Engine
  machine : Machine
  log : List LogEvent

namespace Engine

def new (config : Config) (registry : Registry) : Engine :=
  { config := config
    registry := registry
    snapshots := .empty
    collection := .empty
    rejected := []
    statistics :=
      { snapshots := 0, emitted := 0, duplicates := 0, abandoned := 0, skipped := 0 } }

def countSnapshot (engine : Engine) : Engine :=
  { engine with
    statistics :=
      { engine.statistics with snapshots := engine.statistics.snapshots + 1 } }

def countEmitted (engine : Engine) : Engine :=
  { engine with
    statistics := { engine.statistics with emitted := engine.statistics.emitted + 1 } }

def countDuplicate (engine : Engine) : Engine :=
  { engine with
    statistics :=
      { engine.statistics with duplicates := engine.statistics.duplicates + 1 } }

def countAbandoned (engine : Engine) : Engine :=
  { engine with
    statistics := { engine.statistics with abandoned := engine.statistics.abandoned + 1 } }

def countSkipped (engine : Engine) : Engine :=
  { engine with
    statistics := { engine.statistics with skipped := engine.statistics.skipped + 1 } }

/-- Whether an activation has a snapshot. -/
def tracks (engine : Engine) (activation : Activation) : Bool :=
  engine.snapshots.contains activation

def debug (message : String) : LogEvent :=
  { level := .debug, message := message }

def trace (message : String) : LogEvent :=
  { level := .trace, message := message }

/-- Adds a test case to the collection, unless it has it. -/
def record (engine : Engine) (test : TestCase) : Engine × List LogEvent :=
  let name := test.method.baseName
  match engine.collection.offer test with
  | (true, collection) =>
      ({ engine.countEmitted with collection := collection },
        [trace ("new test case for " ++ name)])
  | (false, collection) =>
      ({ engine.countDuplicate with collection := collection },
        [trace ("duplicate test case for " ++ name)])

/-- Leaves a test case out if the fault is recoverable. -/
def skipTest (engine : Engine) (fault : Fault) : Except Fault Unit × Engine × List LogEvent :=
  if fault.isRecoverable then
    (.ok (), engine.countSkipped,
      [{ level := .warn, message := fault.message ++ ", test case skipped" }])
  else (.error fault, engine, [])

/-- Leaves a method out if the fault is recoverable.  Only the first time this is
a warning. -/
def skipMethod (engine : Engine) (method : Method) (fault : Fault) :
    Except Fault Unit × Engine × List LogEvent :=
  let message := fault.message ++ ", skipping"
  if !fault.isRecoverable then (.error fault, engine, [])
  else if method ∈ engine.rejected then (.ok (), engine.countSkipped, [trace message])
  else
    (.ok (), { engine.countSkipped with rejected := method :: engine.rejected },
      [{ level := .warn, message := message }])

/-- What is reported if the path of a machine cannot be taken. -/
def pathEvent? (machine : Machine) (method : Method) : Option LogEvent :=
  let event (state : String) : LogEvent :=
    debug ("path condition for " ++ method.baseName ++ " is " ++ state ++ ", abandoning")
  match machine.pathCondition with
  | some true => none
  | some false => some (event "unsatisfiable")
  | none => some (event "absent")

/-- Sorts arguments into symbolic and concrete ones; the concrete ones are resolved
at once. -/
def captureArguments (symbolicArrays : Bool) (method : Method) :
    List ((Parameter × ArgumentKind) × Captured) →
      Resolution (List (Parameter × Captured) × List (Parameter × Value))
  | [] => pure ([], [])
  | ((parameter, .symbolic), captured) :: rest => do
      let (symbolic, concrete) ← captureArguments symbolicArrays method rest
      return ((parameter, captured) :: symbolic, concrete)
  | ((parameter, .concrete), captured) :: rest => do
      match captured with
      | .symbolic _ | .symbolicArray _ =>
          throw
            (.contract (.concreteCapturedSymbolically parameter.name method.baseName))
      | _ => pure ()
      let value ← Resolution.resolve symbolicArrays parameter.name parameter.type captured
      let (symbolic, concrete) ← captureArguments symbolicArrays method rest
      return (symbolic, (parameter, value) :: concrete)

/-- Takes the snapshot of a call. -/
def capture (symbolicArrays : Bool) (entry : CallEntry) (kinds : List ArgumentKind) :
    Resolution Snapshot := do
  let method := entry.method
  let count := method.arguments.length
  if kinds.length ≠ count ∨ entry.arguments.length ≠ count then
    throw
      (.contract
        (.argumentCount method.baseName count kinds.length entry.arguments.length))
  let (symbolic, concrete) ← captureArguments symbolicArrays method
    ((method.arguments.zip kinds).zip entry.arguments)
  Resolution.ofExcept (Snapshot.build method symbolic concrete)

/-- Resolves the arguments of a snapshot and builds the test case. -/
def resolveTest (symbolicArrays : Bool) (snapshot : Snapshot) (outcome : Outcome) :
    Resolution TestCase := do
  let given ← Resolution.resolveSnapshot symbolicArrays snapshot
  Resolution.ofExcept (TestCase.build snapshot.method given outcome)

/-- Resolves the result of a call and then its arguments. -/
def resolveExit (symbolicArrays : Bool) (snapshot : Snapshot) (returned : Option Captured) :
    Resolution TestCase := do
  let outcome ← Resolution.resolveReturn symbolicArrays snapshot.method returned
  resolveTest symbolicArrays snapshot outcome

/-- Runs a resolution on a machine. -/
def runResolution {α : Type} (resolution : Resolution α) (machine : Machine) :
    Except Fault α × World :=
  resolution.run.run { machine := machine, log := [] }

/-- Captures the arguments of a tracked method that tests can be written for. -/
def enter (engine : Engine) (machine : Machine) (entry : CallEntry) : Response :=
  if engine.tracks entry.activation then
    { result := .ok ()
      engine := engine
      machine := machine
      log := [trace ("activation " ++ entry.activation.text ++ " already captured")] }
  else
    match machine.classify entry.method with
    | none => { result := .ok (), engine := engine, machine := machine, log := [] }
    | some kinds =>
        match entry.method.checkSignature with
        | .error fault =>
            let (result, after, log) := engine.skipMethod entry.method fault
            { result := result, engine := after, machine := machine, log := log }
        | .ok () =>
            match runResolution (capture engine.config.symbolicArrays entry kinds) machine with
            | (.error fault, world) =>
                let (result, after, log) := engine.skipTest fault
                { result := result
                  engine := after
                  machine := world.machine
                  log := world.log ++ log }
            | (.ok snapshot, world) =>
                let (_, snapshots) := engine.snapshots.attach entry.activation snapshot
                { result := .ok ()
                  engine := { engine.countSnapshot with snapshots := snapshots }
                  machine := world.machine
                  log :=
                    world.log ++
                      [trace ("entered " ++ entry.activation.text ++ ": " ++ snapshot.text)] }

/-- Whether another activation on the call stack has a snapshot. -/
def hasTrackedCaller (engine : Engine) (machine : Machine) (current : Activation) : Bool :=
  machine.stack.any fun frame =>
    frame.activation != current && engine.tracks frame.activation

/-- Gives up the branch of a call that is explored, if this is asked for. -/
def prune (engine : Engine) (machine : Machine) (method : Method) (activation : Activation) :
    Machine × List LogEvent :=
  if engine.config.optimize && !machine.hasPendingAlternatives &&
      !engine.hasTrackedCaller machine activation then
    (machine.ignoreBranch,
      [debug (method.baseName ++ " fully explored, abandoning branch")])
  else (machine, [])

/-- Makes a test case of a tracked call that returned. -/
def exit (engine : Engine) (machine : Machine) (event : CallExit) : Response :=
  match engine.snapshots.get? event.activation with
  | none => { result := .ok (), engine := engine, machine := machine, log := [] }
  | some snapshot =>
      match pathEvent? machine snapshot.method with
      | some problem =>
          { result := .ok ()
            engine := engine.countAbandoned
            machine := machine
            log := [problem] }
      | none =>
          match
            runResolution (resolveExit engine.config.symbolicArrays snapshot event.returned)
              machine with
          | (.error fault, world) =>
              let (result, after, log) := engine.skipTest fault
              { result := result
                engine := after
                machine := world.machine
                log := world.log ++ log }
          | (.ok test, world) =>
              let (after, log) := engine.record test
              let (pruned, pruning) :=
                after.prune world.machine snapshot.method event.activation
              { result := .ok ()
                engine := after
                machine := pruned
                log := world.log ++ log ++ pruning }

/-- What is reported when a frame catches an exception. -/
def caughtEvent (exception : ThrownException) (frame : Frame) : LogEvent :=
  debug
    (exception.typeName ++ " caught by " ++ frame.method.baseName ++ " (" ++
      frame.activation.text ++ ")")

/-- Carries an exception through frames from the innermost one outward.  Every
frame that has a snapshot gets a test case, up to the first frame that catches
the exception. -/
def unwind (exception : ThrownException) (engine : Engine) (machine : Machine) :
    List Frame → Response
  | [] => { result := .ok (), engine := engine, machine := machine, log := [] }
  | frame :: rest =>
      if machine.handlers frame.activation exception.typeName then
        { result := .ok ()
          engine := engine
          machine := machine
          log := [caughtEvent exception frame] }
      else
        match engine.snapshots.get? frame.activation with
        | none => unwind exception engine machine rest
        | some snapshot =>
            match pathEvent? machine snapshot.method with
            | some problem =>
                { result := .ok ()
                  engine := engine.countAbandoned
                  machine := machine
                  log := [problem] }
            | none =>
                match
                  runResolution
                    (resolveTest engine.config.symbolicArrays snapshot (.threw exception))
                    machine with
                | (.ok test, world) =>
                    let (after, log) := engine.record test
                    let response := unwind exception after world.machine rest
                    { response with log := world.log ++ log ++ response.log }
                | (.error fault, world) =>
                    match engine.skipTest fault with
                    | (.error fault, after, log) =>
                        { result := .error fault
                          engine := after
                          machine := world.machine
                          log := world.log ++ log }
                    | (.ok (), after, log) =>
                        let response := unwind exception after world.machine rest
                        { response with log := world.log ++ log ++ response.log }

/-- Attributes an exception to the tracked calls that it leaves. -/
def throwException (engine : Engine) (machine : Machine) (exception : ThrownException) :
    Response :=
  unwind exception engine machine machine.stack

/-- Forgets the snapshot of an activation that will not be resumed; tells whether
there was one. -/
def release (engine : Engine) (activation : Activation) : Bool × Engine :=
  let (released, snapshots) := engine.snapshots.release activation
  (released.isSome, { engine with snapshots := snapshots })

/-- Writes the collection with the configured formatter.  Nothing is written if
there is no such formatter. -/
def finish (engine : Engine) (sink : Sink) : Delivery :=
  match engine.registry.create engine.config with
  | .error fault =>
      { result := .error fault
        counter := 0
        sink := sink
        log :=
          [{ level := .error
             message := fault.message ++ ", no tests will be written" }] }
  | .ok formatter =>
      let delivery := formatter.formatAll 0 engine.collection sink
      let event :=
        debug
          ("writing " ++ toString engine.collection.size ++ " test case(s) for " ++
            toString engine.collection.groups.length ++ " method(s) with '" ++
            formatter.name ++ "'")
      { delivery with log := event :: delivery.log }

end Engine

/-- A notification of a machine. -/
inductive Notification
  | entered (entry : CallEntry)
  | exited (event : CallExit)
  | thrown (exception : ThrownException)
  | released (activation : Activation)

/-- Handles a notification. -/
def Engine.handle (engine : Engine) (machine : Machine) : Notification → Response
  | .entered entry => engine.enter machine entry
  | .exited event => engine.exit machine event
  | .thrown exception => engine.throwException machine exception
  | .released activation =>
      { result := .ok (), engine := (engine.release activation).2, machine := machine, log := [] }

end TestSynth
