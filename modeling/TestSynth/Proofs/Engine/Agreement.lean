import TestSynth.Proofs.Engine.Tracking

/-!
# Agreement of test cases with the model

A scalar that a machine supplies through a variable is the solution of the
variable.  Results and symbolic arguments are read when the call ends, concrete
arguments when it is entered, so that the latter agree with the model at the end
only as far as the machine has kept its solutions.
-/

namespace TestSynth

namespace Machine

/-- A scalar of a value comes from a variable: as the whole of a symbolic
primitive or through a symbolic slot of a heap array. -/
inductive Supplies (machine : Machine) :
    JavaType → Captured → Value → Variable → Primitive → Scalar → Prop
  | scalar {base : Primitive} {source : Variable} {content : Scalar} :
      Supplies machine (.primitive base) (.symbolic source) (.scalar content)
        source base content
  | slot {base : Primitive} {handle : ArrayHandle} {slots : List Slot}
      {elements : List Scalar} {slot : Slot} {source : Variable}
      {content : Scalar} :
      machine.heap handle =
        some { element := .primitive base, slots := slots } →
      (slot, content) ∈ slots.zip elements →
      slot.source = some source →
      Supplies machine (.array (.primitive base)) (.array handle)
        (.array { element := base, elements := elements }) source base content

/-- What is supplied through a variable is its solution. -/
theorem Reads.solved? {machine : Machine} {type : JavaType}
    {captured : Captured} {value : Value} {source : Variable}
    {base : Primitive} {content : Scalar}
    (reads : machine.Reads type captured value)
    (supplies : machine.Supplies type captured value source base content) :
    machine.solved? source base = some content := by
  cases supplies with
  | scalar =>
      cases reads with
      | symbolic solved => exact solved
  | slot found member symbolic =>
      cases reads with
      | array foundAgain slots =>
          rw [found] at foundAgain
          cases foundAgain
          have read := List.forall₂_zip slots member
          cases read with
          | stored _ => cases symbolic
          | symbolic solved =>
              cases symbolic
              exact solved

theorem ReadsArgument.exists_of_mem {machine : Machine}
    {arguments : List (Parameter × Captured)} {values : List (Parameter × Value)}
    (reads : List.Forall₂ machine.ReadsArgument arguments values)
    {parameter : Parameter} {value : Value}
    (member : (parameter, value) ∈ values) :
    ∃ captured, (parameter, captured) ∈ arguments ∧
      machine.Reads parameter.type captured value := by
  induction reads with
  | nil => cases member
  | @cons argument item _ _ first _ ih =>
      rcases List.mem_cons.mp member with rfl | member
      · obtain ⟨same, read⟩ := first
        rcases argument with ⟨name, captured⟩
        cases same
        exact ⟨captured, List.mem_cons_self, read⟩
      · obtain ⟨captured, origin, read⟩ := ih member
        exact ⟨captured, List.mem_cons_of_mem _ origin, read⟩

end Machine

/-- Every scalar that a machine supplies for a value is the solution of its
variable. -/
def Machine.Agrees (machine : Machine) (type : JavaType) (captured : Captured)
    (value : Value) : Prop :=
  ∀ source base content,
    machine.Supplies type captured value source base content →
      machine.solved? source base = some content

theorem Machine.Reads.agrees {machine : Machine} {type : JavaType}
    {captured : Captured} {value : Value}
    (reads : machine.Reads type captured value) :
    machine.Agrees type captured value :=
  fun _ _ _ supplies => reads.solved? supplies

/-- Where the arguments of a test case come from: each was reported when the call was
entered, and read in the machine at the end of the call if it is symbolic, in the machine
after the entry if it is concrete. -/
theorem Machine.Realizes.exists_reads {entered ended : Machine} {entry : CallEntry}
    {kinds : List ArgumentKind} {snapshot : Snapshot} {outcome : Outcome} {test : TestCase}
    (realizes : ended.Realizes snapshot outcome test)
    (captures : entered.Captures entry kinds snapshot) {argument : Argument}
    (member : argument ∈ test.arguments) :
    (∃ captured, (argument.parameter, captured) ∈ entry.ofKind kinds .symbolic ∧
        ended.Reads argument.parameter.type captured argument.value) ∨
      ∃ captured, (argument.parameter, captured) ∈ entry.ofKind kinds .concrete ∧
        entered.Reads argument.parameter.type captured argument.value := by
  obtain ⟨values, reads, permutation⟩ := realizes.arguments
  have given := permutation.mem_iff.mp
    (List.mem_map_of_mem (f := Argument.pair) member)
  rcases List.mem_append.mp given with resolved | fixed
  · obtain ⟨captured, reported, read⟩ := ReadsArgument.exists_of_mem reads resolved
    rw [captures.symbolic] at reported
    exact .inl ⟨captured, reported, read⟩
  · obtain ⟨captured, reported, read⟩ :=
      ReadsArgument.exists_of_mem captures.concrete fixed
    exact .inr ⟨captured, reported, read⟩

/-- How an argument of a test case was read that was reported in a given way. -/
theorem Machine.Realizes.reads_argument {entered ended : Machine}
    {entry : CallEntry} {kinds : List ArgumentKind} {snapshot : Snapshot}
    {outcome : Outcome} {test : TestCase}
    (realizes : ended.Realizes snapshot outcome test)
    (captures : entered.Captures entry kinds snapshot)
    (sound : snapshot.Sound) {argument : Argument}
    (member : argument ∈ test.arguments) {kind : ArgumentKind}
    {captured : Captured}
    (reported : (argument.parameter, captured) ∈ entry.ofKind kinds kind) :
    match kind with
    | .symbolic =>
        ended.Reads argument.parameter.type captured argument.value
    | .concrete =>
        entered.Reads argument.parameter.type captured argument.value := by
  have distinct := sound.distinct
  rw [captures.method] at distinct
  rcases realizes.exists_reads captures member with
    ⟨origin, originMember, read⟩ | ⟨origin, originMember, read⟩
  · obtain ⟨rfl, rfl⟩ := CallEntry.eq_of_mem_ofKind captures.kindCount
      captures.argumentCount distinct originMember reported
    exact read
  · obtain ⟨rfl, rfl⟩ := CallEntry.eq_of_mem_ofKind captures.kindCount
      captures.argumentCount distinct originMember reported
    exact read

namespace Session

/-- A new test case is made of the snapshot that its call has.  What it has from variables
agrees with the model at the end of the call, except in concrete arguments, which agree with
the model at the entry that took the snapshot and, where the machine has kept that, with the
one at the end. -/
theorem handle_agrees (config : Config) (registry : Registry)
    (machine : Machine) (moves : List Move) (notification : Notification) :
    let initial := start config registry machine
    let session := initial.run moves
    let ended := session.step (.notify notification)
    ∀ test ∈ ended.engine.collection.tests,
      test ∉ session.engine.collection.tests →
      ∃ before entry kinds after snapshot,
        moves = before ++ .notify (.entered entry) :: after ∧
        initial.Origin before entry kinds after snapshot ∧
        session.engine.snapshots.get? entry.activation = some snapshot ∧
        let calling := initial.run before
        let entered := calling.step (.notify (.entered entry))
        calling.machine.classify entry.method = some kinds ∧
        test.method = entry.method ∧
        ended.machine.Concludes entry.method notification entry.activation
          test.outcome ∧
        ended.machine.Realizes snapshot test.outcome test ∧
        (∀ argument ∈ test.arguments,
          (∃ captured, (argument.parameter, captured) ∈ entry.ofKind kinds .symbolic ∧
              ended.machine.Reads argument.parameter.type captured argument.value) ∨
            ∃ captured, (argument.parameter, captured) ∈ entry.ofKind kinds .concrete ∧
              entered.machine.Reads argument.parameter.type captured argument.value) ∧
        (∀ argument ∈ test.arguments, ∀ captured,
          ((argument.parameter, captured) ∈ entry.ofKind kinds .symbolic →
            ended.machine.Agrees argument.parameter.type captured
              argument.value) ∧
          ((argument.parameter, captured) ∈ entry.ofKind kinds .concrete →
            entered.machine.Agrees argument.parameter.type captured
                argument.value ∧
              ∀ source base content,
                entered.machine.Supplies argument.parameter.type captured
                  argument.value source base content →
                entered.Keeps source after →
                ended.machine.solved? source base = some content)) ∧
        ∀ event captured value,
          notification = .exited event → event.returned = some captured →
          test.outcome = .returned value →
            ended.machine.Agrees test.method.returnType captured value := by
  intro initial session ended test member fresh
  rcases Engine.mem_tests_handle member with
    kept | ⟨activation, snapshot, outcome, tracked, concludes, realizes⟩
  · exact absurd kept fresh
  obtain ⟨before, entry, kinds, after, movesEq, rfl, origin⟩ :=
    ((get?_run_iff rfl).mp tracked).exists_origin
  have captures := origin.captures
  have sound := captures.sound origin.admissible
  have method : test.method = entry.method :=
    realizes.method.trans captures.method
  rw [← realizes.outcome, captures.method] at concludes
  rw [← realizes.outcome] at realizes
  refine ⟨before, entry, kinds, after, snapshot, movesEq, origin, tracked, origin.classified,
    method, concludes, realizes, fun _ => realizes.exists_reads captures, ?_, ?_⟩
  · intro argument argumentMember captured
    constructor
    · intro reported
      have reads := realizes.reads_argument captures sound argumentMember reported
      exact reads.agrees
    · intro reported
      have reads := realizes.reads_argument captures sound argumentMember reported
      refine ⟨reads.agrees, ?_⟩
      intro source base content supplies keeps
      -- The variable is solved after the entry, so only the machine itself can
      -- have changed it up to the end of the call.
      have solved := solved?_run (reads.solved? supplies) keeps
      have extension :=
        Engine.extends_handle session.engine session.machine notification
      apply extension.solved?_eq_some
      simp only [session, movesEq, run_append]
      exact solved
  · intro event captured value same returned outcomeEq
    subst same
    have reads := concludes.readsReturn
    rw [outcomeEq, returned] at reads
    rw [method]
    exact reads.reads.agrees

/-- A method whose only argument is an array. -/
def staleMethod : Method :=
  { declaringClass := { name := "demo.Sums", hasDefaultConstructor := true }
    name := "sum"
    isStatic := true
    parameters :=
      [{ name := "xs", type := .array (.primitive .int), ordinal := 0
         isReceiver := false }]
    returnType := .void
    thrown := [] }

/-- The array is concrete, but its only slot is symbolic. -/
def staleMachine : Machine :=
  { Machine.new with
    solutions := fun _ => .integer 5
    heap := fun _ =>
      some { element := .primitive .int
             slots := [.symbolic { number := 0 }] }
    tracked := fun _ => some [.concrete] }

def staleEntry : CallEntry :=
  { activation := { number := 1 }
    method := staleMethod
    arguments := [.array { number := 0 }] }

/-- The slot gets a solution once more after the method is entered. -/
def staleMoves (content : Int64) : List Move :=
  [.notify (.entered staleEntry),
    .alter fun machine => machine.assign { number := 0 } (.integer content)]

def staleExit : CallExit :=
  { activation := { number := 1 }
    returned := none }

def staleTest : TestCase :=
  { method := staleMethod
    arguments := staleMethod.arguments.map fun parameter =>
      { parameter := parameter
        value := .array { element := .int, elements := [.integer 5] } }
    outcome := .void }

def staleSnapshot : Snapshot :=
  { method := staleMethod
    symbolic := []
    concrete := staleTest.arguments.map Argument.pair }

theorem ends_resolveExit_stale (machine : Machine) :
    (Engine.resolveExit false staleSnapshot none).Ends
      { machine := machine, log := [] } (.ok staleTest)
      { machine := machine, log := [] } := by
  refine Resolution.ends_bind_ok_iff.mpr ⟨.void, _, rfl, ?_⟩
  refine Resolution.ends_bind_ok_iff.mpr
    ⟨staleSnapshot.concrete, _, ?_, rfl⟩
  refine Resolution.ends_bind_ok_iff.mpr ⟨[], _, rfl, ?_⟩
  exact Resolution.ends_pure_iff.mpr
    ⟨congrArg Except.ok (List.mergeSort_singleton _).symm, rfl⟩

def staleSession (content : Int64) : Session :=
  (start {} .empty staleMachine).run (staleMoves content)

theorem step_staleExit (content : Int64) :
    let ended := (staleSession content).step (.notify (.exited staleExit))
    ended.engine.collection.tests = [staleTest] ∧
      ended.machine = (staleSession content).machine := by
  let session := staleSession content
  have exits : Engine.Exits staleExit session.engine session.machine
      (.ok ()) (session.engine.record staleTest).1
      ((session.engine.record staleTest).1.prune session.machine
        staleMethod staleExit.activation).1 := by
    have resolved := ends_resolveExit_stale session.machine
    have tracked : session.engine.snapshots.get? staleExit.activation =
        some staleSnapshot := rfl
    exact .recorded tracked rfl resolved
  obtain ⟨_, engineEq, machineEq⟩ := Engine.exit_of_exits exits
  constructor
  · simp only [step, Engine.handle, session] at engineEq ⊢
    rw [engineEq]
    rfl
  · exact machineEq.trans rfl

/-- The element of the concrete argument is not the solution at the end. -/
theorem stale_argument :
    let ended := (staleSession 7).step (.notify (.exited staleExit))
    ∃ test ∈ ended.engine.collection.tests,
      test ∉ (staleSession 7).engine.collection.tests ∧
        ∃ argument ∈ test.arguments,
          ended.machine.Supplies argument.parameter.type
              (.array { number := 0 }) argument.value { number := 0 } .int
              (.integer 5) ∧
            ended.machine.solved? { number := 0 } .int = some (.integer 7) := by
  obtain ⟨collected, unpruned⟩ := step_staleExit 7
  refine ⟨staleTest, ?_, List.not_mem_nil, _, List.mem_cons_self, ?_, ?_⟩
  · rw [collected]
    exact List.mem_cons_self
  · rw [unpruned]
    exact .slot rfl List.mem_cons_self rfl
  · rw [unpruned]
    rfl

/-- The moves enter a method once. -/
theorem staleMoves_eq_iff {content : Int64} {before after : List Move} {entry : CallEntry} :
    staleMoves content = before ++ .notify (.entered entry) :: after ↔
      before = [] ∧ entry = staleEntry ∧
        after =
          [.alter fun machine => machine.assign { number := 0 } (.integer content)] := by
  constructor
  · intro same
    cases before with
    | nil =>
        obtain ⟨first, rest⟩ := List.cons.inj same
        cases first
        exact ⟨rfl, rfl, rest.symm⟩
    | cons first rest =>
        have later := (List.cons.inj same).2
        cases rest with
        | nil => cases (List.cons.inj later).1
        | cons second others => simp at later
  · rintro ⟨rfl, rfl, rfl⟩
    rfl

/-- The element of the argument is the solution at the entry.  It is the one at the end only
if the machine has kept it. -/
theorem handle_agrees_stale :
    let entered := (start {} .empty staleMachine).step (.notify (.entered staleEntry))
    let changed := (staleSession 7).step (.notify (.exited staleExit))
    let kept := (staleSession 5).step (.notify (.exited staleExit))
    staleTest ∈ changed.engine.collection.tests ∧
      staleTest ∉ (staleSession 7).engine.collection.tests ∧
      changed.machine.Realizes staleSnapshot .void staleTest ∧
      kept.machine.Realizes staleSnapshot .void staleTest ∧
      (∀ argument ∈ staleTest.arguments,
        entered.machine.Reads argument.parameter.type (.array { number := 0 }) argument.value ∧
          entered.machine.Supplies argument.parameter.type (.array { number := 0 })
            argument.value { number := 0 } .int (.integer 5)) ∧
      entered.machine.solved? { number := 0 } .int = some (.integer 5) ∧
      kept.machine.solved? { number := 0 } .int = some (.integer 5) ∧
      changed.machine.solved? { number := 0 } .int = some (.integer 7) := by
  intro entered changed kept
  have collected (content : Int64) : staleTest ∈
      ((staleSession content).step (.notify (.exited staleExit))).engine.collection.tests := by
    rw [(step_staleExit content).1]
    exact List.mem_cons_self
  have supplies : ∀ argument ∈ staleTest.arguments,
      entered.machine.Supplies argument.parameter.type (.array { number := 0 })
        argument.value { number := 0 } .int (.integer 5) :=
    List.forall_mem_singleton.mpr (.slot rfl List.mem_cons_self rfl)
  -- The test case goes back to the only entry, whatever solution the slot gets after it.
  have origin (content : Int64) :
      let ended := (staleSession content).step (.notify (.exited staleExit))
      ended.machine.Realizes staleSnapshot .void staleTest ∧
        ∀ argument ∈ staleTest.arguments,
          entered.machine.Reads argument.parameter.type (.array { number := 0 })
              argument.value ∧
            entered.machine.solved? { number := 0 } .int = some (.integer 5) ∧
            (entered.Keeps { number := 0 }
                [.alter fun machine => machine.assign { number := 0 } (.integer content)] →
              ended.machine.solved? { number := 0 } .int = some (.integer 5)) := by
    obtain ⟨_, _, _, _, _, moves, _, tracked, classified, _, _, realizes, covered,
      agrees, _⟩ := handle_agrees {} .empty staleMachine (staleMoves content)
        (.exited staleExit) staleTest (collected content) List.not_mem_nil
    obtain ⟨rfl, rfl, rfl⟩ := staleMoves_eq_iff.mp moves
    cases tracked
    cases classified
    refine ⟨realizes, fun argument member => ?_⟩
    rcases covered argument member with ⟨_, reported, _⟩ | ⟨captured, reported, reads⟩
    · cases reported
    · have same := List.mem_singleton.mp reported
      cases (Prod.mk.inj same).2
      obtain ⟨solved, kept⟩ := (agrees argument member _).2 reported
      exact ⟨reads, solved _ _ _ (supplies argument member),
        kept _ _ _ (supplies argument member)⟩
  obtain ⟨realizesChanged, reads⟩ := origin 7
  obtain ⟨realizesKept, keeps⟩ := origin 5
  obtain ⟨_, solved, _⟩ := reads _ List.mem_cons_self
  obtain ⟨_, _, stays⟩ := keeps _ List.mem_cons_self
  refine ⟨collected 7, List.not_mem_nil, realizesChanged, realizesKept,
    fun argument member => ⟨(reads argument member).1, supplies argument member⟩, solved,
    stays ⟨rfl, trivial⟩, ?_⟩
  rw [(step_staleExit 7).2]
  rfl

end Session

end TestSynth
