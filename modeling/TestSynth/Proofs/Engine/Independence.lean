import TestSynth.Machine.Operation
import TestSynth.Proofs.Engine.Reordering

/-!
# Independence of the configuration

While an engine runs it reads no more of its configuration than whether arrays may
be symbolic and whether branches are to be given up.  The latter has a part in the
number of branches given up and in nothing else, and nothing reads this number.
-/

namespace TestSynth

/-- The machine with another number of branches given up. -/
def Machine.withBranches (machine : Machine) (branches : Nat) : Machine :=
  { machine with ignoredBranches := branches }

def World.withBranches (world : World) (branches : Nat) : World :=
  { world with machine := world.machine.withBranches branches }

theorem Machine.extends_withBranches (machine : Machine) (branches : Nat) :
    (machine.withBranches branches).Extends machine :=
  { keeps := fun _ _ => rfl
    frame := rfl }

/-- A resolution does not depend on the number of branches given up. -/
theorem Resolution.Composed.withBranches {α : Type} {resolution : Resolution α}
    {world after : World} {result : Except Fault α} (composed : Composed resolution)
    (ended : resolution.Ends world result after) (branches : Nat) :
    resolution.Ends (world.withBranches branches) result
      (after.withBranches branches) := by
  induction composed generalizing world after with
  | pure value =>
      obtain ⟨rfl, rfl⟩ := ends_pure_iff.mp ended
      exact ends_pure_iff.mpr ⟨rfl, rfl⟩
  | throw fault =>
      obtain ⟨rfl, rfl⟩ := ends_throw_iff.mp ended
      exact ends_throw_iff.mpr ⟨rfl, rfl⟩
  | ofExcept given =>
      obtain ⟨rfl, rfl⟩ := ends_ofExcept_iff.mp ended
      exact ends_ofExcept_iff.mpr ⟨rfl, rfl⟩
  | emit _ =>
      obtain ⟨rfl, rfl⟩ := ends_emit_iff.mp ended
      exact ends_emit_iff.mpr ⟨rfl, rfl⟩
  | resolveVariable slot primitive source =>
      rcases ends_resolveVariable_iff.mp ended with
        ⟨free, rfl, rfl⟩ | ⟨solved, rfl, rfl⟩
      · exact ends_resolveVariable_iff.mpr (.inl ⟨free, rfl, rfl⟩)
      · exact ends_resolveVariable_iff.mpr (.inr ⟨solved, rfl, rfl⟩)
  | @read _ body fixed _ ih =>
      have bodyEnds := ih world.machine (ends_machine_bind_iff.mp ended)
      rw [← fixed (world.machine.extends_withBranches branches)] at bodyEnds
      exact ends_machine_bind_iff.mpr bodyEnds
  | bind _ _ ihFirst ihNext =>
      rcases ends_bind_iff.mp ended with
        ⟨value, middle, firstEnds, nextEnds⟩ | ⟨fault, firstEnds, rfl⟩
      · exact ends_bind_iff.mpr
          (.inl ⟨value, _, ihFirst firstEnds, ihNext value nextEnds⟩)
      · exact ends_bind_iff.mpr (.inr ⟨fault, ihFirst firstEnds, rfl⟩)

namespace Engine

/-- The engine with another configuration and another registry. -/
def configured (engine : Engine) (config : Config) (registry : Registry) : Engine :=
  { engine with
    config := config
    registry := registry }

variable {engine finalEngine : Engine} {machine finalMachine : Machine}
  {entry : CallEntry} {event : CallExit} {exception : ThrownException}
  {pending : List Snapshot} {result : Except Fault Unit} {config : Config}
  {registry : Registry}

/-- What a resolution comes to is the same under a configuration that treats
symbolic arrays alike. -/
theorem ends_configured {α : Type} {resolution : Bool → Resolution α}
    {given : Except Fault α} {world : World}
    (composed : ∀ symbolicArrays, (resolution symbolicArrays).Composed)
    (agree : config.symbolicArrays = engine.config.symbolicArrays)
    (branches : Nat)
    (ended : (resolution engine.config.symbolicArrays).Ends
      { machine := machine, log := [] } given world) :
    (resolution config.symbolicArrays).Ends
      { machine := machine.withBranches branches, log := [] } given
      (world.withBranches branches) := by
  rw [agree]
  exact (composed _).withBranches ended branches

theorem record_configured (engine : Engine) (test : TestCase) :
    ((engine.configured config registry).record test).1 =
      (engine.record test).1.configured config registry := by
  unfold record
  simp only [configured]
  split <;> rfl

theorem skipTest_configured (engine : Engine) (fault : Fault) :
    (engine.configured config registry).skipTest fault =
      ((engine.skipTest fault).1,
        (engine.skipTest fault).2.1.configured config registry,
        (engine.skipTest fault).2.2) := by
  unfold skipTest
  split <;> rfl

theorem skipMethod_configured (engine : Engine) (method : Method) (fault : Fault) :
    (engine.configured config registry).skipMethod method fault =
      ((engine.skipMethod method fault).1,
        (engine.skipMethod method fault).2.1.configured config registry,
        (engine.skipMethod method fault).2.2) := by
  cases recoverable : fault.isRecoverable with
  | false => simp [skipMethod, recoverable]
  | true =>
      by_cases rejected : method ∈ engine.rejected
      · simp [skipMethod, recoverable, configured, rejected, countSkipped]
      · simp [skipMethod, recoverable, configured, rejected, countSkipped]

theorem enter_configured (machine : Machine) (entry : CallEntry)
    (agree : config.symbolicArrays = engine.config.symbolicArrays)
    (branches : Nat) :
    let response := engine.enter machine entry
    let other := (engine.configured config registry).enter
      (machine.withBranches branches) entry
    other.result = response.result ∧
      other.engine = response.engine.configured config registry ∧
      other.machine = response.machine.withBranches branches := by
  intro response other
  have tracks : (engine.configured config registry).tracks entry.activation =
      engine.tracks entry.activation := rfl
  have classify : (machine.withBranches branches).classify entry.method =
      machine.classify entry.method := rfl
  cases tracked : engine.tracks entry.activation with
  | true =>
      simp only [response, other, enter, tracks, tracked, if_true, and_self]
  | false =>
      cases classified : machine.classify entry.method with
      | none =>
          simp only [response, other, enter, tracks, tracked, classify, classified]
          exact ⟨rfl, rfl, rfl⟩
      | some kinds =>
          cases admissible : entry.method.checkSignature with
          | error fault =>
              simp only [response, other, enter, tracks, tracked, classify, classified,
                admissible, skipMethod_configured]
              exact ⟨rfl, rfl, rfl⟩
          | ok _ =>
              rcases resolved : runResolution
                  (capture engine.config.symbolicArrays entry kinds)
                  machine with ⟨given, world⟩
              have otherResolved : runResolution
                  (capture (engine.configured config registry).config.symbolicArrays
                    entry kinds) (machine.withBranches branches) =
                  (given, world.withBranches branches) :=
                ends_configured (composed_capture · entry kinds) agree branches
                  resolved
              simp only [response, other, enter, tracks, tracked, classify, classified,
                admissible, resolved, otherResolved]
              cases given with
              | ok snapshot => exact ⟨rfl, rfl, rfl⟩
              | error fault =>
                  simp only [skipTest_configured]
                  exact ⟨rfl, rfl, rfl⟩

theorem Exits.configured
    (exits : Exits event engine machine result finalEngine finalMachine)
    (agree : config.symbolicArrays = engine.config.symbolicArrays)
    (branches : Nat) :
    ∃ later,
      Exits event (engine.configured config registry) (machine.withBranches branches)
        result (finalEngine.configured config registry)
        (finalMachine.withBranches later) := by
  have composed (snapshot : Snapshot) (symbolicArrays : Bool) :=
    composed_resolveExit symbolicArrays snapshot event.returned
  let other := engine.configured config registry
  let running := machine.withBranches branches
  cases exits with
  | untracked untracked => exact ⟨branches, .untracked untracked⟩
  | abandoned tracked unsolvable => exact ⟨branches, .abandoned tracked unsolvable⟩
  | recorded tracked solvable ended =>
      -- Only here may the engines part, in whether the branch is given up.
      have resolved := ends_configured (composed _) agree branches ended
      have recorded := @Exits.recorded event other running _ _ _ tracked solvable
        resolved
      rw [record_configured, prune_frame] at recorded
      rw [prune_frame]
      exact ⟨_, recorded⟩
  | skipped tracked solvable ended recoverable =>
      have resolved := ends_configured (composed _) agree branches ended
      exact ⟨branches, @Exits.skipped event other running _ _ _ tracked solvable
        resolved recoverable⟩
  | stopped tracked solvable ended final =>
      have resolved := ends_configured (composed _) agree branches ended
      exact ⟨branches, @Exits.stopped event other running _ _ _ tracked solvable
        resolved final⟩

theorem Attributes.configured
    (attributes : Attributes exception engine machine pending result finalEngine
      finalMachine)
    (agree : config.symbolicArrays = engine.config.symbolicArrays)
    (branches : Nat) :
    Attributes exception (engine.configured config registry)
      (machine.withBranches branches) pending result
      (finalEngine.configured config registry)
      (finalMachine.withBranches branches) := by
  have composed (snapshot : Snapshot) (symbolicArrays : Bool) :=
    composed_resolveTest symbolicArrays snapshot (.threw exception)
  induction attributes with
  | done => exact .done
  | recorded ended _ _ _ ih =>
      have resolved := ends_configured (composed _) agree branches ended
      have later := ih (by rw [config_record, agree])
      rw [← record_configured] at later
      exact .of_resolved resolved later
  | skipped ended recoverable _ ih =>
      have resolved := ends_configured (composed _) agree branches ended
      exact .skipped resolved recoverable (ih agree)
  | @stopped engine machine _ _ _ _ ended final =>
      have resolved := ends_configured (composed _) agree branches ended
      exact @Attributes.stopped exception (engine.configured config registry)
        (machine.withBranches branches) _ _ _ _ resolved final

theorem Throws.configured
    (throws : Throws exception engine machine result finalEngine finalMachine)
    (agree : config.symbolicArrays = engine.config.symbolicArrays)
    (branches : Nat) :
    Throws exception (engine.configured config registry)
      (machine.withBranches branches) result
      (finalEngine.configured config registry)
      (finalMachine.withBranches branches) := by
  cases throws with
  | untracked untracked => exact .untracked untracked
  | abandoned tracked unsolvable => exact .abandoned tracked unsolvable
  | attributed solvable attributes =>
      exact .attributed solvable (attributes.configured agree branches)

/-- An engine with another configuration, which treats symbolic arrays alike, does
the same up to the branches given up. -/
theorem handle_configured (engine : Engine) (machine : Machine)
    (agree : config.symbolicArrays = engine.config.symbolicArrays)
    (registry : Registry) (branches : Nat) (notification : Notification) :
    let response := engine.handle machine notification
    let other := (engine.configured config registry).handle
      (machine.withBranches branches) notification
    ∃ later,
      other.result = response.result ∧
        other.engine = response.engine.configured config registry ∧
        other.machine = response.machine.withBranches later := by
  cases notification with
  | entered entry => exact ⟨branches, enter_configured machine entry agree branches⟩
  | exited event =>
      obtain ⟨later, exits⟩ := (exits_exit engine machine event).configured agree branches
      exact ⟨later, exit_of_exits exits⟩
  | thrown exception =>
      have throws := throws_throwException engine machine exception
      exact ⟨branches, throwException_of_throws (throws.configured agree branches)⟩
  | released activation => exact ⟨branches, rfl, rfl, rfl⟩

end Engine

/-- A change of the machine that does not depend on the number of branches given
up. -/
def Move.Indifferent : Move → Prop
  | .notify _ => True
  | .alter change =>
      ∀ (machine : Machine) (branches : Nat),
        ∃ later, change (machine.withBranches branches) =
          (change machine).withBranches later

namespace Machine.Operation

/-- Nothing that can be done to a machine looks at the branches given up. -/
theorem indifferent (operation : Operation) :
    (Move.alter operation.apply).Indifferent := by
  intro machine branches
  cases operation with
  | ignoreBranch => exact ⟨branches + 1, rfl⟩
  | _ => exact ⟨branches, rfl⟩

end Machine.Operation

namespace Session

/-- The session with another configuration and another registry, in which another
number of branches were given up. -/
def configured (session : Session) (config : Config) (registry : Registry)
    (branches : Nat) : Session :=
  { engine := session.engine.configured config registry
    machine := session.machine.withBranches branches }

variable {session : Session} {config : Config} {registry : Registry}
  {branches : Nat} {move : Move} {moves : List Move}

theorem step_configured
    (agree : config.symbolicArrays = session.engine.config.symbolicArrays)
    (indifferent : move.Indifferent) :
    ∃ later,
      (session.configured config registry branches).step move =
        (session.step move).configured config registry later := by
  cases move with
  | alter change =>
      obtain ⟨later, changed⟩ := indifferent session.machine branches
      exact ⟨later, by simp only [step, configured, changed]⟩
  | notify notification =>
      obtain ⟨later, _, engine, machine⟩ := Engine.handle_configured session.engine
        session.machine agree registry branches notification
      exact ⟨later, by simp only [step, configured, engine, machine]⟩

theorem run_configured
    (agree : config.symbolicArrays = session.engine.config.symbolicArrays)
    (indifferent : ∀ move ∈ moves, move.Indifferent) :
    ∃ later,
      (session.configured config registry branches).run moves =
        (session.run moves).configured config registry later := by
  induction moves generalizing session branches with
  | nil => exact ⟨branches, rfl⟩
  | cons move rest ih =>
      obtain ⟨first, others⟩ := List.forall_mem_cons.mp indifferent
      obtain ⟨middle, stepped⟩ := step_configured agree first
      have kept := congrArg Config.symbolicArrays (settings_step session move).1
      obtain ⟨later, ran⟩ := ih (agree.trans kept.symm) others
      exact ⟨later, (congrArg (·.run rest) stepped).trans ran⟩

theorem results_configured
    (agree : config.symbolicArrays = session.engine.config.symbolicArrays)
    (indifferent : ∀ move ∈ moves, move.Indifferent) :
    (session.configured config registry branches).results moves =
      session.results moves := by
  induction moves generalizing session branches with
  | nil => rfl
  | cons move rest ih =>
      obtain ⟨first, others⟩ := List.forall_mem_cons.mp indifferent
      obtain ⟨middle, stepped⟩ := step_configured agree first
      have kept := congrArg Config.symbolicArrays (settings_step session move).1
      have later : ((session.step move).configured config registry middle).results
          rest = _ := ih (agree.trans kept.symm) others
      rw [← stepped] at later
      cases move with
      | alter change => exact later
      | notify notification =>
          obtain ⟨_, result, _⟩ := Engine.handle_configured session.engine
            session.machine agree registry branches notification
          exact congrArg₂ List.cons result later

/-- Sessions with the same machine and the same moves, which do not look at the
branches given up, have the same results under all configurations that agree on
symbolic arrays.  They lead to the same test cases, snapshots and counts, and to the
same machine but for the number of branches given up. -/
theorem run_independent (left right : Config) (first second : Registry)
    (machine : Machine) (moves : List Move)
    (agree : right.symbolicArrays = left.symbolicArrays)
    (indifferent : ∀ move ∈ moves, move.Indifferent) :
    let one := start left first machine
    let other := start right second machine
    let ended := one.run moves
    let otherEnded := other.run moves
    other.results moves = one.results moves ∧
    (∀ before move after, moves = before ++ move :: after →
      (other.run before).removes move = (one.run before).removes move) ∧
    otherEnded.engine.collection = ended.engine.collection ∧
    otherEnded.engine.snapshots = ended.engine.snapshots ∧
    otherEnded.engine.statistics = ended.engine.statistics ∧
    otherEnded.engine.rejected = ended.engine.rejected ∧
    otherEnded.machine =
      { ended.machine with ignoredBranches := otherEnded.machine.ignoredBranches } := by
  intro one other ended otherEnded
  have ran (before : List Move) (indifferent : ∀ move ∈ before, move.Indifferent) :
      ∃ later, other.run before = (one.run before).configured right second later :=
    @run_configured one right second machine.ignoredBranches before agree indifferent
  refine ⟨?_, ?_, ?_⟩
  · exact @results_configured one right second machine.ignoredBranches moves agree
      indifferent
  · rintro before move after rfl
    obtain ⟨later, earlier⟩ := ran before (List.forall_mem_append.mp indifferent).1
    rw [earlier]
    cases move with
    | alter change => rfl
    | notify notification => cases notification <;> rfl
  · obtain ⟨later, last⟩ := ran moves indifferent
    simp only [otherEnded, last]
    exact ⟨rfl, rfl, rfl, rfl, rfl⟩

/-- A call is entered and returns, and its branch is explored. -/
def exploredMoves : List Move :=
  [.alter (Machine.Operation.pushFrame
      { activation := { number := 1 }, method := twiceMethod }).apply,
    twiceEntry 1,
    .notify (.exited
      { activation := { number := 1 }
        returned := some (.symbolic { number := 7 }) }),
    .notify (.released { number := 1 })]

/-- A configuration that differs from the default one in all but symbolic arrays. -/
def otherConfig : Config :=
  { formatter := "json"
    package := some "demo"
    className := "Other"
    message := .full
    optimize := true }

theorem run_independent_explored :
    let one := (start {} .empty twiceMachine).run exploredMoves
    let other := (start otherConfig .builtin twiceMachine).run exploredMoves
    otherConfig.symbolicArrays = ({} : Config).symbolicArrays ∧
      (∀ move ∈ exploredMoves, move.Indifferent) ∧
      other.engine.collection = one.engine.collection ∧
      one.engine.collection.size = 1 ∧
      one.machine.ignoredBranches = 0 ∧ other.machine.ignoredBranches = 1 := by
  intro one other
  have indifferent : ∀ move ∈ exploredMoves, move.Indifferent := by
    simp only [exploredMoves, List.forall_mem_cons]
    exact ⟨Machine.Operation.indifferent _, trivial, trivial, trivial, nofun⟩
  obtain ⟨_, _, collections, _⟩ :=
    run_independent {} otherConfig .empty .builtin twiceMachine exploredMoves rfl
      indifferent
  exact ⟨rfl, indifferent, collections, by decide +kernel, by decide +kernel,
    by decide +kernel⟩

end Session

end TestSynth
