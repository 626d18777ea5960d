import TestSynth.Proofs.Engine.Integrity
import TestSynth.Proofs.Engine.Reordering
import TestSynth.Proofs.Engine.Safety
import TestSynth.Proofs.Engine.Tracking

/-!
# Branches given up

A branch is given up by the return of a call only, after the test case of the call
was recorded.  It is kept as long as an alternative is pending in it or another
call on the stack has a snapshot, whatever has become of this call before.
-/

namespace TestSynth

namespace Engine

/-- The result of a call and then all arguments of its snapshot can be resolved. -/
def Resolves (engine : Engine) (machine : Machine) (snapshot : Snapshot)
    (returned : Option Captured) : Prop :=
  ∃ outcome middle given world,
    (Resolution.resolveReturn engine.config.symbolicArrays snapshot.method
        returned).Ends { machine := machine, log := [] } (.ok outcome) middle ∧
      (Resolution.resolveSnapshot engine.config.symbolicArrays snapshot).Ends middle
        (.ok given) world

variable {engine finalEngine : Engine} {machine finalMachine : Machine}
  {event : CallExit} {activation : Activation} {snapshot : Snapshot}
  {result : Except Fault Unit}

theorem prunes_iff :
    engine.prunes machine activation = true ↔
      engine.config.optimize = true ∧ machine.hasPendingAlternatives = false ∧
        ∀ frame ∈ machine.stack, frame.activation ≠ activation →
          engine.snapshots.get? frame.activation = none := by
  simp [prunes, hasTrackedCaller, tracks_eq_false_iff, and_assoc]

theorem prunes_record (test : TestCase) :
    (engine.record test).1.prunes machine activation =
      engine.prunes machine activation := by
  simp only [prunes, hasTrackedCaller, tracks, config_record, snapshots_record]

theorem ignoredBranches_prune (method : Method) :
    (engine.prune machine method activation).1.ignoredBranches =
      machine.ignoredBranches + (engine.prunes machine activation).toNat := by
  change (if engine.prunes machine activation then _ else _ :
    Machine × List LogEvent).1.ignoredBranches = _
  cases engine.prunes machine activation <;> rfl

/-- A sound snapshot becomes a test case exactly if everything is resolved. -/
theorem exists_ends_resolveExit_iff (sound : snapshot.Sound) :
    (∃ test world,
      (resolveExit engine.config.symbolicArrays snapshot event.returned).Ends
        { machine := machine, log := [] } (.ok test) world) ↔
      engine.Resolves machine snapshot event.returned := by
  constructor
  · rintro ⟨test, world, ended⟩
    obtain ⟨outcome, middle, outcomeEnds, testEnds⟩ :=
      Resolution.ends_bind_ok_iff.mp ended
    obtain ⟨given, after, givenEnds, _⟩ := Resolution.ends_bind_ok_iff.mp testEnds
    exact ⟨outcome, middle, given, after, outcomeEnds, givenEnds⟩
  · rintro ⟨outcome, middle, given, world, outcomeEnds, givenEnds⟩
    have fits := (Resolution.reads_of_resolveReturn outcomeEnds).fits
    obtain ⟨test, built⟩ := exists_build_of_resolveSnapshot sound fits givenEnds
    refine ⟨test, world, Resolution.ends_bind_ok_iff.mpr
      ⟨outcome, middle, outcomeEnds, ?_⟩⟩
    refine Resolution.ends_bind_ok_iff.mpr ⟨given, world, givenEnds, ?_⟩
    exact Resolution.ends_ofExcept_iff.mpr ⟨built.symm, rfl⟩

theorem exists_yields_iff
    (sound : ∀ activation snapshot,
      engine.snapshots.get? activation = some snapshot → snapshot.Sound) :
    (∃ test, engine.Yields machine event test) ↔
      machine.pathCondition = some true ∧
        ∃ snapshot, engine.snapshots.get? event.activation = some snapshot ∧
          engine.Resolves machine snapshot event.returned := by
  constructor
  · rintro ⟨test, snapshot, world, tracked, solvable, ended⟩
    have origin := sound event.activation snapshot tracked
    exact ⟨solvable, snapshot, tracked,
      (exists_ends_resolveExit_iff origin).mp ⟨test, world, ended⟩⟩
  · rintro ⟨solvable, snapshot, tracked, resolves⟩
    have origin := sound event.activation snapshot tracked
    obtain ⟨test, world, ended⟩ := (exists_ends_resolveExit_iff origin).mpr resolves
    exact ⟨test, snapshot, world, tracked, solvable, ended⟩

theorem Exits.ignoredBranches_of_yields
    (exits : Exits event engine machine result finalEngine finalMachine)
    {test : TestCase} (yields : engine.Yields machine event test) :
    finalMachine.ignoredBranches =
      machine.ignoredBranches + (engine.prunes machine event.activation).toNat := by
  obtain ⟨snapshot, world, tracked, solvable, ended⟩ := yields
  obtain ⟨_, _, same⟩ := exit_of_exits exits
  obtain ⟨_, _, recorded⟩ := exit_of_exits (.recorded tracked solvable ended)
  rw [← same, recorded]
  -- Resolution leaves all but the solutions alone, so that the machine before it
  -- decides.
  rw [ignoredBranches_prune, prunes_record, (completes_resolveExit ended).frame]
  rfl

theorem Exits.ignoredBranches_of_fruitless
    (exits : Exits event engine machine result finalEngine finalMachine)
    (fruitless : ∀ test, ¬ engine.Yields machine event test) :
    finalMachine.ignoredBranches = machine.ignoredBranches := by
  cases exits with
  | untracked _ | abandoned _ _ => rfl
  | recorded tracked solvable ended =>
      exact absurd ⟨_, _, tracked, solvable, ended⟩ (fruitless _)
  | skipped _ _ ended _ | stopped _ _ ended _ =>
      rw [(completes_resolveExit ended).frame]

/-- Only the return of a call gives up a branch. -/
theorem ignoredBranches_handle (engine : Engine) (machine : Machine)
    {notification : Notification} (other : ∀ event, notification ≠ .exited event) :
    (engine.handle machine notification).machine.ignoredBranches =
      machine.ignoredBranches := by
  obtain ⟨settled, completes, same | ⟨_, event, exited⟩⟩ :=
    completes_handle engine machine notification
  · rw [same, completes.frame]
  · exact absurd exited (other event)

end Engine

/-- The machine does not give up branches of its own accord. -/
def Move.KeepsBranches : Move → Prop
  | .notify _ => True
  | .alter change =>
      ∀ machine, (change machine).ignoredBranches = machine.ignoredBranches

namespace Session

/-- The return of a call after the moves of a session is a reason to give up the
branch: this is asked for, a test case is made of the call, and neither another
alternative nor another call on the stack needs the branch. -/
structure GivesUp (initial : Session) (moves : List Move) (event : CallExit) :
    Prop where
  asked : initial.engine.config.optimize = true
  solvable : (initial.run moves).machine.pathCondition = some true
  resolved : ∃ snapshot,
    initial.FirstTaken event.activation snapshot moves ∧
      initial.engine.Resolves (initial.run moves).machine snapshot event.returned
  explored : (initial.run moves).machine.hasPendingAlternatives = false
  alone : ∀ frame ∈ (initial.run moves).machine.stack,
    frame.activation ≠ event.activation →
      ∀ snapshot, ¬ initial.FirstTaken frame.activation snapshot moves

/-- So many returns among the moves of a session give up the branch. -/
inductive GivesUpTimes (initial : Session) : List Move → Nat → Prop
  | initial : GivesUpTimes initial [] 0
  | given {moves : List Move} {times : Nat} {event : CallExit} :
      GivesUpTimes initial moves times →
      initial.GivesUp moves event →
      GivesUpTimes initial (moves ++ [.notify (.exited event)]) (times + 1)
  | kept {moves : List Move} {times : Nat} {move : Move} :
      GivesUpTimes initial moves times →
      (∀ event, move = .notify (.exited event) → ¬ initial.GivesUp moves event) →
      GivesUpTimes initial (moves ++ [move]) times

variable {config : Config} {registry : Registry} {machine : Machine}
  {moves : List Move} {event : CallExit}

theorem givesUp_iff :
    let initial := start config registry machine
    let session := initial.run moves
    initial.GivesUp moves event ↔
      (∃ test, session.engine.Yields session.machine event test) ∧
        session.engine.prunes session.machine event.activation = true := by
  intro initial session
  have sound : session.Sound := sound_run config registry machine moves
  have settings : session.engine.config = initial.engine.config :=
    (settings_run initial moves).1
  have tracked_iff (activation : Activation) (snapshot : Snapshot) :
      session.engine.snapshots.get? activation = some snapshot ↔
        initial.FirstTaken activation snapshot moves := get?_run_iff rfl
  rw [Engine.exists_yields_iff sound.snapshots, Engine.prunes_iff]
  simp only [tracked_iff, Option.eq_none_iff_forall_ne_some, ne_eq,
    Engine.Resolves, settings]
  constructor
  · rintro ⟨asked, solvable, resolved, explored, alone⟩
    exact ⟨⟨solvable, resolved⟩, asked, explored, alone⟩
  · rintro ⟨⟨solvable, resolved⟩, asked, explored, alone⟩
    exact ⟨asked, solvable, resolved, explored, alone⟩

/-- The return of a call gives up one branch if it has reason to, and else none. -/
theorem ignoredBranches_exit :
    let initial := start config registry machine
    let session := initial.run moves
    let response := session.engine.exit session.machine event
    (initial.GivesUp moves event →
      response.machine.ignoredBranches = session.machine.ignoredBranches + 1) ∧
    (¬ initial.GivesUp moves event →
      response.machine.ignoredBranches = session.machine.ignoredBranches) := by
  intro initial session response
  have exits := Engine.exits_exit session.engine session.machine event
  have reason : initial.GivesUp moves event ↔ _ := givesUp_iff
  rw [reason]
  constructor
  · rintro ⟨⟨test, yields⟩, pruned⟩
    rw [exits.ignoredBranches_of_yields yields, pruned]
    rfl
  · intro unwarranted
    by_cases fruitful : ∃ test, session.engine.Yields session.machine event test
    · obtain ⟨test, yields⟩ := fruitful
      have kept : session.engine.prunes session.machine event.activation = false := by
        rw [← Bool.not_eq_true]
        exact fun pruned => unwarranted ⟨⟨test, yields⟩, pruned⟩
      rw [exits.ignoredBranches_of_yields yields, kept]
      rfl
    · exact exits.ignoredBranches_of_fruitless (not_exists.mp fruitful)

theorem ignoredBranches_step {move : Move} (keeps : move.KeepsBranches) :
    let initial := start config registry machine
    let session := initial.run moves
    (∀ event, move = .notify (.exited event) → ¬ initial.GivesUp moves event) →
      (session.step move).machine.ignoredBranches =
        session.machine.ignoredBranches := by
  intro initial session kept
  cases move with
  | alter change => exact keeps session.machine
  | notify notification =>
      cases notification with
      | exited event => exact ignoredBranches_exit.2 (kept event rfl)
      | entered _ | thrown _ | released _ =>
          exact Engine.ignoredBranches_handle session.engine session.machine nofun

/-- The branches given up in a session are as many as the returns that have reason
to. -/
theorem exists_givesUpTimes :
    let initial := start config registry machine
    ∃ times, initial.GivesUpTimes moves times ∧
      ((∀ move ∈ moves, move.KeepsBranches) →
        (initial.run moves).machine.ignoredBranches =
          machine.ignoredBranches + times) := by
  intro initial
  induction moves using List.reverseRecOn with
  | nil => exact ⟨0, .initial, fun _ => rfl⟩
  | append_singleton moves move ih =>
      obtain ⟨times, gives, counted⟩ := ih
      by_cases reason : ∃ event, move = .notify (.exited event) ∧
          initial.GivesUp moves event
      · obtain ⟨event, rfl, warranted⟩ := reason
        refine ⟨times + 1, .given gives warranted, fun keeps => ?_⟩
        have earlier := counted fun move member =>
          keeps move (List.mem_append_left _ member)
        rw [run_append, ← Nat.add_assoc, ← earlier]
        exact ignoredBranches_exit.1 warranted
      · have kept : ∀ event, move = .notify (.exited event) →
            ¬ initial.GivesUp moves event :=
          fun event exited warranted => reason ⟨event, exited, warranted⟩
        refine ⟨times, .kept gives kept, fun keeps => ?_⟩
        obtain ⟨before, last⟩ := List.forall_mem_append.mp keeps
        rw [run_append, ← counted before]
        exact ignoredBranches_step (last move List.mem_cons_self) kept

/-- However a session goes, a branch is given up only when a call returns, once,
and exactly if a test case of this call was recorded, no alternative is pending
and no other call on the stack has a snapshot. -/
theorem run_givesUp (config : Config) (registry : Registry) (machine : Machine)
    (moves : List Move) :
    let initial := start config registry machine
    let session := initial.run moves
    (∀ event,
      let response := session.engine.exit session.machine event
      (initial.GivesUp moves event →
        response.machine.ignoredBranches = session.machine.ignoredBranches + 1 ∧
          response.result = .ok () ∧
          ∃ test, session.engine.Yields session.machine event test ∧
            response.engine = (session.engine.record test).1 ∧
            session.engine.Records test response.engine) ∧
      (¬ initial.GivesUp moves event →
        response.machine.ignoredBranches = session.machine.ignoredBranches)) ∧
    (∀ notification, (∀ event, notification ≠ .exited event) →
      (session.engine.handle session.machine notification).machine.ignoredBranches =
        session.machine.ignoredBranches) ∧
    (∀ event, ∀ frame ∈ session.machine.stack,
      frame.activation ≠ event.activation →
        session.engine.tracks frame.activation = true →
          (session.engine.exit session.machine event).machine.ignoredBranches =
            session.machine.ignoredBranches) ∧
    ∃ times, initial.GivesUpTimes moves times ∧
      ((∀ move ∈ moves, move.KeepsBranches) →
        session.machine.ignoredBranches = machine.ignoredBranches + times) := by
  intro initial session
  refine ⟨?_, ?_, ?_, exists_givesUpTimes⟩
  · intro event response
    obtain ⟨gives, keeps⟩ : _ ∧ _ := ignoredBranches_exit
    refine ⟨fun warranted => ⟨gives warranted, ?_⟩, keeps⟩
    obtain ⟨⟨test, yields⟩, _⟩ := givesUp_iff.mp warranted
    obtain ⟨ok, recorded⟩ := Engine.record_of_yields yields
    exact ⟨ok, test, yields, recorded, recorded ▸ Engine.records_record session.engine test⟩
  · intro notification other
    exact Engine.ignoredBranches_handle session.engine session.machine other
  · intro event frame member different tracked
    apply ignoredBranches_exit.2
    intro warranted
    have pruned := (Engine.prunes_iff.mp (givesUp_iff.mp warranted).2).2.2
    have untracked := pruned frame member different
    rw [Engine.tracks_eq_false_iff.mpr untracked] at tracked
    cases tracked

end Session

end TestSynth
