import TestSynth.Proofs.Engine.Accounting

/-!
# Tracking of calls

Which snapshot a call has is settled by the history of its session: it is that of
the first entry that takes one since the session began or the call was released.
The end of a call is resolved from this snapshot, however often it ends and
whatever becomes of other calls in between.
-/

namespace TestSynth

namespace SnapshotTable

variable {table : SnapshotTable} {activation other : Activation}
  {snapshot : Snapshot}

theorem contains_eq_false_iff :
    table.contains activation = false ↔ table.get? activation = none := by
  simp [contains]

theorem get?_attach_self (untracked : table.get? activation = none) :
    (table.attach activation snapshot).2.get? activation = some snapshot := by
  have absent := Option.map_eq_none_iff.mp untracked
  simp only [attach, contains_eq_false_iff.mpr untracked]
  simp [get?, List.find?_append, absent]

theorem get?_attach_of_some {found : Snapshot}
    (tracked : table.get? other = some found) :
    (table.attach activation snapshot).2.get? other = some found := by
  obtain ⟨entry, present, rfl⟩ := Option.map_eq_some_iff.mp tracked
  unfold attach
  split
  · exact tracked
  · simp [get?, List.find?_append, present]

theorem get?_attach_other (different : other ≠ activation) :
    (table.attach activation snapshot).2.get? other = table.get? other := by
  cases found : table.get? other with
  | some known => exact get?_attach_of_some found
  | none =>
      rw [Option.eq_none_iff_forall_not_mem]
      intro known member
      rcases get?_attach (Option.mem_def.mp member) with earlier | ⟨same, _⟩
      · rw [found] at earlier
        cases earlier
      · exact different same

end SnapshotTable

/-- The activation that a notification is about; an exception may be about any. -/
def Notification.activation? : Notification → Option Activation
  | .entered entry => some entry.activation
  | .exited event => some event.activation
  | .thrown _ => none
  | .released activation => some activation

namespace Engine

/-- The entry of a call takes a snapshot, provided that the call has none: its
method is to be tracked and supported, and its arguments can be captured. -/
def Takes (engine : Engine) (machine : Machine) (entry : CallEntry)
    (snapshot : Snapshot) : Prop :=
  ∃ kinds world,
    machine.classify entry.method = some kinds ∧
      entry.method.checkSignature = .ok () ∧
      (capture engine.config.symbolicArrays entry kinds).Ends
        { machine := machine, log := [] } (.ok snapshot) world

/-- What a resolution comes to is recorded, left out or the end. -/
inductive Books (engine : Engine) :
    Except Fault TestCase → Except Fault Unit → Engine → Prop
  | recorded {test : TestCase} :
      engine.Records test (engine.record test).1 →
      Books engine (.ok test) (.ok ()) (engine.record test).1
  | skipped {fault : Fault} :
      fault.isRecoverable = true →
      Books engine (.error fault) (.ok ())
        { engine with
          statistics :=
            { engine.statistics with skipped := engine.statistics.skipped + 1 } }
  | stopped {fault : Fault} :
      fault.isRecoverable = false →
      Books engine (.error fault) (.error fault) engine

variable {engine finalEngine : Engine} {machine finalMachine : Machine}
  {entry : CallEntry} {event : CallExit} {exception : ThrownException}
  {activation : Activation} {snapshot other : Snapshot}
  {result : Except Fault Unit}

/-- A snapshot keeps the method of its entry and the arguments reported there. -/
theorem Takes.captures (takes : engine.Takes machine entry snapshot) :
    ∃ kinds world,
      machine.classify entry.method = some kinds ∧
        (capture engine.config.symbolicArrays entry kinds).Ends
          { machine := machine, log := [] } (.ok snapshot) world ∧
        world.machine.Captures entry kinds snapshot := by
  obtain ⟨kinds, world, classified, _, ended⟩ := takes
  exact ⟨kinds, world, classified, ended, captures_of_capture ended⟩

theorem tracks_eq_false_iff :
    engine.tracks activation = false ↔
      engine.snapshots.get? activation = none :=
  SnapshotTable.contains_eq_false_iff

theorem tracks_of_get? (tracked : engine.snapshots.get? activation = some snapshot) :
    engine.tracks activation = true := by
  simp [tracks, SnapshotTable.contains, tracked]

/-- A call that has no snapshot gets the one that its entry takes, if any. -/
theorem Enters.get?_self_iff
    (enters : Enters entry engine machine result finalEngine finalMachine)
    (untracked : engine.snapshots.get? entry.activation = none) :
    finalEngine.snapshots.get? entry.activation = some snapshot ↔
      engine.Takes machine entry snapshot := by
  have nothing (impossible : ¬ engine.Takes machine entry snapshot) :
      engine.snapshots.get? entry.activation = some snapshot ↔
        engine.Takes machine entry snapshot := by
    simp [untracked, impossible]
  cases enters with
  | known tracked =>
      rw [tracks_eq_false_iff.mpr untracked] at tracked
      cases tracked
  | unclassified unclassified =>
      apply nothing
      rintro ⟨_, _, classified, _⟩
      rw [unclassified] at classified
      cases classified
  | refused _ _ refused =>
      apply nothing
      rintro ⟨_, _, _, admissible, _⟩
      rw [refused] at admissible
      cases admissible
  | skipped _ classified failed _ | stopped _ classified failed _ =>
      apply nothing
      rintro ⟨_, _, again, _, ended⟩
      rw [classified] at again
      cases again
      cases (failed.deterministic ended).1
  | @captured kinds taken world _ classified admissible ended =>
      simp only [SnapshotTable.get?_attach_self untracked, Option.some.injEq]
      constructor
      · rintro rfl
        exact ⟨kinds, world, classified, admissible, ended⟩
      · rintro ⟨_, _, again, _, other⟩
        rw [classified] at again
        cases again
        cases (ended.deterministic other).1
        rfl

/-- The entry of a call without a snapshot leaves the machine as it is captured on. -/
theorem Takes.captures_enter (takes : engine.Takes machine entry snapshot)
    (untracked : engine.snapshots.get? entry.activation = none) :
    ∃ kinds,
      machine.classify entry.method = some kinds ∧ entry.method.checkSignature = .ok () ∧
        (engine.enter machine entry).machine.Captures entry kinds snapshot := by
  have enters := enters_enter engine machine entry
  rcases enters.get? ((enters.get?_self_iff untracked).mpr takes) with
    known | ⟨kinds, _, classified, admissible, captures⟩
  · rw [untracked] at known
    cases known
  · exact ⟨kinds, classified, admissible, captures⟩

theorem Enters.get?_of_tracked
    (enters : Enters entry engine machine result finalEngine finalMachine)
    (tracked : engine.snapshots.get? activation = some snapshot) :
    finalEngine.snapshots.get? activation = some snapshot := by
  cases enters with
  | captured _ _ _ _ => exact SnapshotTable.get?_attach_of_some tracked
  | _ => exact tracked

theorem Enters.get?_other
    (enters : Enters entry engine machine result finalEngine finalMachine)
    (different : activation ≠ entry.activation) :
    finalEngine.snapshots.get? activation = engine.snapshots.get? activation := by
  cases enters with
  | captured _ _ _ _ => exact SnapshotTable.get?_attach_other different
  | _ => rfl

theorem Enters.of_tracked
    (enters : Enters entry engine machine result finalEngine finalMachine)
    (tracked : engine.tracks entry.activation = true) :
    result = .ok () ∧ finalEngine = engine ∧ finalMachine = machine := by
  cases enters with
  | known _ | unclassified _ => exact ⟨rfl, rfl, rfl⟩
  | refused untracked _ _ | skipped untracked _ _ _ | stopped untracked _ _ _
  | captured untracked _ _ _ =>
      rw [tracked] at untracked
      cases untracked

/-- The end of a tracked call on a path that can be taken is resolved from its
snapshot: a test case that comes of it has the method and the arguments of the snapshot
and the result that is returned. -/
theorem Exits.books
    (exits : Exits event engine machine result finalEngine finalMachine)
    (tracked : engine.snapshots.get? event.activation = some snapshot)
    (solvable : machine.pathCondition = some true) :
    ∃ given world,
      (resolveExit engine.config.symbolicArrays snapshot event.returned).Ends
          { machine := machine, log := [] } given world ∧
        engine.Books given result finalEngine ∧
        ∀ test, given = .ok test →
          ∃ outcome,
            world.machine.ReadsReturn snapshot.method.returnType event.returned outcome ∧
              world.machine.Realizes snapshot outcome test := by
  cases exits with
  | untracked untracked =>
      rw [tracked] at untracked
      cases untracked
  | abandoned _ unsolvable => exact absurd solvable unsolvable
  | recorded known _ ended =>
      cases tracked.symm.trans known
      refine ⟨_, _, ended, .recorded (records_record _ _), ?_⟩
      rintro _ ⟨⟩
      exact realizes_of_resolveExit ended
  | skipped known _ ended recoverable =>
      cases tracked.symm.trans known
      exact ⟨_, _, ended, .skipped recoverable, nofun⟩
  | stopped known _ ended final =>
      cases tracked.symm.trans known
      exact ⟨_, _, ended, .stopped final, nofun⟩

theorem Throws.attributes
    (throws : Throws exception engine machine result finalEngine finalMachine)
    (solvable : machine.pathCondition = some true) :
    Attributes exception engine machine
      (engine.snapshotsOf (machine.leftBy exception machine.stack))
      result finalEngine finalMachine := by
  cases throws with
  | untracked untracked =>
      rw [untracked]
      exact .done
  | abandoned _ unsolvable => exact absurd solvable unsolvable
  | attributed _ attributes => exact attributes

theorem get?_snapshotsOf (engine : Engine) (frames : List Frame) :
    List.Forall₂
      (fun frame snapshot =>
        engine.snapshots.get? frame.activation = some snapshot)
      (frames.filter fun frame => engine.tracks frame.activation)
      (engine.snapshotsOf frames) := by
  induction frames with
  | nil => exact .nil
  | cons frame rest ih =>
      cases tracked : engine.snapshots.get? frame.activation with
      | none =>
          rw [snapshotsOf_cons_of_untracked tracked,
            List.filter_cons_of_neg (by simp [tracks_eq_false_iff.mpr tracked])]
          exact ih
      | some snapshot =>
          rw [snapshotsOf_cons_of_tracked tracked,
            List.filter_cons_of_pos (by simp [tracks_of_get? tracked])]
          exact .cons tracked ih

/-- A notification about another activation leaves a snapshot where it is. -/
theorem get?_handle_other (engine : Engine) (machine : Machine)
    {notification : Notification}
    (different : notification.activation? ≠ some activation) :
    (engine.handle machine notification).engine.snapshots.get? activation =
      engine.snapshots.get? activation := by
  cases notification with
  | entered entry =>
      apply (enters_enter engine machine entry).get?_other
      rintro rfl
      exact different rfl
  | exited event => exact congrArg (·.get? activation) (exits_exit _ _ event).snapshots
  | thrown exception =>
      exact congrArg (·.get? activation) (throws_throwException _ _ exception).snapshots
  | released released =>
      apply SnapshotTable.get?_release_other
      rintro rfl
      exact different rfl

end Engine

namespace Session

variable {session : Session} {move : Move} {moves : List Move}
  {activation : Activation} {snapshot : Snapshot}

/-- No entry of an activation takes a snapshot in the moves. -/
def TakesNone (activation : Activation) : Session → List Move → Prop
  | _, [] => True
  | session, move :: rest =>
      (∀ entry snapshot,
        move = .notify (.entered entry) → entry.activation = activation →
          ¬ session.engine.Takes session.machine entry snapshot) ∧
        TakesNone activation (session.step move) rest

/-- No release of an activation removes a snapshot in the moves. -/
def Retains (activation : Activation) : Session → List Move → Prop
  | _, [] => True
  | session, move :: rest =>
      (move = .notify (.released activation) → session.removes move = false) ∧
        Retains activation (session.step move) rest

/-- The moves are none, and the activation has no snapshot yet, or the last of them
has released it. -/
inductive Clears (session : Session) (activation : Activation) :
    List Move → Prop
  | initial :
      session.engine.snapshots.get? activation = none →
      Clears session activation []
  | released {before : List Move} :
      (session.run before).removes (.notify (.released activation)) = true →
      Clears session activation (before ++ [.notify (.released activation)])

/-- A snapshot was taken by an entry of an activation: the first entry that took
one since the activation was clear, and the activation has not been released
since. -/
inductive FirstTaken (session : Session) (activation : Activation)
    (snapshot : Snapshot) : List Move → Prop
  | intro (past before : List Move) {after : List Move} {entry : CallEntry} :
      session.Clears activation past →
      Retains activation (session.run past)
        (before ++ .notify (.entered entry) :: after) →
      TakesNone activation (session.run past) before →
      entry.activation = activation →
      ((session.run past).run before).engine.Takes
        ((session.run past).run before).machine entry snapshot →
      FirstTaken session activation snapshot
        (past ++ (before ++ .notify (.entered entry) :: after))

theorem removes_of_tracked
    (tracked : session.engine.snapshots.get? activation = some snapshot) :
    session.removes (.notify (.released activation)) = true := by
  simp [removes, Engine.release, SnapshotTable.release, tracked]

theorem removes_of_untracked
    (untracked : session.engine.snapshots.get? activation = none) :
    session.removes (.notify (.released activation)) = false := by
  simp [removes, Engine.release, SnapshotTable.release, untracked]

/-- A snapshot stays unless its activation is released. -/
theorem get?_step_of_tracked
    (tracked : session.engine.snapshots.get? activation = some snapshot)
    (kept : move ≠ .notify (.released activation)) :
    (session.step move).engine.snapshots.get? activation = some snapshot := by
  cases move with
  | alter change => exact tracked
  | notify notification =>
      cases notification with
      | entered entry => exact (Engine.enters_enter _ _ entry).get?_of_tracked tracked
      | exited event =>
          exact (congrArg (·.get? activation)
            (Engine.exits_exit _ _ event).snapshots).trans tracked
      | thrown exception =>
          exact (congrArg (·.get? activation)
            (Engine.throws_throwException _ _ exception).snapshots).trans tracked
      | released released =>
          have different : activation ≠ released := by
            rintro rfl
            exact kept rfl
          exact (SnapshotTable.get?_release_other different).trans tracked

/-- A snapshot that was not there was taken by an entry of its activation. -/
theorem get?_step_iff_of_untracked
    (untracked : session.engine.snapshots.get? activation = none) :
    (session.step move).engine.snapshots.get? activation = some snapshot ↔
      ∃ entry, move = .notify (.entered entry) ∧ entry.activation = activation ∧
        session.engine.Takes session.machine entry snapshot := by
  cases move with
  | alter change => simp [step, untracked]
  | notify notification =>
      by_cases about : notification.activation? = some activation
      · cases notification with
        | entered entry =>
            obtain rfl := Option.some.inj about
            have enters := Engine.enters_enter session.engine session.machine entry
            refine (enters.get?_self_iff untracked).trans ⟨?_, ?_⟩
            · intro takes
              exact ⟨entry, rfl, rfl, takes⟩
            · rintro ⟨_, same, _, takes⟩
              cases same
              exact takes
        | exited event =>
            have kept := (Engine.exits_exit session.engine session.machine event).snapshots
            simp [step, Engine.handle, kept, untracked]
        | thrown exception => cases about
        | released released =>
            obtain rfl := Option.some.inj about
            simp [step, Engine.handle, Engine.release, SnapshotTable.get?_release_self]
      · have kept := Engine.get?_handle_other session.engine session.machine about
        rw [untracked] at kept
        simp only [step, kept, reduceCtorEq, false_iff, not_exists]
        rintro entry ⟨same, concerned, _⟩
        cases same
        exact about (congrArg some concerned)

theorem get?_run_of_retains
    (tracked : session.engine.snapshots.get? activation = some snapshot)
    (retains : Retains activation session moves) :
    (session.run moves).engine.snapshots.get? activation = some snapshot := by
  induction moves generalizing session with
  | nil => exact tracked
  | cons move rest ih =>
      apply ih (get?_step_of_tracked tracked ?_) retains.2
      rintro rfl
      have removed := removes_of_tracked tracked
      rw [retains.1 rfl] at removed
      cases removed

theorem get?_run_of_takesNone
    (untracked : session.engine.snapshots.get? activation = none)
    (takesNone : TakesNone activation session moves) :
    (session.run moves).engine.snapshots.get? activation = none := by
  induction moves generalizing session with
  | nil => exact untracked
  | cons move rest ih =>
      apply ih ?_ takesNone.2
      rw [Option.eq_none_iff_forall_ne_some]
      intro snapshot taken
      obtain ⟨entry, same, about, takes⟩ :=
        (get?_step_iff_of_untracked untracked).mp taken
      exact takesNone.1 entry snapshot same about takes

theorem Clears.untracked (clears : session.Clears activation moves) :
    (session.run moves).engine.snapshots.get? activation = none := by
  cases clears with
  | initial untracked => exact untracked
  | released _ =>
      rw [run_append]
      exact SnapshotTable.get?_release_self

theorem retains_of_append {first second : List Move}
    (retains : Retains activation session (first ++ second)) :
    Retains activation (session.run first) second := by
  induction first generalizing session with
  | nil => exact retains
  | cons move rest ih => exact ih retains.2

theorem FirstTaken.get?_run
    (taken : session.FirstTaken activation snapshot moves) :
    (session.run moves).engine.snapshots.get? activation = some snapshot := by
  cases taken with
  | @intro past before after entry clears retains takesNone about takes =>
      have untracked := get?_run_of_takesNone clears.untracked takesNone
      have first := (get?_step_iff_of_untracked untracked).mpr
        ⟨entry, rfl, about, takes⟩
      have kept := get?_run_of_retains first (retains_of_append retains).2
      rw [run_append, run_append]
      exact kept

/-- The entry that a snapshot of a call was captured by, among the moves of a session.  The
call had no snapshot when it was entered and has not been released since, so that no other
entry of it matters. -/
structure Origin (session : Session) (before : List Move) (entry : CallEntry)
    (kinds : List ArgumentKind) (after : List Move) (snapshot : Snapshot) : Prop where
  untracked : (session.run before).engine.tracks entry.activation = false
  classified : (session.run before).machine.classify entry.method = some kinds
  admissible : entry.method.checkSignature = .ok ()
  captures :
    ((session.run before).step (.notify (.entered entry))).machine.Captures entry kinds
      snapshot
  retained :
    Retains entry.activation ((session.run before).step (.notify (.entered entry))) after

theorem FirstTaken.exists_origin (taken : session.FirstTaken activation snapshot moves) :
    ∃ before entry kinds after,
      moves = before ++ .notify (.entered entry) :: after ∧ entry.activation = activation ∧
        session.Origin before entry kinds after snapshot := by
  cases taken with
  | @intro past before after entry clears retains takesNone about takes =>
      subst about
      have untracked := get?_run_of_takesNone clears.untracked takesNone
      obtain ⟨kinds, classified, admissible, captures⟩ := takes.captures_enter untracked
      have retained := (retains_of_append retains).2
      rw [← run_append] at untracked classified captures retained
      refine ⟨past ++ before, entry, kinds, after, (List.append_assoc _ _ _).symm, rfl, ?_⟩
      exact {
        untracked := Engine.tracks_eq_false_iff.mpr untracked
        classified := classified
        admissible := admissible
        captures := captures
        retained := retained }

/-- What is first taken after a move is first taken with it. -/
theorem FirstTaken.cons
    (taken : (session.step move).FirstTaken activation snapshot moves) :
    session.FirstTaken activation snapshot (move :: moves) := by
  cases taken with
  | @intro past before after entry clears retains takesNone about takes =>
      cases clears with
      | @released earlier removed =>
          exact .intro (move :: earlier ++ [_]) before (.released removed) retains
            takesNone about takes
      | initial untracked =>
          cases initially : session.engine.snapshots.get? activation with
          | none =>
              -- The move is one more that takes nothing.
              refine .intro [] (move :: before) (.initial initially) ⟨?_, retains⟩
                ⟨?_, takesNone⟩ about takes
              · rintro rfl
                exact removes_of_untracked initially
              · intro other wrong same concerned impossible
                have stepped := (get?_step_iff_of_untracked initially).mpr
                  ⟨other, same, concerned, impossible⟩
                rw [untracked] at stepped
                cases stepped
          | some known =>
              -- The move is the release after which the activation is clear.
              by_cases released : move = .notify (.released activation)
              · subst released
                have removed := removes_of_tracked initially
                exact .intro ([] ++ [_]) before (.released removed) retains
                  takesNone about takes
              · rw [get?_step_of_tracked initially released] at untracked
                cases untracked

/-- A snapshot was there from the beginning and has been kept, or it is the first
one taken. -/
theorem kept_or_firstTaken
    (tracked : (session.run moves).engine.snapshots.get? activation =
      some snapshot) :
    session.engine.snapshots.get? activation = some snapshot ∧
        Retains activation session moves ∨
      session.FirstTaken activation snapshot moves := by
  induction moves generalizing session with
  | nil => exact .inl ⟨tracked, trivial⟩
  | cons move rest ih =>
      rcases ih tracked with ⟨stepped, retains⟩ | taken
      · cases initially : session.engine.snapshots.get? activation with
        | none =>
            obtain ⟨entry, rfl, about, takes⟩ :=
              (get?_step_iff_of_untracked initially).mp stepped
            exact .inr (.intro [] [] (.initial initially) ⟨nofun, retains⟩ trivial
              about takes)
        | some known =>
            have kept : move ≠ .notify (.released activation) := by
              rintro rfl
              have removed := SnapshotTable.get?_release_self.symm.trans stepped
              cases removed
            rw [get?_step_of_tracked initially kept] at stepped
            exact .inl ⟨stepped, fun released => absurd released kept, retains⟩
      · exact .inr taken.cons

theorem get?_run_iff
    (untracked : session.engine.snapshots.get? activation = none) :
    (session.run moves).engine.snapshots.get? activation = some snapshot ↔
      session.FirstTaken activation snapshot moves := by
  constructor
  · intro tracked
    rcases kept_or_firstTaken tracked with ⟨known, _⟩ | taken
    · rw [untracked] at known
      cases known
    · exact taken
  · exact FirstTaken.get?_run

/-- Whenever the end of a call is resolved in a session, this is done from the
snapshot that was first taken of it since it was last released: what is recorded is a test
case of the method and the arguments that were captured there.  Until it is released
nothing but its end concerns it, and a call that cannot be captured is not tracked. -/
theorem run_firstTaken (config : Config) (registry : Registry)
    (machine : Machine) (moves : List Move) :
    let initial := start config registry machine
    let session := initial.run moves
    let engine := session.engine
    (∀ activation snapshot,
      engine.snapshots.get? activation = some snapshot ↔
        initial.FirstTaken activation snapshot moves) ∧
    (∀ (current : Engine) (running : Machine) entry snapshot,
      current.Takes running entry snapshot →
        ∃ kinds world,
          running.classify entry.method = some kinds ∧
            (Engine.capture current.config.symbolicArrays entry kinds).Ends
              { machine := running, log := [] } (.ok snapshot) world ∧
            world.machine.Captures entry kinds snapshot) ∧
    (∀ event,
      let response := engine.exit session.machine event
      response.engine.snapshots = engine.snapshots ∧
      ((∀ snapshot, ¬ initial.FirstTaken event.activation snapshot moves) →
        response.result = .ok () ∧ response.engine = engine ∧
          response.machine = session.machine) ∧
      ∀ snapshot, initial.FirstTaken event.activation snapshot moves →
        session.machine.pathCondition = some true →
          ∃ given world,
            (Engine.resolveExit engine.config.symbolicArrays snapshot
              event.returned).Ends { machine := session.machine, log := [] }
                given world ∧
              engine.Books given response.result response.engine ∧
              ∀ test, given = .ok test →
                ∃ outcome,
                  world.machine.ReadsReturn snapshot.method.returnType event.returned
                      outcome ∧
                    world.machine.Realizes snapshot outcome test) ∧
    (∀ exception,
      let response := engine.throwException session.machine exception
      let left := session.machine.leftBy exception session.machine.stack
      response.engine.snapshots = engine.snapshots ∧
      ∃ snapshots,
        List.Forall₂
          (fun frame snapshot =>
            initial.FirstTaken frame.activation snapshot moves)
          (left.filter fun frame => engine.tracks frame.activation) snapshots ∧
          (session.machine.pathCondition = some true →
            Engine.Attributes exception engine session.machine snapshots
              response.result response.engine response.machine)) ∧
    (∀ entry,
      let response := engine.enter session.machine entry
      (engine.tracks entry.activation = true →
        response.result = .ok () ∧ response.engine = engine ∧
          response.machine = session.machine) ∧
      (engine.tracks entry.activation = false →
        (∀ snapshot, ¬ engine.Takes session.machine entry snapshot) →
          response.engine.tracks entry.activation = false)) ∧
    (∀ notification activation, notification.activation? ≠ some activation →
      (engine.handle session.machine notification).engine.snapshots.get?
          activation =
        engine.snapshots.get? activation) ∧
    ∀ activation snapshot later,
      engine.snapshots.get? activation = some snapshot →
        Retains activation session later →
          (session.run later).engine.snapshots.get? activation =
            some snapshot := by
  intro initial session engine
  have tracked_iff (activation : Activation) (snapshot : Snapshot) :
      engine.snapshots.get? activation = some snapshot ↔
        initial.FirstTaken activation snapshot moves := get?_run_iff rfl
  refine ⟨tracked_iff, fun _ _ _ _ takes => takes.captures, ?_, ?_, ?_, ?_, ?_⟩
  · intro event response
    have exits := Engine.exits_exit engine session.machine event
    refine ⟨exits.snapshots, ?_, ?_⟩
    · intro never
      have untracked : engine.snapshots.get? event.activation = none := by
        rw [Option.eq_none_iff_forall_ne_some]
        exact fun snapshot tracked => never snapshot ((tracked_iff _ _).mp tracked)
      exact Engine.exit_of_exits (.untracked untracked)
    · intro snapshot taken solvable
      exact exits.books ((tracked_iff _ _).mpr taken) solvable
  · intro exception response left
    have throws := Engine.throws_throwException engine session.machine exception
    refine ⟨throws.snapshots, engine.snapshotsOf left, ?_, throws.attributes⟩
    exact (engine.get?_snapshotsOf left).imp fun _ _ => (tracked_iff _ _).mp
  · intro entry response
    have enters := Engine.enters_enter engine session.machine entry
    refine ⟨enters.of_tracked, ?_⟩
    intro untracked never
    rw [Engine.tracks_eq_false_iff] at untracked ⊢
    rw [Option.eq_none_iff_forall_ne_some]
    exact fun snapshot taken => never snapshot ((enters.get?_self_iff untracked).mp taken)
  · intro notification activation different
    exact Engine.get?_handle_other engine session.machine different
  · intro activation snapshot later tracked retains
    exact get?_run_of_retains tracked retains

end Session

end TestSynth
