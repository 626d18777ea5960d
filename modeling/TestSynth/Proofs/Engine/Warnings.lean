import TestSynth.Proofs.Engine.Session

/-!
# Warnings about signatures

A method whose signature is not supported is a warning once in a session, however its
calls are interleaved with others.  Every further call of it is counted and traced, and
nothing else happens to it.
-/

namespace TestSynth

namespace LogEvent

/-- A warning that a method is left out.  A test case that is left out is worded in another
way. -/
def isRejection (event : LogEvent) : Bool :=
  event.level == .warn && ", skipping".toList.isSuffixOf event.message.toList

theorem isRejection_skipping (reason : String) :
    isRejection { level := .warn, message := reason ++ ", skipping" } = true := by
  simp [isRejection, String.toList_append]

theorem isRejection_testSkipped (reason : String) :
    isRejection { level := .warn, message := reason ++ ", test case skipped" } = false := by
  simp [isRejection, String.toList_append, List.isSuffixOf, List.isPrefixOf]

theorem isRejection_of_trace {event : LogEvent} (traced : event.level = .trace) :
    event.isRejection = false := by
  simp [isRejection, traced]

end LogEvent

namespace Engine

/-- The entry of a method whose signature is not supported, which would be captured
otherwise. -/
structure Refuses (engine : Engine) (machine : Machine) (entry : CallEntry) (fault : Fault) :
    Prop where
  untracked : engine.tracks entry.activation = false
  classified : machine.classify entry.method ≠ none
  unsupported : entry.method.checkSignature = .error fault

variable {engine finalEngine : Engine} {machine finalMachine : Machine} {entry : CallEntry}
  {fault : Fault} {method : Method} {result : Except Fault Unit}

theorem enter_of_refuses (refuses : engine.Refuses machine entry fault) :
    engine.enter machine entry =
      { result := .ok ()
        engine := (engine.skipMethod entry.method fault).2.1
        machine := machine
        log := (engine.skipMethod entry.method fault).2.2 } := by
  obtain ⟨kinds, classified⟩ := Option.ne_none_iff_exists'.mp refuses.classified
  have recoverable := Method.recoverable_of_checkSignature refuses.unsupported
  obtain ⟨log, skipping⟩ := skipMethod_of_recoverable engine entry.method recoverable
  simp [enter, refuses.untracked, classified, refuses.unsupported, skipping]

/-- The first refusal of a method is a warning. -/
theorem enter_of_refuses_new (refuses : engine.Refuses machine entry fault)
    (new : entry.method ∉ engine.rejected) :
    engine.enter machine entry =
      { result := .ok ()
        engine := { engine.countSkipped with rejected := entry.method :: engine.rejected }
        machine := machine
        log := [{ level := .warn, message := fault.message ++ ", skipping" }] } := by
  rw [enter_of_refuses refuses]
  simp [skipMethod, new, Method.recoverable_of_checkSignature refuses.unsupported]

theorem enter_of_refuses_known (refuses : engine.Refuses machine entry fault)
    (known : entry.method ∈ engine.rejected) :
    engine.enter machine entry =
      { result := .ok ()
        engine := engine.countSkipped
        machine := machine
        log := [trace (fault.message ++ ", skipping")] } := by
  rw [enter_of_refuses refuses]
  simp [skipMethod, known, Method.recoverable_of_checkSignature refuses.unsupported]

theorem isRejection_of_capture {symbolicArrays : Bool} {kinds : List ArgumentKind}
    {given : Except Fault Snapshot} {world : World}
    (ended : (capture symbolicArrays entry kinds).Ends { machine := machine, log := [] }
      given world) :
    ∀ event ∈ world.log, event.isRejection = false := by
  obtain ⟨events, log, traces⟩ := (composed_capture symbolicArrays entry kinds).traces ended
  intro event member
  rw [log] at member
  exact LogEvent.isRejection_of_trace (traces event member)

theorem rejected_skipTest (engine : Engine) (fault : Fault) :
    (engine.skipTest fault).2.1.rejected = engine.rejected ∧
      ∀ event ∈ (engine.skipTest fault).2.2, event.isRejection = false := by
  cases recoverable : fault.isRecoverable with
  | true =>
      rw [skipTest_of_recoverable recoverable]
      exact ⟨rfl, List.forall_mem_singleton.mpr (LogEvent.isRejection_testSkipped _)⟩
  | false =>
      rw [skipTest_of_not_recoverable recoverable]
      exact ⟨rfl, List.forall_mem_nil _⟩

/-- No other entry of a method warns about its signature, or remembers that it was left
out. -/
theorem enter_of_not_refuses (accepts : ∀ fault, ¬ engine.Refuses machine entry fault) :
    (engine.enter machine entry).engine.rejected = engine.rejected ∧
      ∀ event ∈ (engine.enter machine entry).log, event.isRejection = false := by
  unfold enter
  cases tracked : engine.tracks entry.activation with
  | true =>
      exact ⟨rfl, List.forall_mem_singleton.mpr (LogEvent.isRejection_of_trace rfl)⟩
  | false =>
      cases classified : machine.classify entry.method with
      | none => exact ⟨rfl, List.forall_mem_nil _⟩
      | some kinds =>
          cases admissible : entry.method.checkSignature with
          | error fault =>
              exact absurd ⟨tracked, by simp [classified], admissible⟩ (accepts fault)
          | ok _ =>
              rcases resolved : runResolution
                  (capture engine.config.symbolicArrays entry kinds)
                  machine with ⟨given, world⟩
              have quiet := isRejection_of_capture resolved
              cases given with
              | ok snapshot =>
                  simp only [resolved]
                  exact ⟨rfl, List.forall_mem_append.mpr ⟨quiet,
                    List.forall_mem_singleton.mpr (LogEvent.isRejection_of_trace rfl)⟩⟩
              | error fault =>
                  obtain ⟨rejected, silent⟩ := rejected_skipTest engine fault
                  simp only [resolved]
                  exact ⟨rejected, List.forall_mem_append.mpr ⟨quiet, silent⟩⟩

/-- A method is remembered from its first refusal on. -/
theorem mem_rejected_enter_iff :
    method ∈ (engine.enter machine entry).engine.rejected ↔
      method ∈ engine.rejected ∨
        entry.method = method ∧ ∃ fault, engine.Refuses machine entry fault := by
  by_cases refused : ∃ fault, engine.Refuses machine entry fault
  · obtain ⟨fault, refuses⟩ := refused
    by_cases known : entry.method ∈ engine.rejected
    · rw [enter_of_refuses_known refuses known]
      constructor
      · exact .inl
      · rintro (member | ⟨rfl, -⟩)
        · exact member
        · exact known
    · rw [enter_of_refuses_new refuses known, List.mem_cons]
      constructor
      · rintro (rfl | member)
        · exact .inr ⟨rfl, fault, refuses⟩
        · exact .inl member
      · rintro (member | ⟨rfl, -⟩)
        · exact .inr member
        · exact .inl rfl
  · rw [(enter_of_not_refuses (not_exists.mp refused)).1]
    exact ⟨.inl, fun given => given.resolve_right fun both => refused both.2⟩

/-- A warning is made exactly when its method comes to be remembered. -/
theorem warnings_enter (engine : Engine) (machine : Machine) (entry : CallEntry) :
    (engine.enter machine entry).log.countP LogEvent.isRejection +
        (decide (entry.method ∈ engine.rejected)).toNat =
      (decide (entry.method ∈ (engine.enter machine entry).engine.rejected)).toNat := by
  by_cases refused : ∃ fault, engine.Refuses machine entry fault
  · obtain ⟨fault, refuses⟩ := refused
    by_cases known : entry.method ∈ engine.rejected
    · have traced : (trace (fault.message ++ ", skipping")).isRejection = false :=
        LogEvent.isRejection_of_trace rfl
      rw [enter_of_refuses_known refuses known]
      simp [traced, known, countSkipped]
    · rw [enter_of_refuses_new refuses known]
      simp [LogEvent.isRejection_skipping, known]
  · obtain ⟨rejected, silent⟩ := enter_of_not_refuses (not_exists.mp refused)
    have none : (engine.enter machine entry).log.countP LogEvent.isRejection = 0 := by
      rw [List.countP_eq_zero]
      intro event member
      simp [silent event member]
    rw [rejected, none, Nat.zero_add]

theorem Exits.rejected {event : CallExit}
    (exits : Exits event engine machine result finalEngine finalMachine) :
    finalEngine.rejected = engine.rejected := by
  cases exits with
  | recorded _ _ _ => rw [record_frame]
  | _ => rfl

theorem Throws.rejected {exception : ThrownException}
    (throws : Throws exception engine machine result finalEngine finalMachine) :
    finalEngine.rejected = engine.rejected := by
  cases throws with
  | attributed _ attributes => rw [attributes.finalEngine_eq]
  | _ => rfl

end Engine

namespace Session

variable {session : Session} {moves : List Move} {method : Method}

/-- How often an entry of the method warns about its signature in a move. -/
def warningsIn (session : Session) (method : Method) : Move → Nat
  | .notify (.entered entry) =>
      if entry.method = method then
        (session.engine.enter session.machine entry).log.countP LogEvent.isRejection
      else 0
  | _ => 0

/-- How often entries of the method warn about its signature. -/
def warnings (method : Method) : Session → List Move → Nat
  | _, [] => 0
  | session, move :: rest =>
      session.warningsIn method move + warnings method (session.step move) rest

/-- The next move enters the method, which is refused. -/
def RefusesNext (session : Session) (method : Method) (move : Move) : Prop :=
  ∃ entry fault, move = .notify (.entered entry) ∧ entry.method = method ∧
    session.engine.Refuses session.machine entry fault

/-- An entry of the method is refused at some point of the moves. -/
def Refused (session : Session) (method : Method) (moves : List Move) : Prop :=
  ∃ before move after, moves = before ++ move :: after ∧
    (session.run before).RefusesNext method move

theorem not_refused_nil : ¬ session.Refused method [] := by
  rintro ⟨before, move, after, split, -⟩
  simp at split

theorem refused_cons_iff {move : Move} {rest : List Move} :
    session.Refused method (move :: rest) ↔
      session.RefusesNext method move ∨ (session.step move).Refused method rest := by
  constructor
  · rintro ⟨before, chosen, after, split, refuses⟩
    cases before with
    | nil =>
        obtain ⟨rfl, rfl⟩ := List.cons.inj split
        exact .inl refuses
    | cons first before =>
        obtain ⟨rfl, rfl⟩ := List.cons.inj split
        exact .inr ⟨before, chosen, after, rfl, refuses⟩
  · rintro (refuses | ⟨before, chosen, after, rfl, refuses⟩)
    · exact ⟨[], move, rest, rfl, refuses⟩
    · exact ⟨move :: before, chosen, after, rfl, refuses⟩

/-- Only the entry of a method changes what is remembered. -/
theorem rejected_step {move : Move} (other : ∀ entry, move ≠ .notify (.entered entry)) :
    (session.step move).engine.rejected = session.engine.rejected := by
  cases move with
  | alter change => rfl
  | notify notification =>
      cases notification with
      | entered entry => exact absurd rfl (other entry)
      | exited event => exact (Engine.exits_exit _ _ event).rejected
      | thrown exception => exact (Engine.throws_throwException _ _ exception).rejected
      | released activation => rfl

theorem mem_rejected_step_iff {move : Move} :
    method ∈ (session.step move).engine.rejected ↔
      method ∈ session.engine.rejected ∨ session.RefusesNext method move := by
  by_cases entered : ∃ entry, move = .notify (.entered entry)
  · obtain ⟨entry, rfl⟩ := entered
    refine Engine.mem_rejected_enter_iff.trans (or_congr_right ?_)
    constructor
    · rintro ⟨same, fault, refuses⟩
      exact ⟨entry, fault, rfl, same, refuses⟩
    · rintro ⟨_, fault, ⟨⟩, same, refuses⟩
      exact ⟨same, fault, refuses⟩
  · rw [rejected_step (not_exists.mp entered), or_iff_left]
    rintro ⟨entry, _, rfl, -⟩
    exact entered ⟨entry, rfl⟩

theorem mem_rejected_run_iff :
    method ∈ (session.run moves).engine.rejected ↔
      method ∈ session.engine.rejected ∨ session.Refused method moves := by
  induction moves generalizing session with
  | nil => exact (or_iff_left not_refused_nil).symm
  | cons move rest ih =>
      calc
        _ ↔ method ∈ (session.step move).engine.rejected ∨
              (session.step move).Refused method rest := ih
        _ ↔ _ := by rw [mem_rejected_step_iff, refused_cons_iff, or_assoc]

theorem warningsIn_step (session : Session) (method : Method) (move : Move) :
    session.warningsIn method move + (decide (method ∈ session.engine.rejected)).toNat =
      (decide (method ∈ (session.step move).engine.rejected)).toNat := by
  by_cases entered : ∃ entry, move = .notify (.entered entry)
  · obtain ⟨entry, rfl⟩ := entered
    by_cases same : entry.method = method
    · subst same
      rw [warningsIn, if_pos rfl]
      exact Engine.warnings_enter session.engine session.machine entry
    · have kept : method ∈ (session.step (.notify (.entered entry))).engine.rejected ↔
          method ∈ session.engine.rejected := by
        refine Engine.mem_rejected_enter_iff.trans (or_iff_left ?_)
        rintro ⟨equal, -⟩
        exact same equal
      rw [warningsIn, if_neg same, Nat.zero_add, decide_eq_decide.mpr kept]
  · rw [rejected_step (not_exists.mp entered)]
    have none : session.warningsIn method move = 0 := by
      unfold warningsIn
      split
      · exact absurd ⟨_, rfl⟩ entered
      · rfl
    rw [none, Nat.zero_add]

/-- A method is a warning as often as it comes to be remembered, which is once at most. -/
theorem warnings_run (session : Session) (method : Method) (moves : List Move) :
    session.warnings method moves + (decide (method ∈ session.engine.rejected)).toNat =
      (decide (method ∈ (session.run moves).engine.rejected)).toNat := by
  induction moves generalizing session with
  | nil => exact Nat.zero_add _
  | cons move rest ih =>
      have first := warningsIn_step session method move
      have later : warnings method (session.step move) rest +
            (decide (method ∈ (session.step move).engine.rejected)).toNat =
          (decide (method ∈ (session.run (move :: rest)).engine.rejected)).toNat :=
        ih (session.step move)
      rw [warnings]
      omega

/-- However calls, releases and changes of the machine are interleaved, a method whose
signature is not supported is a warning at its first refusal and never again.  A refusal
is counted as left out and changes nothing else. -/
theorem run_warnsOnce (config : Config) (registry : Registry) (machine : Machine)
    (moves : List Move) :
    let initial := start config registry machine
    let session := initial.run moves
    (∀ method, initial.Refused method moves → initial.warnings method moves = 1) ∧
      (∀ method, ¬ initial.Refused method moves → initial.warnings method moves = 0) ∧
      ∀ entry fault, session.engine.Refuses session.machine entry fault →
        let response := session.engine.enter session.machine entry
        response.result = .ok () ∧
          response.machine = session.machine ∧
          response.engine.snapshots = session.engine.snapshots ∧
          response.engine.collection = session.engine.collection ∧
          response.engine.statistics =
            { session.engine.statistics with
              skipped := session.engine.statistics.skipped + 1 } ∧
          (initial.Refused entry.method moves →
            response.log = [Engine.trace (fault.message ++ ", skipping")]) ∧
          (¬ initial.Refused entry.method moves →
            response.log =
              [{ level := .warn, message := fault.message ++ ", skipping" }]) := by
  intro initial session
  have remembered : ∀ method, method ∈ session.engine.rejected ↔
      initial.Refused method moves := by
    intro method
    refine mem_rejected_run_iff.trans (or_iff_right ?_)
    exact List.not_mem_nil
  have counted : ∀ method, initial.warnings method moves =
      (decide (method ∈ session.engine.rejected)).toNat := by
    intro method
    exact warnings_run initial method moves
  refine ⟨?_, ?_, ?_⟩
  · intro method refused
    rw [counted, decide_eq_true ((remembered method).mpr refused)]
    rfl
  · intro method accepted
    rw [counted, decide_eq_false (mt (remembered method).mp accepted)]
    rfl
  · intro entry fault refuses response
    by_cases known : entry.method ∈ session.engine.rejected
    · have handled : response = _ := Engine.enter_of_refuses_known refuses known
      rw [handled]
      exact ⟨rfl, rfl, rfl, rfl, rfl, fun _ => rfl,
        fun fresh => absurd ((remembered _).mp known) fresh⟩
    · have handled : response = _ := Engine.enter_of_refuses_new refuses known
      rw [handled]
      exact ⟨rfl, rfl, rfl, rfl, rfl,
        fun refused => absurd ((remembered _).mpr refused) known, fun _ => rfl⟩

/-- A method that takes an object. -/
def labelMethod : Method :=
  { declaringClass := { name := "demo.Labels", hasDefaultConstructor := true }
    name := "label"
    isStatic := true
    parameters :=
      [{ name := "item", type := .reference "java.lang.Object", ordinal := 0
         isReceiver := false }]
    returnType := .void
    thrown := [] }

/-- All methods are to be tracked. -/
def labelMachine : Machine :=
  { Machine.new with tracked := fun _ => some [.symbolic] }

def labelEntry (number : Nat) : CallEntry :=
  { activation := { number := number }
    method := labelMethod
    arguments := [] }

/-- The method is entered, and its call is released. -/
def labelMoves : List Move :=
  [.notify (.entered (labelEntry 1)), .notify (.released { number := 1 })]

/-- Why the method is left out. -/
def labelFault : Fault :=
  .unsupportedSignature labelMethod.baseName (.parameter "item")
    (.reference "java.lang.Object")

/-- The first call is a warning and the second one is not; both are left out. -/
theorem run_warnsOnce_label :
    let initial := start {} .empty labelMachine
    let session := initial.run labelMoves
    let first := initial.engine.enter initial.machine (labelEntry 1)
    let second := session.engine.enter session.machine (labelEntry 2)
    initial.warnings labelMethod labelMoves = 1 ∧
      initial.warnings { labelMethod with name := "other" } labelMoves = 0 ∧
      first.log = [{ level := .warn, message := labelFault.message ++ ", skipping" }] ∧
      second.log = [Engine.trace (labelFault.message ++ ", skipping")] ∧
      second.result = .ok () ∧
      session.engine.statistics.skipped = 1 ∧ second.engine.statistics.skipped = 2 := by
  intro initial session first second
  have firstRefused : initial.engine.Refuses initial.machine (labelEntry 1) labelFault :=
    { untracked := rfl, classified := nofun, unsupported := rfl }
  have secondRefused : session.engine.Refuses session.machine (labelEntry 2) labelFault :=
    { untracked := rfl, classified := nofun, unsupported := rfl }
  have refused : initial.Refused labelMethod labelMoves :=
    ⟨[], _, _, rfl, labelEntry 1, labelFault, rfl, rfl, firstRefused⟩
  have other : ¬ initial.Refused { labelMethod with name := "other" } labelMoves := by
    rintro ⟨before, _, after, split, entry, _, rfl, same, -⟩
    have member : Move.notify (.entered entry) ∈ labelMoves :=
      split ▸ List.mem_append_right _ List.mem_cons_self
    obtain rfl : entry = labelEntry 1 := by simpa [labelMoves] using member
    exact absurd (congrArg Method.name same) (by decide)
  obtain ⟨once, never, later⟩ := run_warnsOnce {} .empty labelMachine labelMoves
  obtain ⟨_, _, new⟩ := run_warnsOnce {} .empty labelMachine []
  obtain ⟨_, _, _, _, _, _, warned⟩ := new _ _ firstRefused
  obtain ⟨fine, _, _, _, counted, traced, _⟩ := later _ _ secondRefused
  exact ⟨once _ refused, never _ other, warned not_refused_nil, traced refused, fine, rfl,
    congrArg Statistics.skipped counted⟩

end Session

end TestSynth
