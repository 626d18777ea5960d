import TestSynth.Proofs.Engine.Session
import TestSynth.Proofs.Resolution.Confinement

/-!
# What notifications write

A notification completes the model with defaults, and the return of a call may
have one branch given up.  Nothing else in the machine changes, so a solution
stays until the machine itself changes it.
-/

namespace TestSynth

namespace Engine

open Resolution (Confined)

variable {engine finalEngine : Engine} {machine finalMachine : Machine}
  {exception : ThrownException} {event : CallExit} {entry : CallEntry}
  {pending : List Snapshot} {result : Except Fault Unit}

theorem Enters.completes
    (enters : Enters entry engine machine result finalEngine finalMachine) :
    finalMachine.Completes (fun _ => True) machine := by
  have confined (kinds : List ArgumentKind) : Confined machine.heap (fun _ => True)
      (capture engine.config.symbolicArrays entry kinds) :=
    confined_capture _ kinds fun _ _ _ _ => trivial
  cases enters with
  | known _ => exact .refl machine
  | unclassified _ => exact .refl machine
  | refused _ _ _ => exact .refl machine
  | skipped _ _ ended _ => exact (confined _).completes rfl ended
  | stopped _ _ ended _ => exact (confined _).completes rfl ended
  | captured _ _ _ ended => exact (confined _).completes rfl ended

theorem Attributes.completes
    (attributes : Attributes exception engine machine pending result
      finalEngine finalMachine) :
    finalMachine.Completes (fun _ => True) machine := by
  have confined (symbolicArrays : Bool) (heap : ArrayHandle → Option HeapArray)
      (snapshot : Snapshot) : Confined heap (fun _ => True)
      (resolveTest symbolicArrays snapshot (.threw exception)) :=
    confined_resolveTest _ _ fun _ _ _ _ => trivial
  induction attributes with
  | done => exact .refl _
  | recorded ended _ _ _ ih => exact ih.trans ((confined _ _ _).completes rfl ended)
  | skipped ended _ _ ih => exact ih.trans ((confined _ _ _).completes rfl ended)
  | stopped ended _ => exact (confined _ _ _).completes rfl ended

theorem Throws.completes
    (throws : Throws exception engine machine result finalEngine finalMachine) :
    finalMachine.Completes (fun _ => True) machine := by
  cases throws with
  | untracked _ => exact .refl machine
  | abandoned _ _ => exact .refl machine
  | attributed _ attributes => exact attributes.completes

theorem completes_resolveExit {symbolicArrays : Bool} {snapshot : Snapshot}
    {returned : Option Captured} {given : Except Fault TestCase} {world after : World}
    (ended : (resolveExit symbolicArrays snapshot returned).Ends world given after) :
    after.machine.Completes (fun _ => True) world.machine := by
  have confined : Confined world.machine.heap (fun _ => True)
      (resolveExit symbolicArrays snapshot returned) :=
    confined_resolveExit _ (fun _ _ _ _ => trivial) fun _ _ _ _ => trivial
  exact confined.completes rfl ended

/-- A branch is given up after the resolution, if at all. -/
theorem prune_eq (engine : Engine) (machine : Machine) (method : Method)
    (activation : Activation) :
    (engine.prune machine method activation).1 = machine ∨
      (engine.prune machine method activation).1 = machine.ignoreBranch := by
  unfold prune
  split
  · exact .inr rfl
  · exact .inl rfl

theorem Exits.completes
    (exits : Exits event engine machine result finalEngine finalMachine) :
    ∃ settled : Machine, settled.Completes (fun _ => True) machine ∧
      (finalMachine = settled ∨ finalMachine = settled.ignoreBranch) := by
  cases exits with
  | untracked _ => exact ⟨machine, .refl machine, .inl rfl⟩
  | abandoned _ _ => exact ⟨machine, .refl machine, .inl rfl⟩
  | recorded _ _ ended => exact ⟨_, completes_resolveExit ended, prune_eq _ _ _ _⟩
  | skipped _ _ ended _ => exact ⟨_, completes_resolveExit ended, .inl rfl⟩
  | stopped _ _ ended _ => exact ⟨_, completes_resolveExit ended, .inl rfl⟩

/-- Up to a branch that the return of a call gives up, a notification completes
the machine. -/
theorem completes_handle (engine : Engine) (machine : Machine)
    (notification : Notification) :
    ∃ settled : Machine, settled.Completes (fun _ => True) machine ∧
      ((engine.handle machine notification).machine = settled ∨
        (engine.handle machine notification).machine = settled.ignoreBranch ∧
          ∃ event, notification = .exited event) := by
  cases notification with
  | entered entry =>
      exact ⟨_, (enters_enter engine machine entry).completes, .inl rfl⟩
  | exited event =>
      obtain ⟨settled, completes, last⟩ := (exits_exit engine machine event).completes
      exact ⟨settled, completes, last.imp id fun pruned => ⟨pruned, event, rfl⟩⟩
  | thrown exception =>
      exact ⟨_, (throws_throwException engine machine exception).completes, .inl rfl⟩
  | released activation => exact ⟨machine, .refl machine, .inl rfl⟩

end Engine

namespace Session

/-- A notification changes a machine only by giving free variables one of the two
defaults of the model and, if a call returned, by giving up one branch.  So no
solution, once it is there, is changed in a session but by the machine itself. -/
theorem handle_completes :
    (∀ (engine : Engine) (machine : Machine) (notification : Notification),
      let after := (engine.handle machine notification).machine
      (∀ source, machine.solutions source ≠ .undefined →
        after.solutions source = machine.solutions source) ∧
      (∀ source, machine.solutions source = .undefined →
        after.solutions source = .undefined ∨
          after.solutions source = .integer 0 ∨
          after.solutions source = .real 0) ∧
      after =
        { machine with
          solutions := after.solutions
          ignoredBranches := after.ignoredBranches } ∧
      (after.ignoredBranches = machine.ignoredBranches ∨
        after.ignoredBranches = machine.ignoredBranches + 1 ∧
          ∃ event, notification = .exited event)) ∧
    ∀ (session : Session) (moves : List Move) (source : Variable),
      session.machine.solutions source ≠ .undefined →
        session.Keeps source moves →
          (session.run moves).machine.solutions source =
            session.machine.solutions source := by
  refine ⟨?_, fun _ _ _ solved => solutions_run solved⟩
  intro engine machine notification after
  obtain ⟨settled, completes, last⟩ :=
    Engine.completes_handle engine machine notification
  have branches : settled.ignoredBranches = machine.ignoredBranches := by
    rw [completes.frame]
  have solutions : after.solutions = settled.solutions := by
    rcases last with same | ⟨pruned, _⟩
    · exact congrArg Machine.solutions same
    · exact (congrArg Machine.solutions pruned).trans rfl
  refine ⟨?_, ?_, ?_, ?_⟩
  · intro source solved
    rw [solutions]
    exact completes.solutions_eq_of_solved solved
  · intro source free
    rw [solutions]
    exact completes.solutions_of_free free
  · exact (Engine.extends_handle engine machine notification).frame
  · rcases last with same | ⟨pruned, exited⟩
    · exact .inl ((congrArg Machine.ignoredBranches same).trans branches)
    · refine .inr ⟨(congrArg Machine.ignoredBranches pruned).trans ?_, exited⟩
      exact congrArg (· + 1) branches

end Session

end TestSynth
