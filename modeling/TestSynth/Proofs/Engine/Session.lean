import TestSynth.Proofs.Engine.Handling

/-!
# Sessions

A session is a run of an engine with a machine that may change in any way from
one notification to the next.
-/

namespace TestSynth

structure Session where
  engine : Engine
  machine : Machine

inductive Move
  | notify (notification : Notification)
  /-- The machine goes on between notifications. -/
  | alter (change : Machine → Machine)

namespace Session

def start (config : Config) (registry : Registry) (machine : Machine) :
    Session :=
  { engine := .new config registry
    machine := machine }

def step (session : Session) : Move → Session
  | .notify notification =>
      let response := session.engine.handle session.machine notification
      { engine := response.engine
        machine := response.machine }
  | .alter change => { session with machine := change session.machine }

def run (session : Session) (moves : List Move) : Session :=
  moves.foldl step session

/-- The machine leaves the solution of a variable as it is between
notifications. -/
def Keeps (source : Variable) : Session → List Move → Prop
  | _, [] => True
  | session, .notify notification :: rest =>
      Keeps source (session.step (.notify notification)) rest
  | session, .alter change :: rest =>
      (change session.machine).solutions source =
          session.machine.solutions source ∧
        Keeps source (session.step (.alter change)) rest

variable {session : Session} {moves : List Move}

theorem run_append (first second : List Move) :
    session.run (first ++ second) = (session.run first).run second :=
  List.foldl_append

/-- What every step preserves holds throughout. -/
theorem run_invariant {property : Session → Prop}
    (preserved : ∀ current move, property current →
      property (current.step move))
    (initial : property session) : property (session.run moves) := by
  induction moves generalizing session with
  | nil => exact initial
  | cons move rest ih => exact ih (preserved session move initial)

theorem settings_step (session : Session) (move : Move) :
    (session.step move).engine.config = session.engine.config ∧
      (session.step move).engine.registry = session.engine.registry := by
  cases move with
  | notify notification => exact Engine.settings_handle _ _ notification
  | alter change => exact ⟨rfl, rfl⟩

/-- A session keeps the configuration and the registry that it began with. -/
theorem settings_run (session : Session) (moves : List Move) :
    (session.run moves).engine.config = session.engine.config ∧
      (session.run moves).engine.registry = session.engine.registry := by
  induction moves generalizing session with
  | nil => exact ⟨rfl, rfl⟩
  | cons move rest ih =>
      obtain ⟨config, registry⟩ := settings_step session move
      obtain ⟨laterConfig, laterRegistry⟩ := ih (session.step move)
      exact ⟨laterConfig.trans config, laterRegistry.trans registry⟩

/-- Once a variable has a solution, only the machine can change it. -/
theorem solutions_run {source : Variable}
    (solved : session.machine.solutions source ≠ .undefined)
    (keeps : session.Keeps source moves) :
    (session.run moves).machine.solutions source =
      session.machine.solutions source := by
  induction moves generalizing session with
  | nil => rfl
  | cons move rest ih =>
      have stepped : (session.step move).machine.solutions source =
          session.machine.solutions source ∧
            (session.step move).Keeps source rest := by
        cases move with
        | notify notification =>
            have extension :=
              Engine.extends_handle session.engine session.machine notification
            exact ⟨extension.keeps source solved, keeps⟩
        | alter change => exact keeps
      rw [← stepped.1] at solved ⊢
      exact ih solved stepped.2

theorem solved?_run {source : Variable} {base : Primitive} {content : Scalar}
    (solved : session.machine.solved? source base = some content)
    (keeps : session.Keeps source moves) :
    (session.run moves).machine.solved? source base = some content := by
  have defined : session.machine.solutions source ≠ .undefined := by
    intro free
    simp [Machine.solved?, free, Solution.scalar?] at solved
  unfold Machine.solved?
  rw [solutions_run defined keeps]
  exact solved

end Session

end TestSynth
