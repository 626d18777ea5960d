import TestSynth.Machine.Basic

/-!
# Snapshots

The arguments of a call as they were captured when it was entered.  Symbolic
arguments are resolved when the call ends, concrete ones are fixed at once.
-/

namespace TestSynth

structure Snapshot where
  method : Method
  symbolic : List (Parameter × Captured)
  concrete : List (Parameter × Value)
  deriving DecidableEq

namespace Snapshot

/-- Goes through the parameters that are bound and collects their ordinals.
Receivers, ordinals outside the parameter list and ordinals that are bound
already are refused. -/
def bindOrdinals (method : Method) (seen : List Nat) : List Parameter → Except Fault (List Nat)
  | [] => .ok seen
  | parameter :: rest =>
      if parameter.isReceiver || method.parameters.length ≤ parameter.ordinal ||
          parameter.ordinal ∈ seen then
        .error (.contract (.snapshotBinding method.baseName parameter.name))
      else bindOrdinals method (parameter.ordinal :: seen) rest

/-- Goes through the arguments of a method, each of which must be bound. -/
def checkCaptured (method : Method) (seen : List Nat) : List Parameter → Except Fault Unit
  | [] => .ok ()
  | parameter :: rest =>
      if method.parameters.length ≤ parameter.ordinal then
        .error (.ordinalOutOfRange parameter.ordinal method.parameters.length)
      else if parameter.ordinal ∈ seen then checkCaptured method seen rest
      else .error (.contract (.snapshotMissing method.baseName parameter.name))

/-- Builds a snapshot that binds every argument once. -/
def build (method : Method) (symbolic : List (Parameter × Captured))
    (concrete : List (Parameter × Value)) : Except Fault Snapshot := do
  let seen ← bindOrdinals method [] (symbolic.map (·.1) ++ concrete.map (·.1))
  checkCaptured method seen method.arguments
  return { method := method, symbolic := symbolic, concrete := concrete }

/-- Whether a symbolic argument has the name. -/
def isSymbolic (snapshot : Snapshot) (name : String) : Bool :=
  snapshot.symbolic.any fun (parameter, _) => parameter.name == name

/-- The snapshot in messages. -/
def text (snapshot : Snapshot) : String :=
  let symbolic := snapshot.symbolic.map fun (parameter, _) => parameter.name
  let concrete := snapshot.concrete.map fun (parameter, value) =>
    parameter.name ++ "=" ++ value.text
  snapshot.method.baseName ++ " symbolic [" ++ ", ".intercalate symbolic ++
    "] concrete [" ++ ", ".intercalate concrete ++ "]"

end Snapshot

/-- Snapshots by activation, at most one each. -/
structure SnapshotTable where
  entries : List (Activation × Snapshot)
  distinct : (entries.map (·.1)).Nodup

namespace SnapshotTable

def empty : SnapshotTable :=
  { entries := []
    distinct := List.nodup_nil }

def get? (table : SnapshotTable) (activation : Activation) : Option Snapshot :=
  (table.entries.find? fun (key, _) => key == activation).map (·.2)

def contains (table : SnapshotTable) (activation : Activation) : Bool :=
  (table.get? activation).isSome

theorem contains_iff {table : SnapshotTable} {activation : Activation} :
    table.contains activation = true ↔
      activation ∈ table.entries.map (·.1) := by
  simp [contains, get?]

theorem distinct_append {table : SnapshotTable} {activation : Activation}
    (untracked : ¬ table.contains activation = true) (snapshot : Snapshot) :
    ((table.entries ++ [(activation, snapshot)]).map (·.1)).Nodup := by
  rw [List.map_append, List.nodup_append]
  refine ⟨table.distinct, by simp, ?_⟩
  rintro key known other new rfl
  rw [List.map_singleton, List.mem_singleton] at new
  subst new
  exact untracked (contains_iff.mpr known)

/-- Adds a snapshot, unless the activation has one; tells whether it was added. -/
def attach (table : SnapshotTable) (activation : Activation) (snapshot : Snapshot) :
    Bool × SnapshotTable :=
  if tracked : table.contains activation then (false, table)
  else
    (true,
      { entries := table.entries ++ [(activation, snapshot)]
        distinct := distinct_append tracked snapshot })

/-- Removes the snapshot of an activation, and gives it if there was one. -/
def release (table : SnapshotTable) (activation : Activation) :
    Option Snapshot × SnapshotTable :=
  (table.get? activation,
    { entries := table.entries.filter fun (key, _) => key != activation
      distinct := table.distinct.sublist (List.filter_sublist.map _) })

def size (table : SnapshotTable) : Nat :=
  table.entries.length

end SnapshotTable

end TestSynth
