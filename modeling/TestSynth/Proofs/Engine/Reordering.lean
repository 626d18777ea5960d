import TestSynth.Proofs.Engine.Accounting
import TestSynth.Proofs.Engine.Completion
import TestSynth.Proofs.TestCase.Reordering

/-!
# Returns in any order

When every variable that the returns of some calls depend on has a solution, each
return comes to a verdict that no other return has a part in.  Handling the
returns in another order then gives each the same result and, up to the order of
the test cases, the same engine and machine.
-/

namespace TestSynth

/-- What the return of a call comes to. -/
inductive Verdict
  | untracked
  | abandoned
  /-- A test case, and whether the branch is given up. -/
  | recorded (test : TestCase) (pruned : Bool)
  | skipped
  | stopped (fault : Fault)

namespace Verdict

def result : Verdict → Except Fault Unit
  | .stopped fault => .error fault
  | _ => .ok ()

def test? : Verdict → Option TestCase
  | .recorded test _ => some test
  | _ => none

def prunes : Verdict → Bool
  | .recorded _ pruned => pruned
  | _ => false

/-- The engine after a verdict. -/
def apply (engine : Engine) : Verdict → Engine
  | .untracked => engine
  | .abandoned => engine.countAbandoned
  | .recorded test _ => (engine.record test).1
  | .skipped => engine.countSkipped
  | .stopped _ => engine

/-- A verdict that records nothing counts at most. -/
theorem apply_of_quiet {verdict : Verdict} (quiet : verdict.test? = none) :
    ∃ left up, ∀ engine, verdict.apply engine = engine.tally 0 0 left up := by
  cases verdict with
  | untracked => exact ⟨0, 0, fun _ => rfl⟩
  | abandoned => exact ⟨0, 1, fun _ => rfl⟩
  | recorded test pruned => cases quiet
  | skipped => exact ⟨1, 0, fun _ => rfl⟩
  | stopped fault => exact ⟨0, 0, fun _ => rfl⟩

theorem apply_of_test {verdict : Verdict} {test : TestCase}
    (records : verdict.test? = some test) (engine : Engine) :
    verdict.apply engine = (engine.record test).1 := by
  cases verdict with
  | recorded other pruned =>
      cases records
      rfl
  | _ => cases records

theorem countP_prunes_cons (verdict : Verdict) (rest : List Verdict) :
    (verdict :: rest).countP prunes = verdict.prunes.toNat + rest.countP prunes := by
  rw [List.countP_cons, Nat.add_comm]
  cases verdict.prunes <;> rfl

/-- No test case of the verdicts is about an exception. -/
def Returning (verdicts : List Verdict) : Prop :=
  ∀ verdict ∈ verdicts, ∀ test, verdict.test? = some test → test.didThrow = false

end Verdict

namespace Engine

open Verdict (Returning)

variable {engine later left right : Engine} {machine : Machine} {event : CallExit}
  {snapshot : Snapshot} {verdicts permuted : List Verdict}

/-- The engines differ at most in the order of what they have collected. -/
structure Alike (left right : Engine) : Prop where
  collection : left.collection.Alike right.collection
  frame : right = { left with collection := right.collection }

namespace Alike

theorem refl (engine : Engine) : engine.Alike engine :=
  { collection := .refl _
    frame := rfl }

theorem trans {middle : Engine} (alike : left.Alike middle)
    (other : middle.Alike right) : left.Alike right := by
  constructor
  · exact alike.collection.trans other.collection
  · rw [other.frame, alike.frame]

theorem tally (alike : left.Alike right) (fresh known skipped up : Nat) :
    (left.tally fresh known skipped up).Alike
      (right.tally fresh known skipped up) := by
  rw [alike.frame]
  exact ⟨alike.collection, rfl⟩

theorem record (alike : left.Alike right) (test : TestCase) :
    (left.record test).1.Alike (right.record test).1 := by
  obtain ⟨collection, frame⟩ := alike
  cases known : left.collection.contains test with
  | true =>
      have rightKnown := (collection.contains test).symm.trans known
      rw [record_of_contains known, record_of_contains rightKnown, frame]
      exact ⟨collection, rfl⟩
  | false =>
      have rightFresh := (collection.contains test).symm.trans known
      rw [record_of_not_contains known, record_of_not_contains rightFresh, frame]
      exact ⟨collection.insert test, rfl⟩

theorem apply (alike : left.Alike right) (verdict : Verdict) :
    (verdict.apply left).Alike (verdict.apply right) := by
  cases records : verdict.test? with
  | none =>
      obtain ⟨skipped, up, counts⟩ := Verdict.apply_of_quiet records
      rw [counts, counts]
      exact alike.tally _ _ _ _
  | some test =>
      rw [Verdict.apply_of_test records, Verdict.apply_of_test records]
      exact alike.record test

theorem foldl_apply (alike : left.Alike right) (verdicts : List Verdict) :
    (verdicts.foldl Verdict.apply left).Alike
      (verdicts.foldl Verdict.apply right) := by
  induction verdicts generalizing left right with
  | nil => exact alike
  | cons verdict rest ih => exact ih (alike.apply verdict)

end Alike

theorem collection_record (engine : Engine) (test : TestCase) :
    (engine.record test).1.collection = engine.collection.insert test := by
  cases known : engine.collection.contains test with
  | true => rw [record_of_contains known, Collection.insert_of_contains known]; rfl
  | false => rw [record_of_not_contains known]

theorem record_tally (engine : Engine) (test : TestCase) (skipped up : Nat) :
    ((engine.tally 0 0 skipped up).record test).1 =
      (engine.record test).1.tally 0 0 skipped up := by
  have same : (engine.tally 0 0 skipped up).collection = engine.collection := rfl
  cases known : engine.collection.contains test with
  | true =>
      rw [record_of_contains known, record_of_contains (same ▸ known)]
      rfl
  | false =>
      rw [record_of_not_contains known, record_of_not_contains (same ▸ known)]
      rfl

theorem record_record_alike {first second : TestCase}
    (distinct : first = second ∨ first.Apart second) :
    ((engine.record first).1.record second).1.Alike
      ((engine.record second).1.record first).1 := by
  rcases distinct with rfl | apart
  · exact .refl _
  have secondKept : (engine.record first).1.collection.contains second =
      engine.collection.contains second := by
    rw [collection_record]
    exact Collection.contains_insert_of_not_same apart.backward
  have firstKept : (engine.record second).1.collection.contains first =
      engine.collection.contains first := by
    rw [collection_record]
    exact Collection.contains_insert_of_not_same apart.forward
  constructor
  · simp only [collection_record]
    exact Collection.insert_insert_alike apart
  · cases firstKnown : engine.collection.contains first with
    | true =>
        rw [record_of_contains (firstKept.trans firstKnown)]
        cases secondKnown : engine.collection.contains second with
        | true =>
            rw [record_of_contains (secondKept.trans secondKnown),
              record_of_contains firstKnown, record_of_contains secondKnown]
        | false =>
            rw [record_of_not_contains (secondKept.trans secondKnown),
              record_of_contains firstKnown, record_of_not_contains secondKnown]
            rfl
    | false =>
        rw [record_of_not_contains (firstKept.trans firstKnown)]
        cases secondKnown : engine.collection.contains second with
        | true =>
            rw [record_of_contains (secondKept.trans secondKnown),
              record_of_not_contains firstKnown, record_of_contains secondKnown]
            rfl
        | false =>
            rw [record_of_not_contains (secondKept.trans secondKnown),
              record_of_not_contains firstKnown, record_of_not_contains secondKnown]
            rfl

theorem apply_apply_alike {first second : Verdict}
    (distinct : ∀ one, first.test? = some one →
      ∀ other, second.test? = some other → one = other ∨ one.Apart other) :
    (second.apply (first.apply engine)).Alike
      (first.apply (second.apply engine)) := by
  cases firstRecords : first.test? with
  | none =>
      obtain ⟨skipped, up, firstCounts⟩ := Verdict.apply_of_quiet firstRecords
      cases secondRecords : second.test? with
      | none =>
          obtain ⟨others, ups, secondCounts⟩ := Verdict.apply_of_quiet secondRecords
          simp only [firstCounts, secondCounts, tally_tally, Nat.add_comm others,
            Nat.add_comm ups]
          exact .refl _
      | some other =>
          simp only [firstCounts, Verdict.apply_of_test secondRecords, record_tally]
          exact .refl _
  | some one =>
      cases secondRecords : second.test? with
      | none =>
          obtain ⟨others, ups, secondCounts⟩ := Verdict.apply_of_quiet secondRecords
          simp only [secondCounts, Verdict.apply_of_test firstRecords, record_tally]
          exact .refl _
      | some other =>
          simp only [Verdict.apply_of_test firstRecords,
            Verdict.apply_of_test secondRecords]
          exact record_record_alike (distinct one firstRecords other secondRecords)

theorem foldl_apply_perm (permutation : verdicts.Perm permuted)
    (returning : Returning verdicts) (engine : Engine) :
    (verdicts.foldl Verdict.apply engine).Alike
      (permuted.foldl Verdict.apply engine) := by
  induction permutation generalizing engine with
  | nil => exact .refl engine
  | cons verdict _ ih =>
      exact ih (fun other member => returning other (.tail _ member)) _
  | swap first second rest =>
      refine Alike.foldl_apply (apply_apply_alike ?_) rest
      intro one firstRecords other secondRecords
      exact TestCase.eq_or_apart
        (returning second (by simp) one firstRecords)
        (returning first (by simp) other secondRecords)
  | trans first _ ihFirst ihSecond =>
      exact (ihFirst returning engine).trans
        (ihSecond (fun verdict member => returning verdict (first.mem_iff.mpr member))
          engine)

/-- Whether the branch is given up once the call of an activation is recorded. -/
def prunes (engine : Engine) (machine : Machine) (activation : Activation) : Bool :=
  engine.config.optimize && !machine.hasPendingAlternatives &&
    !engine.hasTrackedCaller machine activation

/-- The verdict on the return of a call. -/
def verdict (engine : Engine) (machine : Machine) (event : CallExit) : Verdict :=
  match engine.snapshots.get? event.activation with
  | none => .untracked
  | some snapshot =>
      if machine.pathCondition = some true then
        match
          (runResolution
            (resolveExit engine.config.symbolicArrays snapshot event.returned)
            machine).1 with
        | .ok test => .recorded test (engine.prunes machine event.activation)
        | .error fault => if fault.isRecoverable then .skipped else .stopped fault
      else .abandoned

/-- Every variable that the return of a call depends on has a solution. -/
def SolvedFor (engine : Engine) (machine : Machine) (event : CallExit) : Prop :=
  ∀ snapshot, engine.snapshots.get? event.activation = some snapshot →
    ∀ captured ∈ event.returned.toList ++ snapshot.symbolic.map (·.2),
      ∀ source ∈ captured.sources machine.heap,
        machine.solutions source ≠ .undefined

theorem didThrow_of_resolveExit {symbolicArrays : Bool} {returned : Option Captured}
    {test : TestCase} {world after : World}
    (ended : (resolveExit symbolicArrays snapshot returned).Ends world
      (.ok test) after) :
    test.didThrow = false := by
  obtain ⟨outcome, reads, realizes⟩ := realizes_of_resolveExit ended
  unfold TestCase.didThrow
  rw [realizes.outcome]
  generalize snapshot.method.returnType = type at reads
  cases reads with
  | void => rfl
  | returned _ => rfl

theorem config_apply (engine : Engine) (verdict : Verdict) :
    (verdict.apply engine).config = engine.config := by
  cases verdict with
  | recorded test pruned => exact config_record
  | _ => rfl

theorem snapshots_apply (engine : Engine) (verdict : Verdict) :
    (verdict.apply engine).snapshots = engine.snapshots := by
  cases verdict with
  | recorded test pruned => exact snapshots_record
  | _ => rfl

theorem returning_verdict (engine : Engine) (machine : Machine)
    (events : List CallExit) :
    Returning (events.map (engine.verdict machine)) := by
  intro verdict member test records
  obtain ⟨event, _, rfl⟩ := List.mem_map.mp member
  unfold Engine.verdict at records
  split at records
  · cases records
  split at records
  · split at records
    · rename_i built
      cases records
      exact didThrow_of_resolveExit (Prod.ext built rfl)
    · split at records
      · cases records
      · cases records
  · cases records

/-- With solutions for all that a return depends on, its resolution ends in the
same way on a machine that has given up other branches, and changes nothing. -/
theorem ends_resolveExit (solved : engine.SolvedFor machine event)
    (tracked : engine.snapshots.get? event.activation = some snapshot)
    (branches : Nat) :
    ∃ log,
      (resolveExit engine.config.symbolicArrays snapshot event.returned).Ends
        { machine := { machine with ignoredBranches := branches }, log := [] }
        (runResolution
          (resolveExit engine.config.symbolicArrays snapshot event.returned)
          machine).1
        { machine := { machine with ignoredBranches := branches }, log := log } := by
  rcases run : runResolution
    (resolveExit engine.config.symbolicArrays snapshot event.returned)
    machine with ⟨result, after⟩
  have ended : Resolution.Ends _ _ result after := run
  have confined : Resolution.Confined machine.heap
      (fun source =>
        ∃ captured ∈ event.returned.toList ++ snapshot.symbolic.map (·.2),
          source ∈ captured.sources machine.heap)
      (resolveExit engine.config.symbolicArrays snapshot event.returned) :=
    confined_resolveExit _
      (fun captured given source mentioned =>
        ⟨captured, List.mem_append_left _ (Option.mem_toList.mpr given), mentioned⟩)
      (fun argument given source mentioned =>
        ⟨argument.2, List.mem_append_right _ (List.mem_map_of_mem given), mentioned⟩)
  have unchanged : after.machine = machine := by
    apply (confined.completes rfl ended).eq_of_solved
    rintro source ⟨captured, given, mentioned⟩
    exact solved snapshot tracked captured given source mentioned
  apply (settles_resolveExit _ _ _).again ended
  rw [unchanged]
  exact { keeps := fun _ _ => rfl, frame := rfl }

theorem prune_eq_ignoredBranches (config : later.config = engine.config)
    (snapshots : later.snapshots = engine.snapshots) (method : Method)
    (activation : Activation) (branches : Nat) :
    (later.prune { machine with ignoredBranches := branches } method activation).1 =
      { machine with
        ignoredBranches := branches + (engine.prunes machine activation).toNat } := by
  have same : (later.config.optimize && !machine.hasPendingAlternatives &&
      !later.hasTrackedCaller { machine with ignoredBranches := branches } activation) =
      engine.prunes machine activation := by
    unfold prunes hasTrackedCaller tracks
    rw [config, snapshots]
  unfold prune
  simp only [same]
  cases engine.prunes machine activation <;> rfl

/-- Each return comes to its verdict, whatever was handled before. -/
theorem exits_verdict (config : later.config = engine.config)
    (snapshots : later.snapshots = engine.snapshots)
    (solved : engine.SolvedFor machine event) (branches : Nat) :
    Exits event later { machine with ignoredBranches := branches }
      (engine.verdict machine event).result
      ((engine.verdict machine event).apply later)
      { machine with
        ignoredBranches :=
          branches + (engine.verdict machine event).prunes.toNat } := by
  have laterTracked {found : Option Snapshot}
      (given : engine.snapshots.get? event.activation = found) :
      later.snapshots.get? event.activation = found := snapshots ▸ given
  unfold verdict
  cases tracked : engine.snapshots.get? event.activation with
  | none => exact .untracked (laterTracked tracked)
  | some snapshot =>
      by_cases solvable : machine.pathCondition = some true
      · obtain ⟨log, ended⟩ := ends_resolveExit solved tracked branches
        have laterSolvable :
            ({ machine with ignoredBranches := branches } : Machine).pathCondition =
              some true := solvable
        rw [← config] at ended
        simp only [if_pos solvable, ← config]
        cases given : (runResolution
            (resolveExit later.config.symbolicArrays snapshot event.returned)
            machine).1 with
        | ok test =>
            rw [given] at ended
            have exits := Exits.recorded (laterTracked tracked) laterSolvable ended
            have recordedConfig : (later.record test).1.config = engine.config :=
              config_record.trans config
            have recordedSnapshots :
                (later.record test).1.snapshots = engine.snapshots :=
              snapshots_record.trans snapshots
            rw [prune_eq_ignoredBranches recordedConfig recordedSnapshots] at exits
            exact exits
        | error fault =>
            rw [given] at ended
            cases recoverable : fault.isRecoverable with
            | true =>
                simp only [recoverable, if_true]
                exact .skipped (laterTracked tracked) laterSolvable ended recoverable
            | false =>
                simp only [recoverable, Bool.false_eq_true, if_false]
                exact .stopped (laterTracked tracked) laterSolvable ended recoverable
      · simp only [if_neg solvable]
        exact .abandoned (laterTracked tracked) solvable

end Engine

namespace Session

open Engine (SolvedFor)

variable {engine later : Engine} {machine : Machine} {events permuted : List CallExit}

/-- The results of the notifications of a run. -/
def results : Session → List Move → List (Except Fault Unit)
  | _, [] => []
  | session, .notify notification :: rest =>
      (session.engine.handle session.machine notification).result ::
        results (session.step (.notify notification)) rest
  | session, .alter change :: rest => results (session.step (.alter change)) rest

/-- The run in which calls return one after the other. -/
def returns (events : List CallExit) : List Move :=
  events.map fun event => .notify (.exited event)

/-- Every return of a run comes to its verdict. -/
theorem run_returns (config : later.config = engine.config)
    (snapshots : later.snapshots = engine.snapshots)
    (solved : ∀ event ∈ events, engine.SolvedFor machine event) (branches : Nat) :
    let session : Session :=
      { engine := later
        machine := { machine with ignoredBranches := branches } }
    let verdicts := events.map (engine.verdict machine)
    session.results (returns events) = verdicts.map Verdict.result ∧
      session.run (returns events) =
        { engine := verdicts.foldl Verdict.apply later
          machine :=
            { machine with
              ignoredBranches := branches + verdicts.countP Verdict.prunes } } := by
  -- The verdicts are those of the first engine; only what they are applied to
  -- moves on.
  induction events generalizing later branches with
  | nil => exact ⟨rfl, rfl⟩
  | cons event rest ih =>
      obtain ⟨here, others⟩ := List.forall_mem_cons.mp solved
      have exits := Engine.exits_verdict config snapshots here branches
      obtain ⟨resultEq, engineEq, machineEq⟩ := Engine.exit_of_exits exits
      obtain ⟨resultsEq, runEq⟩ := ih
        ((Engine.config_apply later (engine.verdict machine event)).trans config)
        ((Engine.snapshots_apply later (engine.verdict machine event)).trans snapshots)
        others (branches + (engine.verdict machine event).prunes.toNat)
      simp only [returns] at resultsEq runEq ⊢
      simp only [List.map_cons, results, run, List.foldl_cons, step, Engine.handle,
        resultEq, engineEq, machineEq]
      refine ⟨congrArg _ resultsEq, runEq.trans ?_⟩
      rw [Verdict.countP_prunes_cons, Nat.add_assoc]

/-- If all that some returns depend on has a solution, they may be handled in any
order.  Each has the result that it has alone; the counts and the machine are the
same in the end, and so are the test cases of each method up to order. -/
theorem returns_perm (reordered : events.Perm permuted)
    (solved : ∀ event ∈ events, engine.SolvedFor machine event) :
    let session : Session := { engine := engine, machine := machine }
    let alone (event : CallExit) := (engine.exit machine event).result
    let first := session.run (returns events)
    let second := session.run (returns permuted)
    session.results (returns events) = events.map alone ∧
      session.results (returns permuted) = permuted.map alone ∧
      second.engine.statistics = first.engine.statistics ∧
      first.engine.Alike second.engine ∧
      second.machine = first.machine := by
  intro session alone first second
  have solvedPermuted : ∀ event ∈ permuted, engine.SolvedFor machine event :=
    fun event member => solved event (reordered.mem_iff.mpr member)
  have verdictAlone : ∀ event, engine.SolvedFor machine event →
      (engine.verdict machine event).result = alone event := by
    intro event solved
    have exits := Engine.exits_verdict rfl rfl solved machine.ignoredBranches
    exact (Engine.exit_of_exits exits).1.symm
  obtain ⟨resultsEq, runEq⟩ := run_returns rfl rfl solved machine.ignoredBranches
  obtain ⟨permutedResultsEq, permutedRunEq⟩ :=
    run_returns rfl rfl solvedPermuted machine.ignoredBranches
  have verdicts := reordered.map (engine.verdict machine)
  have alike : first.engine.Alike second.engine := by
    have firstEq : first.engine = _ := congrArg Session.engine runEq
    have secondEq : second.engine = _ := congrArg Session.engine permutedRunEq
    rw [firstEq, secondEq]
    exact Engine.foldl_apply_perm verdicts (Engine.returning_verdict _ _ _) engine
  refine ⟨?_, ?_, ?_, alike, ?_⟩
  · rw [List.map_map] at resultsEq
    exact resultsEq.trans (List.map_congr_left fun event member =>
      verdictAlone event (solved event member))
  · rw [List.map_map] at permutedResultsEq
    exact permutedResultsEq.trans (List.map_congr_left fun event member =>
      verdictAlone event (solvedPermuted event member))
  · rw [alike.frame]
  · have firstEq : first.machine = _ := congrArg Session.machine runEq
    have secondEq : second.machine = _ := congrArg Session.machine permutedRunEq
    rw [firstEq, secondEq, verdicts.countP_eq]

/-- A method that is called twice, whose argument is symbolic. -/
def twiceMethod : Method :=
  { declaringClass := { name := "demo.Twice", hasDefaultConstructor := true }
    name := "twice"
    isStatic := true
    parameters :=
      [{ name := "n", type := .primitive .int, ordinal := 0, isReceiver := false }]
    returnType := .primitive .int
    thrown := [] }

/-- Every variable is solved. -/
def twiceMachine : Machine :=
  { Machine.new with
    solutions := fun source => .integer (Int64.ofNat source.number)
    tracked := fun _ => some [.symbolic] }

def twiceEntry (number : Nat) : Move :=
  .notify (.entered
    { activation := { number := number }
      method := twiceMethod
      arguments := [.symbolic { number := 7 }] })

/-- Both calls were entered. -/
def twiceSession : Session :=
  (start {} .empty twiceMachine).run [twiceEntry 1, twiceEntry 2]

/-- The first call returns what the second one does, but as a variable. -/
def twiceReturns : List CallExit :=
  [{ activation := { number := 1 }, returned := some (.symbolic { number := 7 }) },
    { activation := { number := 2 }, returned := some (.concrete (.integer 7)) }]

theorem returns_perm_twice :
    let engine := twiceSession.engine
    let machine := twiceSession.machine
    let first := twiceSession.run (returns twiceReturns)
    let second := twiceSession.run (returns twiceReturns.reverse)
    twiceReturns.Perm twiceReturns.reverse ∧
      (∀ event ∈ twiceReturns,
        (engine.snapshots.get? event.activation).isSome ∧
          engine.SolvedFor machine event) ∧
      second.engine.statistics = first.engine.statistics ∧
      first.engine.Alike second.engine ∧ second.machine = first.machine := by
  intro engine machine first second
  have permutation : twiceReturns.Perm twiceReturns.reverse :=
    (List.reverse_perm _).symm
  have tracked : ∀ event ∈ twiceReturns,
      (engine.snapshots.get? event.activation).isSome := by
    decide
  have solved : ∀ event ∈ twiceReturns, engine.SolvedFor machine event := by
    intro event _ snapshot _ captured _ source _ free
    cases free
  obtain ⟨_, _, statistics, alike, machines⟩ := returns_perm permutation solved
  exact ⟨permutation, fun event member => ⟨tracked event member, solved event member⟩,
    statistics, alike, machines⟩

end Session

end TestSynth
