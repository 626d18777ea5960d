import TestSynth.Proofs.Engine.Integrity
import TestSynth.Proofs.Engine.Reordering
import TestSynth.Proofs.Engine.Tracking
import TestSynth.Proofs.Resolution.Steadiness
import TestSynth.Proofs.TestCase.Construction

/-!
# Classification of arguments

How the arguments of a call are classified decides when they are resolved: concrete ones
when the call is entered, symbolic ones when it returns.  If the variables concerned have
solutions, the test case of the call is the same for every classification.
-/

namespace TestSynth

/-- Whether a slot was captured as a concrete value or as an array on the heap. -/
def Captured.isStored : Captured → Bool
  | .concrete _ | .array _ => true
  | .symbolic _ | .symbolicArray _ => false

namespace Machine

variable (machine : Machine) (method : Method) (kinds : List ArgumentKind)

theorem classify_trackWith_self :
    (machine.trackWith method kinds).classify method = some kinds :=
  overwrite_same _ _ _

/-- The classification of a method is no part of the model. -/
theorem knows_trackWith : (machine.trackWith method kinds).Knows machine :=
  { solutions := fun _ _ => rfl
    heap := rfl
    arraySolutions := rfl }

end Machine

namespace CallEntry

variable {entry : CallEntry} {kinds : List ArgumentKind}

theorem mem_of_ofKind {kind : ArgumentKind} {argument : Parameter × Captured}
    (member : argument ∈ entry.ofKind kinds kind) : argument.2 ∈ entry.arguments := by
  obtain ⟨reported, filtered, rfl⟩ := List.mem_map.mp member
  exact (List.of_mem_zip (List.mem_filter.mp filtered).1).2

end CallEntry

namespace Engine

open Resolution (Steady settle resolveReturn)

variable {symbolicArrays : Bool} {known machine between ended : Machine}
  {entry : CallEntry} {event : CallExit} {kinds : List ArgumentKind} {method : Method}
  {engine middle last : Engine} {test : TestCase}

/-- The arguments among those reported that are treated in a given way. -/
def treated (kind : ArgumentKind) (reported : List ((Parameter × ArgumentKind) × Captured)) :
    List (Parameter × Captured) :=
  (reported.filter (·.1.2 = kind)).map fun argument => (argument.1.1, argument.2)

theorem steady_captureArguments
    {reported : List ((Parameter × ArgumentKind) × Captured)}
    (stored : ∀ argument ∈ reported, argument.2.isStored = true)
    (solved : ∀ argument ∈ reported, known.Solves argument.2) :
    Steady (captureArguments symbolicArrays method reported) known
      (((treated .concrete reported).mapM (settle symbolicArrays known)).map
        (treated .symbolic reported, ·)) := by
  induction reported with
  | nil => exact .pure ([], [])
  | cons argument rest ih =>
      obtain ⟨here, laterStored⟩ := List.forall_mem_cons.mp stored
      obtain ⟨first, later⟩ := List.forall_mem_cons.mp solved
      rcases argument with ⟨⟨parameter, kind⟩, captured⟩
      have sorted := ih laterStored later
      cases kind with
      | symbolic =>
          refine (sorted.bind fun sorted =>
            .pure ((parameter, captured) :: sorted.1, sorted.2)).congr ?_
          change _ = ((treated .concrete rest).mapM (settle symbolicArrays known)).map
            ((parameter, captured) :: treated .symbolic rest, ·)
          cases (treated .concrete rest).mapM (settle symbolicArrays known) <;> rfl
      | concrete =>
          have resolved := (Resolution.decided_resolve symbolicArrays parameter.name
            parameter.type first).steady
          -- The check of what was captured comes first, and passes in both cases left.
          have both : Steady (do
                let value ← Resolution.resolve symbolicArrays parameter.name parameter.type
                  captured
                let sorted ← captureArguments symbolicArrays method rest
                return (sorted.1, (parameter, value) :: sorted.2)) known
              ((((parameter, captured) :: treated .concrete rest).mapM
                (settle symbolicArrays known)).map (treated .symbolic rest, ·)) := by
            refine (resolved.bind fun value => sorted.bind fun sorted =>
              .pure (sorted.1, (parameter, value) :: sorted.2)).congr ?_
            rw [List.mapM_cons, settle]
            cases (Resolution.resolve symbolicArrays parameter.name parameter.type
              captured).resultOn known with
            | error fault => rfl
            | ok value =>
                cases (treated .concrete rest).mapM (settle symbolicArrays known) <;> rfl
          cases captured with
          | concrete value => exact both
          | array handle => exact both
          | symbolic source | symbolicArray source => cases here

/-- The snapshot that keeps the symbolic arguments of a call, and what the concrete ones came
to. -/
def snapshotOf (entry : CallEntry) (kinds : List ArgumentKind)
    (concrete : List (Parameter × Value)) : Snapshot :=
  { method := entry.method
    symbolic := entry.ofKind kinds .symbolic
    concrete := concrete }

variable {owner : DeclaringClass} {name : String} {isStatic : Bool}
  {parameters : List (String × JavaType)} {returnType : JavaType} {thrown : List String}

theorem build_snapshotOf
    (declared : Method.declare owner name isStatic parameters returnType thrown =
      .ok entry.method)
    (kindCount : kinds.length = entry.method.arguments.length)
    (argumentCount : entry.arguments.length = entry.method.arguments.length)
    {concrete : List (Parameter × Value)}
    (bound : concrete.map (·.1) = (entry.ofKind kinds .concrete).map (·.1)) :
    Snapshot.build entry.method (entry.ofKind kinds .symbolic) concrete =
      .ok (snapshotOf entry kinds concrete) := by
  have binds := CallEntry.parameters_ofKind_perm kindCount argumentCount
  rw [← bound] at binds
  have covered : entry.method.Covered
      ((entry.ofKind kinds .symbolic).map (·.1) ++ concrete.map (·.1)) := by
    constructor
    · intro parameter member
      have argument := (List.mem_filter.mp (binds.mem_iff.mp member)).2
      simpa using argument
    · exact .inl (binds.map (·.ordinal))
  obtain ⟨snapshot, built⟩ := (Snapshot.exists_build_iff fun parameter member =>
    (Method.lt_length_iff_of_declare declared).mpr (.inl (List.mem_map_of_mem member))).mpr
      (covered.occupied declared)
  rw [(Snapshot.build_eq_ok built).1] at built
  exact built

/-- What the arguments of a call come to if they are resolved when the call is entered. -/
theorem steady_capture
    (declared : Method.declare owner name isStatic parameters returnType thrown =
      .ok entry.method)
    (stored : ∀ captured ∈ entry.arguments, captured.isStored = true)
    (solved : ∀ captured ∈ entry.arguments, known.Solves captured)
    (kindCount : kinds.length = entry.method.arguments.length)
    (argumentCount : entry.arguments.length = entry.method.arguments.length) :
    Steady (capture symbolicArrays entry kinds) known
      (((entry.ofKind kinds .concrete).mapM (settle symbolicArrays known)).map
        (snapshotOf entry kinds)) := by
  have sorted : Steady (captureArguments symbolicArrays entry.method (entry.reported kinds))
      known _ :=
    steady_captureArguments (fun argument member => stored _ (List.of_mem_zip member).2)
      fun argument member => solved _ (List.of_mem_zip member).2
  have counted : ¬ (kinds.length ≠ entry.method.arguments.length ∨
      entry.arguments.length ≠ entry.method.arguments.length) := by
    simp [kindCount, argumentCount]
  simp only [capture, if_neg counted]
  refine (sorted.bind fun sorted =>
    .ofExcept (Snapshot.build entry.method sorted.1 sorted.2)).congr ?_
  change ((entry.ofKind kinds .concrete).mapM (settle symbolicArrays known)).map
    (entry.ofKind kinds .symbolic, ·) >>= _ = _
  cases settled : (entry.ofKind kinds .concrete).mapM (settle symbolicArrays known) with
  | error fault => rfl
  | ok concrete =>
      exact build_snapshotOf declared kindCount argumentCount
        (Resolution.parameters_of_settle settled)

/-- What the return of a call comes to, with the arguments that are resolved only then. -/
def settleExit (symbolicArrays : Bool) (machine : Machine) (snapshot : Snapshot)
    (returned : Option Captured) : Except Fault TestCase := do
  let outcome ← (resolveReturn symbolicArrays snapshot.method returned).resultOn machine
  let values ← snapshot.symbolic.mapM (settle symbolicArrays machine)
  TestCase.build snapshot.method
    ((values ++ snapshot.concrete).mergeSort
      fun left right => left.1.ordinal ≤ right.1.ordinal) outcome

theorem steady_resolveExit {snapshot : Snapshot} {returned : Option Captured}
    (solvedReturn : ∀ captured ∈ returned, known.Solves captured)
    (solved : ∀ argument ∈ snapshot.symbolic, known.Solves argument.2) :
    Steady (resolveExit symbolicArrays snapshot returned) known
      (settleExit symbolicArrays known snapshot returned) := by
  have outcome :=
    (Resolution.decided_resolveReturn symbolicArrays snapshot.method solvedReturn).steady
  have arguments := Resolution.steady_resolveArguments symbolicArrays solved
  refine (outcome.bind fun outcome => (arguments.bind fun values => .pure
    ((values ++ snapshot.concrete).mergeSort
      fun left right => left.1.ordinal ≤ right.1.ordinal)).bind fun given =>
    .ofExcept (TestCase.build snapshot.method given outcome)).congr ?_
  unfold settleExit
  cases snapshot.symbolic.mapM (settle symbolicArrays known) <;> rfl

/-- The test case that a call comes to if its arguments are read in order of declaration. -/
structure ComesTo (symbolicArrays : Bool) (known : Machine) (entry : CallEntry)
    (returned : Option Captured) (test : TestCase) : Prop where
  argumentCount : entry.arguments.length = entry.method.arguments.length
  built : ∃ given outcome,
    entry.bindings.mapM (settle symbolicArrays known) = .ok given ∧
      (resolveReturn symbolicArrays entry.method returned).resultOn known = .ok outcome ∧
      TestCase.build entry.method given outcome = .ok test

/-- The symbolic and the concrete arguments come to what all arguments come to together. -/
theorem settle_perm (kindCount : kinds.length = entry.method.arguments.length)
    {given : List (Parameter × Value)} :
    (∃ values concrete,
      (entry.ofKind kinds .symbolic).mapM (settle symbolicArrays known) = .ok values ∧
        (entry.ofKind kinds .concrete).mapM (settle symbolicArrays known) = .ok concrete ∧
        (values ++ concrete).Perm given) ↔
      ∃ ordered, entry.bindings.mapM (settle symbolicArrays known) = .ok ordered ∧
        ordered.Perm given := by
  have partition := @CallEntry.ofKind_perm entry kinds kindCount
  constructor
  · rintro ⟨values, concrete, symbolicSettled, concreteSettled, permuted⟩
    have related := List.rel_append (mapM_eq_ok_iff.mp symbolicSettled)
      (mapM_eq_ok_iff.mp concreteSettled)
    obtain ⟨ordered, orderedRelated, reordered⟩ :=
      List.perm_comp_forall₂ partition.symm related
    exact ⟨ordered, mapM_eq_ok_iff.mpr orderedRelated, reordered.trans permuted⟩
  · rintro ⟨ordered, settled, permuted⟩
    obtain ⟨both, bothRelated, reordered⟩ :=
      List.perm_comp_forall₂ partition (mapM_eq_ok_iff.mp settled)
    have bothSettled := mapM_eq_ok_iff.mpr bothRelated
    rw [List.mapM_append] at bothSettled
    obtain ⟨values, symbolicSettled, rest⟩ := bind_eq_ok_iff.mp bothSettled
    obtain ⟨concrete, concreteSettled, last⟩ := bind_eq_ok_iff.mp rest
    cases last
    exact ⟨values, concrete, symbolicSettled, concreteSettled, reordered.trans permuted⟩

/-- However the arguments are classified, the call comes to the same test case. -/
theorem settleExit_eq_ok_iff (distinct : (entry.method.arguments.map (·.ordinal)).Nodup)
    (kindCount : kinds.length = entry.method.arguments.length)
    (argumentCount : entry.arguments.length = entry.method.arguments.length)
    {returned : Option Captured} :
    (∃ concrete,
      (entry.ofKind kinds .concrete).mapM (settle symbolicArrays known) = .ok concrete ∧
        settleExit symbolicArrays known (snapshotOf entry kinds concrete) returned =
          .ok test) ↔
      ComesTo symbolicArrays known entry returned test := by
  constructor
  -- Sorting by ordinal is one more permutation, so no fact about the order is needed.
  · rintro ⟨concrete, concreteSettled, settled⟩
    obtain ⟨outcome, returns, rest⟩ := bind_eq_ok_iff.mp settled
    obtain ⟨values, symbolicSettled, built⟩ := bind_eq_ok_iff.mp rest
    obtain ⟨given, givenSettled, permuted⟩ := (settle_perm kindCount).mp
      ⟨values, concrete, symbolicSettled, concreteSettled, (List.mergeSort_perm _ _).symm⟩
    exact ⟨argumentCount, given, outcome, givenSettled, returns,
      TestCase.build_perm distinct built permuted⟩
  · rintro ⟨_, given, outcome, givenSettled, returns, built⟩
    obtain ⟨values, concrete, symbolicSettled, concreteSettled, permuted⟩ :=
      (settle_perm kindCount).mpr ⟨given, givenSettled, .refl given⟩
    refine ⟨concrete, concreteSettled, bind_eq_ok_iff.mpr ⟨outcome, returns,
      bind_eq_ok_iff.mpr ⟨values, symbolicSettled, ?_⟩⟩⟩
    exact TestCase.build_perm distinct built ((List.mergeSort_perm _ _).trans permuted)

/-- The entry of a call either leaves a snapshot with what the concrete arguments come to, or
they come to nothing. -/
theorem Enters.of_steady {entered : Except Fault Unit}
    (enters : Enters entry engine machine entered middle between)
    (untracked : engine.tracks entry.activation = false)
    (classified : machine.classify entry.method = some kinds)
    (admissible : entry.method.checkSignature = .ok ()) (knows : machine.Knows known)
    {result : Except Fault Snapshot}
    (steady : Steady (capture engine.config.symbolicArrays entry kinds) known result) :
    (∃ snapshot, result = .ok snapshot ∧ between = machine ∧
      middle.snapshots.get? entry.activation = some snapshot) ∨
      ((∀ snapshot, result ≠ .ok snapshot) ∧
        middle.snapshots.get? entry.activation = none) := by
  have absent : engine.snapshots.get? entry.activation = none :=
    SnapshotTable.contains_eq_false_iff.mp untracked
  cases enters with
  | known tracked => cases untracked.symm.trans tracked
  | unclassified unclassified => cases classified.symm.trans unclassified
  | refused _ _ refused => cases admissible.symm.trans refused
  | skipped _ given ended _ | stopped _ given ended _ =>
      cases classified.symm.trans given
      refine .inr ⟨?_, absent⟩
      rintro snapshot same
      cases (steady.ends_eq knows ended).1.trans same
  | captured _ given _ ended =>
      cases classified.symm.trans given
      obtain ⟨same, unchanged⟩ := steady.ends_eq knows ended
      exact .inl ⟨_, same.symm, unchanged, SnapshotTable.get?_attach_self absent⟩

/-- A call is entered and returns, and nothing else happens to the machine in between. -/
def call (engine : Engine) (machine : Machine) (entry : CallEntry)
    (returned : Option Captured) : Response :=
  let response := engine.enter machine entry
  response.engine.exit response.machine
    { activation := entry.activation, returned := returned }

/-- The test case comes of the return of the call. -/
def Emits (engine : Engine) (machine : Machine) (entry : CallEntry)
    (returned : Option Captured) (test : TestCase) : Prop :=
  let response := engine.enter machine entry
  response.engine.Yields response.machine
    { activation := entry.activation, returned := returned } test

variable {returned : Option Captured} {exited : Except Fault Unit}

theorem Exits.collection_of_not_yields
    (exits : Exits event engine machine exited last ended)
    (fruitless : ∀ test, ¬ engine.Yields machine event test) :
    last.collection = engine.collection := by
  cases exits with
  | recorded tracked solvable resolved =>
      exact absurd ⟨_, _, tracked, solvable, resolved⟩ (fruitless _)
  | _ => rfl

theorem collection_of_emits (emits : engine.Emits machine entry returned test) :
    (engine.call machine entry returned).engine.collection =
      engine.collection.insert test := by
  rw [call, (record_of_yields emits).2, collection_record,
    (enters_enter engine machine entry).collection]

theorem collection_of_not_emits
    (silent : ∀ test, ¬ engine.Emits machine entry returned test) :
    (engine.call machine entry returned).engine.collection = engine.collection := by
  rw [← (enters_enter engine machine entry).collection, call]
  exact Exits.collection_of_not_yields (exits_exit _ _ _) silent

section Solved

variable
  (untracked : engine.tracks entry.activation = false)
  (declared : Method.declare owner name isStatic parameters returnType thrown =
    .ok entry.method)
  (admissible : entry.method.checkSignature = .ok ())
  (solvable : machine.pathCondition = some true)
  (stored : ∀ captured ∈ entry.arguments, captured.isStored = true)
  (solved : ∀ captured ∈ entry.arguments ++ returned.toList, machine.Solves captured)

include untracked declared admissible solvable stored solved

/-- The test case that a call emits is the one that it comes to, which does not depend on the
classification of its arguments. -/
theorem emits_iff (kindCount : kinds.length = entry.method.arguments.length) :
    engine.Emits (machine.trackWith entry.method kinds) entry returned test ↔
      ComesTo engine.config.symbolicArrays machine entry returned test := by
  obtain ⟨argumentsSolved, returnSolved⟩ := List.forall_mem_append.mp solved
  have knows := machine.knows_trackWith entry.method kinds
  have enters := enters_enter engine (machine.trackWith entry.method kinds) entry
  by_cases argumentCount : entry.arguments.length = entry.method.arguments.length
  · have accepts : _ ↔ ComesTo engine.config.symbolicArrays machine entry returned test :=
      settleExit_eq_ok_iff (Method.distinct_of_declare declared) kindCount argumentCount
    rcases enters.of_steady untracked (machine.classify_trackWith_self entry.method kinds)
        admissible knows
        (steady_capture declared stored argumentsSolved kindCount argumentCount) with
      ⟨snapshot, captured, unchanged, tracked⟩ | ⟨failed, absent⟩
    · obtain ⟨concrete, settled, rfl⟩ := map_eq_ok_iff.mp captured
      have steady : Steady (resolveExit engine.config.symbolicArrays
          (snapshotOf entry kinds concrete) returned) machine _ :=
        steady_resolveExit
          (fun captured given => returnSolved captured (Option.mem_toList.mpr given))
          fun argument member => argumentsSolved _ (CallEntry.mem_of_ofKind member)
      rw [← accepts]
      constructor
      · rintro ⟨found, world, foundTracked, _, ended⟩
        cases tracked.symm.trans foundTracked
        rw [unchanged, enters.settings.1] at ended
        exact ⟨concrete, settled, (steady.ends_eq knows ended).1.symm⟩
      · rintro ⟨_, settledToo, result⟩
        cases settled.symm.trans settledToo
        obtain ⟨log, ended⟩ := steady
          { machine := machine.trackWith entry.method kinds, log := [] } knows
        have reached : (engine.enter (machine.trackWith entry.method kinds)
            entry).machine.pathCondition = some true := by
          rw [unchanged]
          exact solvable
        rw [result, ← unchanged, ← enters.settings.1] at ended
        exact ⟨_, _, tracked, reached, ended⟩
    · apply iff_of_false
      · rintro ⟨_, _, tracked, _⟩
        cases absent.symm.trans tracked
      · intro comes
        obtain ⟨concrete, settled, _⟩ := accepts.mpr comes
        exact failed _ (map_eq_ok_iff.mpr ⟨concrete, settled, rfl⟩)
  · apply iff_of_false
    · rintro ⟨_, _, tracked, _⟩
      rcases enters.get? tracked with known | ⟨_, _, _, _, captures⟩
      · cases known.symm.trans (SnapshotTable.contains_eq_false_iff.mp untracked)
      · exact argumentCount captures.argumentCount
    · intro comes
      exact argumentCount comes.argumentCount

/-- A call of which all arguments were captured as values or as arrays on the heap, with
solutions for all variables concerned, adds the same to the collection however its arguments
are classified.  Either it emits the same test case under both classifications, with the
arguments in order of declaration, or it emits none under both. -/
theorem call_classification (left right : List ArgumentKind)
    (leftCount : left.length = entry.method.arguments.length)
    (rightCount : right.length = entry.method.arguments.length) :
    let one := machine.trackWith entry.method left
    let other := machine.trackWith entry.method right
    (engine.call one entry returned).engine.collection =
        (engine.call other entry returned).engine.collection ∧
      ((∃ test, test.arguments.map (·.parameter) = entry.method.arguments ∧
          engine.Emits one entry returned test ∧ engine.Emits other entry returned test ∧
          (engine.call one entry returned).engine.collection =
            engine.collection.insert test) ∨
        ((∀ test, ¬ engine.Emits one entry returned test) ∧
          (∀ test, ¬ engine.Emits other entry returned test) ∧
          (engine.call one entry returned).engine.collection = engine.collection)) := by
  intro one other
  have leftEmits {test : TestCase} : engine.Emits one entry returned test ↔ _ :=
    emits_iff untracked declared admissible solvable stored solved leftCount
  have rightEmits {test : TestCase} : engine.Emits other entry returned test ↔ _ :=
    emits_iff untracked declared admissible solvable stored solved rightCount
  by_cases emitted : ∃ test, engine.Emits one entry returned test
  · obtain ⟨test, emits⟩ := emitted
    have comes := leftEmits.mp emits
    have emitsToo := rightEmits.mpr comes
    have collected := collection_of_emits emits
    refine ⟨collected.trans (collection_of_emits emitsToo).symm,
      .inl ⟨test, ?_, emits, emitsToo, collected⟩⟩
    obtain ⟨_, _, _, _, _, built⟩ := comes
    exact TestCase.parameters_of_build (Method.ascending_of_declare declared) built
  · have silent := not_exists.mp emitted
    have silentToo : ∀ test, ¬ engine.Emits other entry returned test :=
      fun test emits => silent test (leftEmits.mpr (rightEmits.mp emits))
    have collected := collection_of_not_emits silent
    exact ⟨collected.trans (collection_of_not_emits silentToo).symm,
      .inr ⟨silent, silentToo, collected⟩⟩

end Solved

/-- A method that scales the elements of an array. -/
def scaleMethod : Method :=
  { declaringClass := { name := "demo.Vectors", hasDefaultConstructor := true }
    name := "scale"
    isStatic := true
    parameters :=
      [{ name := "xs", type := .array (.primitive .int), ordinal := 0, isReceiver := false },
        { name := "factor", type := .primitive .int, ordinal := 1, isReceiver := false }]
    returnType := .primitive .boolean
    thrown := [] }

/-- Every variable is solved, and the array has a symbolic element. -/
def scaleMachine : Machine :=
  { Machine.new with
    solutions := fun source => .integer (Int64.ofNat source.number)
    heap := fun _ =>
      some { element := .primitive .int
             slots := [.symbolic { number := 5 }, { value := .integer 2, source := none }] } }

def scaleEntry : CallEntry :=
  { activation := { number := 1 }
    method := scaleMethod
    arguments := [.array { number := 0 }, .concrete (.integer 3)] }

theorem call_classification_scale :
    let engine := Engine.new {} .empty
    let returned := some (.symbolic { number := 1 })
    let one := scaleMachine.trackWith scaleMethod [.symbolic, .concrete]
    let other := scaleMachine.trackWith scaleMethod [.concrete, .symbolic]
    (∀ captured ∈ scaleEntry.arguments, captured.isStored = true) ∧
      (engine.call one scaleEntry returned).engine.collection =
        (engine.call other scaleEntry returned).engine.collection ∧
      ∃ test, engine.Emits one scaleEntry returned test := by
  intro engine returned one other
  have declared : Method.declare { name := "demo.Vectors", hasDefaultConstructor := true }
      "scale" true [("xs", .array (.primitive .int)), ("factor", .primitive .int)]
      (.primitive .boolean) [] = .ok scaleMethod := rfl
  have stored : ∀ captured ∈ scaleEntry.arguments, captured.isStored = true := by decide
  have solved : ∀ captured ∈ scaleEntry.arguments ++ returned.toList,
      scaleMachine.Solves captured := by
    intro captured _ source _ free
    cases free
  have untracked : engine.tracks scaleEntry.activation = false := rfl
  have same := call_classification untracked declared rfl rfl stored solved
    [.symbolic, .concrete] [.concrete, .symbolic] rfl rfl
  have comes : ∃ test, ComesTo false scaleMachine scaleEntry returned test :=
    ⟨_, rfl, _, _, rfl, rfl, rfl⟩
  obtain ⟨test, comes⟩ := comes
  have kindCount : [ArgumentKind.symbolic, .concrete].length =
      scaleEntry.method.arguments.length := rfl
  exact ⟨stored, same.1, test,
    (emits_iff untracked declared rfl rfl stored solved kindCount).mpr comes⟩

end Engine

end TestSynth
