import TestSynth.Proofs.Resolution.Reading
import TestSynth.Proofs.Snapshot.Covering
import TestSynth.Proofs.TestCase.Binding

/-!
# Capture of calls

A snapshot keeps the symbolic arguments of a call as they were reported and a
reading of each concrete one.  Together they are the arguments of the method, so
that a test case can be built from any resolution of the snapshot.
-/

namespace TestSynth

/-- The arguments of a call with what is reported of them. -/
def CallEntry.reported (entry : CallEntry) (kinds : List ArgumentKind) :
    List ((Parameter × ArgumentKind) × Captured) :=
  (entry.method.arguments.zip kinds).zip entry.arguments

/-- The arguments of a call that are treated in a given way. -/
def CallEntry.ofKind (entry : CallEntry) (kinds : List ArgumentKind)
    (kind : ArgumentKind) : List (Parameter × Captured) :=
  ((entry.reported kinds).filter (·.1.2 = kind)).map fun argument =>
    (argument.1.1, argument.2)

/-- The arguments of the method with what was captured for them, in order of declaration. -/
def CallEntry.bindings (entry : CallEntry) : List (Parameter × Captured) :=
  entry.method.arguments.zip entry.arguments

/-- What a snapshot of a call keeps, in terms of the machine after capture. -/
structure Machine.Captures (machine : Machine) (entry : CallEntry)
    (kinds : List ArgumentKind) (snapshot : Snapshot) : Prop where
  method : snapshot.method = entry.method
  kindCount : kinds.length = entry.method.arguments.length
  argumentCount : entry.arguments.length = entry.method.arguments.length
  symbolic : snapshot.symbolic = entry.ofKind kinds .symbolic
  concrete : List.Forall₂ machine.ReadsArgument (entry.ofKind kinds .concrete)
    snapshot.concrete
  distinct :
    ((snapshot.symbolic.map (·.1) ++ snapshot.concrete.map (·.1)).map
      (·.ordinal)).Nodup

namespace Engine

variable {symbolicArrays : Bool} {world after : World}

/-- A concrete argument is resolved first, and only if it was reported as a
concrete value or as a heap array. -/
theorem ends_captureArguments_concrete {method : Method} {parameter : Parameter}
    {captured : Captured} {rest : List ((Parameter × ArgumentKind) × Captured)}
    {symbolic : List (Parameter × Captured)} {concrete : List (Parameter × Value)}
    (ended : (captureArguments symbolicArrays method
      (((parameter, .concrete), captured) :: rest)).Ends world
        (.ok (symbolic, concrete)) after) :
    ∃ value middle fixed,
      (Resolution.resolve symbolicArrays parameter.name parameter.type
          captured).Ends world (.ok value) middle ∧
        (captureArguments symbolicArrays method rest).Ends middle
          (.ok (symbolic, fixed)) after ∧
        concrete = (parameter, value) :: fixed := by
  cases captured with
  | symbolic _ | symbolicArray _ =>
      obtain ⟨_, _, impossible, _⟩ := Resolution.ends_bind_ok_iff.mp ended
      cases (Resolution.ends_throw_iff.mp impossible).1
  | concrete _ | array _ =>
      obtain ⟨value, middle, valueEnds, ended⟩ :=
        Resolution.ends_bind_ok_iff.mp ended
      obtain ⟨⟨others, fixed⟩, _, restEnds, last⟩ :=
        Resolution.ends_bind_ok_iff.mp ended
      obtain ⟨same, rfl⟩ := Resolution.ends_pure_iff.mp last
      cases same
      exact ⟨value, middle, fixed, valueEnds, restEnds, rfl⟩

theorem reads_of_captureArguments {method : Method}
    {arguments : List ((Parameter × ArgumentKind) × Captured)}
    {symbolic : List (Parameter × Captured)} {concrete : List (Parameter × Value)}
    (ended : (captureArguments symbolicArrays method arguments).Ends world
      (.ok (symbolic, concrete)) after) :
    symbolic = (arguments.filter (·.1.2 = .symbolic)).map
        (fun argument => (argument.1.1, argument.2)) ∧
      List.Forall₂ after.machine.ReadsArgument
        ((arguments.filter (·.1.2 = .concrete)).map
          fun argument => (argument.1.1, argument.2))
        concrete := by
  induction arguments generalizing world symbolic concrete with
  | nil =>
      obtain ⟨same, _⟩ := Resolution.ends_pure_iff.mp ended
      cases same
      exact ⟨rfl, .nil⟩
  | cons argument rest ih =>
      rcases argument with ⟨⟨parameter, kind⟩, captured⟩
      cases kind with
      | symbolic =>
          obtain ⟨⟨others, fixed⟩, middle, restEnds, last⟩ :=
            Resolution.ends_bind_ok_iff.mp ended
          obtain ⟨same, rfl⟩ := Resolution.ends_pure_iff.mp last
          cases same
          obtain ⟨rfl, reads⟩ := ih restEnds
          exact ⟨rfl, reads⟩
      | concrete =>
          obtain ⟨value, middle, fixed, valueEnds, restEnds, rfl⟩ :=
            ends_captureArguments_concrete ended
          obtain ⟨rfl, reads⟩ := ih restEnds
          -- What was read before the rest is still read after it.
          have extension :=
            (composed_captureArguments symbolicArrays method rest).settles.fills
              restEnds
          have valueReads := (Resolution.reads_of_resolve valueEnds).mono extension
          exact ⟨rfl, .cons ⟨rfl, valueReads⟩ reads⟩

theorem captures_of_capture {entry : CallEntry} {kinds : List ArgumentKind}
    {snapshot : Snapshot}
    (ended : (capture symbolicArrays entry kinds).Ends world
      (.ok snapshot) after) :
    after.machine.Captures entry kinds snapshot := by
  by_cases miscounted : kinds.length ≠ entry.method.arguments.length ∨
      entry.arguments.length ≠ entry.method.arguments.length
  · simp only [capture, if_pos miscounted] at ended
    obtain ⟨_, _, impossible, _⟩ := Resolution.ends_bind_ok_iff.mp ended
    cases (Resolution.ends_throw_iff.mp impossible).1
  · simp only [capture, if_neg miscounted] at ended
    obtain ⟨⟨symbolic, concrete⟩, middle, sortEnds, last⟩ :=
      Resolution.ends_bind_ok_iff.mp ended
    obtain ⟨built, rfl⟩ := Resolution.ends_ofExcept_iff.mp last
    obtain ⟨rfl, distinct⟩ := Snapshot.build_eq_ok built.symm
    obtain ⟨symbolicKept, concreteReads⟩ := reads_of_captureArguments sortEnds
    simp only [not_or, Decidable.not_not] at miscounted
    exact {
      method := rfl
      kindCount := miscounted.1
      argumentCount := miscounted.2
      symbolic := symbolicKept
      concrete := concreteReads
      distinct := distinct }

end Engine

namespace CallEntry

variable {entry : CallEntry} {kinds : List ArgumentKind}

theorem parameters_reported
    (kindCount : kinds.length = entry.method.arguments.length)
    (argumentCount : entry.arguments.length = entry.method.arguments.length) :
    (entry.reported kinds).map (·.1.1) = entry.method.arguments := by
  have pairs : (entry.reported kinds).map (·.1) =
      entry.method.arguments.zip kinds := by
    apply List.map_fst_zip
    simp [kindCount, argumentCount]
  have firsts : (entry.method.arguments.zip kinds).map (·.1) =
      entry.method.arguments := by
    apply List.map_fst_zip
    simp [kindCount]
  rw [← pairs, List.map_map] at firsts
  exact firsts

theorem bindings_of_reported (kindCount : kinds.length = entry.method.arguments.length) :
    (entry.reported kinds).map (fun argument => (argument.1.1, argument.2)) =
      entry.bindings := by
  have firsts : (entry.method.arguments.zip kinds).map (·.1) = entry.method.arguments :=
    List.map_fst_zip (Nat.le_of_eq kindCount.symm)
  rw [bindings, ← congrArg (·.zip entry.arguments) firsts, List.zip_map_left]
  rfl

/-- Each argument is treated in one of the two ways. -/
theorem ofKind_perm (kindCount : kinds.length = entry.method.arguments.length) :
    (entry.ofKind kinds .symbolic ++ entry.ofKind kinds .concrete).Perm entry.bindings := by
  have others : (fun argument : (Parameter × ArgumentKind) × Captured =>
        decide (argument.1.2 = .concrete)) =
      fun argument => !decide (argument.1.2 = .symbolic) := by
    funext argument
    cases argument.1.2 <;> rfl
  have partition := (List.filter_append_perm
    (fun argument => decide (argument.1.2 = .symbolic))
    (entry.reported kinds)).map fun argument => (argument.1.1, argument.2)
  rw [List.map_append, bindings_of_reported kindCount] at partition
  simp only [ofKind, others]
  exact partition

theorem parameters_ofKind_perm
    (kindCount : kinds.length = entry.method.arguments.length)
    (argumentCount : entry.arguments.length = entry.method.arguments.length) :
    ((entry.ofKind kinds .symbolic).map (·.1) ++
      (entry.ofKind kinds .concrete).map (·.1)).Perm entry.method.arguments := by
  have parameters : entry.bindings.map (·.1) = entry.method.arguments :=
    List.map_fst_zip (Nat.le_of_eq argumentCount.symm)
  rw [← List.map_append, ← parameters]
  exact (ofKind_perm kindCount).map (·.1)

/-- A parameter is treated in one way, and one value is reported for it. -/
theorem eq_of_mem_ofKind
    (kindCount : kinds.length = entry.method.arguments.length)
    (argumentCount : entry.arguments.length = entry.method.arguments.length)
    (distinct : (entry.method.arguments.map (·.ordinal)).Nodup)
    {parameter : Parameter} {left right : Captured}
    {leftKind rightKind : ArgumentKind}
    (leftMember : (parameter, left) ∈ entry.ofKind kinds leftKind)
    (rightMember : (parameter, right) ∈ entry.ofKind kinds rightKind) :
    leftKind = rightKind ∧ left = right := by
  have reportedMember : ∀ {kind captured},
      (parameter, captured) ∈ entry.ofKind kinds kind →
        ((parameter, kind), captured) ∈ entry.reported kinds := by
    intro kind captured member
    obtain ⟨argument, filtered, same⟩ := List.mem_map.mp member
    obtain ⟨known, ofKind⟩ := List.mem_filter.mp filtered
    obtain ⟨rfl, rfl⟩ := Prod.mk.inj same
    rw [← of_decide_eq_true ofKind]
    exact known
  rw [← parameters_reported kindCount argumentCount, List.map_map] at distinct
  have same := List.inj_on_of_nodup_map distinct (reportedMember leftMember)
    (reportedMember rightMember) rfl
  obtain ⟨pairs, rfl⟩ := Prod.mk.inj same
  exact ⟨(Prod.mk.inj pairs).2, rfl⟩

end CallEntry

/-- The arguments kept symbolically and concretely are those of the method. -/
theorem Machine.Captures.binds {machine : Machine} {entry : CallEntry}
    {kinds : List ArgumentKind} {snapshot : Snapshot}
    (captures : machine.Captures entry kinds snapshot) :
    (snapshot.symbolic.map (·.1) ++ snapshot.concrete.map (·.1)).Perm
      snapshot.method.arguments := by
  rw [captures.symbolic, Machine.parameters_of_reads captures.concrete,
    captures.method]
  exact CallEntry.parameters_ofKind_perm captures.kindCount
    captures.argumentCount

/-- A snapshot from which a well-typed test case can be built. -/
structure Snapshot.Sound (snapshot : Snapshot) : Prop where
  admissible : snapshot.method.checkSignature = .ok ()
  binds : (snapshot.symbolic.map (·.1) ++ snapshot.concrete.map (·.1)).Perm
    snapshot.method.arguments
  distinct : (snapshot.method.arguments.map (·.ordinal)).Nodup
  typed : ∀ item ∈ snapshot.concrete, item.2.HasType item.1.type

/-- A test case with readings of the symbolic arguments of a snapshot and its
concrete ones. -/
structure Machine.Realizes (machine : Machine) (snapshot : Snapshot)
    (outcome : Outcome) (test : TestCase) : Prop where
  method : test.method = snapshot.method
  outcome : test.outcome = outcome
  arguments : ∃ values,
    List.Forall₂ machine.ReadsArgument snapshot.symbolic values ∧
      (test.arguments.map Argument.pair).Perm (values ++ snapshot.concrete)
  ascending : Argument.Ascending test.arguments

theorem Machine.typed_of_reads {machine : Machine}
    {arguments : List (Parameter × Captured)} {values : List (Parameter × Value)}
    (reads : List.Forall₂ machine.ReadsArgument arguments values) :
    ∀ item ∈ values, item.2.HasType item.1.type := by
  induction reads with
  | nil =>
      intro item member
      cases member
  | cons first _ ih =>
      intro item member
      rcases List.mem_cons.mp member with rfl | member
      · rw [first.1]
        exact first.2.hasType
      · exact ih item member

theorem Machine.Captures.sound {machine : Machine} {entry : CallEntry}
    {kinds : List ArgumentKind} {snapshot : Snapshot}
    (captures : machine.Captures entry kinds snapshot)
    (admissible : entry.method.checkSignature = .ok ()) : snapshot.Sound := by
  constructor
  · rw [captures.method]
    exact admissible
  · exact captures.binds
  · exact (captures.binds.map (·.ordinal)).nodup_iff.mp captures.distinct
  · exact Machine.typed_of_reads captures.concrete

theorem Machine.Realizes.wellTyped {machine : Machine} {snapshot : Snapshot}
    {outcome : Outcome} {test : TestCase}
    (realizes : machine.Realizes snapshot outcome test)
    (sound : snapshot.Sound) (fits : outcome.Fits snapshot.method.returnType) :
    test.WellTyped := by
  obtain ⟨values, reads, permutation⟩ := realizes.arguments
  constructor
  · rw [realizes.method]
    exact sound.admissible
  · have parameters := permutation.map (·.1)
    rw [List.map_append, Machine.parameters_of_reads reads,
      List.map_map] at parameters
    rw [realizes.method]
    exact parameters.trans sound.binds
  · exact realizes.ascending
  · intro argument member
    have given := permutation.mem_iff.mp
      (List.mem_map_of_mem (f := Argument.pair) member)
    rcases List.mem_append.mp given with resolved | fixed
    · exact Machine.typed_of_reads reads _ resolved
    · exact sound.typed _ fixed
  · rw [realizes.outcome, realizes.method]
    exact fits

namespace Engine

variable {symbolicArrays : Bool} {world after : World}

theorem realizes_of_resolveTest {snapshot : Snapshot} {outcome : Outcome}
    {test : TestCase}
    (ended : (resolveTest symbolicArrays snapshot outcome).Ends world
      (.ok test) after) :
    after.machine.Realizes snapshot outcome test := by
  obtain ⟨given, middle, givenEnds, last⟩ :=
    Resolution.ends_bind_ok_iff.mp ended
  obtain ⟨built, rfl⟩ := Resolution.ends_ofExcept_iff.mp last
  obtain ⟨method, outcomeKept, sorted, ascending⟩ :=
    TestCase.build_eq_ok built.symm
  obtain ⟨values, reads, permutation⟩ :=
    Resolution.reads_of_resolveSnapshot givenEnds
  exact {
    method := method
    outcome := outcomeKept
    arguments := ⟨values, reads, sorted.trans permutation⟩
    ascending := ascending }

/-- What is resolved from a sound snapshot is accepted as a test case. -/
theorem exists_build_of_resolveSnapshot {snapshot : Snapshot}
    {given : List (Parameter × Value)} {outcome : Outcome}
    (sound : snapshot.Sound) (fits : outcome.Fits snapshot.method.returnType)
    (ended : (Resolution.resolveSnapshot symbolicArrays snapshot).Ends world
      (.ok given) after) :
    ∃ test, TestCase.build snapshot.method given outcome = .ok test := by
  obtain ⟨values, reads, permutation⟩ :=
    Resolution.reads_of_resolveSnapshot ended
  apply TestCase.exists_build_eq_ok _ sound.distinct fits.suits
  have parameters := permutation.map (·.1)
  rw [List.map_append, Machine.parameters_of_reads reads] at parameters
  exact parameters.trans sound.binds

end Engine

end TestSynth
