import Mathlib.Data.List.Forall2
import TestSynth.Proofs.Resolution.Reading

/-!
# Defaults of free variables

A free variable takes the default of the family that it is read in first.  The
default of an integer or of a truth value serves readings in every family, that of
a real serves readings as a real only.  So the resolution of free variables fails
exactly if a variable is read as a real first and in another family later.
-/

namespace TestSynth

/-- The value of a slot whose variable is free. -/
def Family.default : Family → Scalar
  | .integer => .integer 0
  | .real => .real 0
  | .boolean => .boolean false

/-- Variables in the order in which they are read, each with the family of the
slot it is read for. -/
abbrev Readings := List (Variable × Family)

/-- Of the present readings, one is not as a real though its variable was read as
a real first. -/
def Readings.Clash (past present : Readings) : Prop :=
  ∃ reading ∈ present, reading.2 ≠ .real ∧
    (past ++ present).lookup reading.1 = some .real

instance (past present : Readings) : Decidable (Readings.Clash past present) :=
  inferInstanceAs (Decidable (∃ reading ∈ present, _))

namespace Machine

/-- The machine in which every variable that was read has the default of the
family it was read in first. -/
def filled (machine : Machine) (past : Readings) : Machine :=
  { machine with
    solutions := fun source =>
      match past.lookup source with
      | some family => family.defaultSolution
      | none => machine.solutions source }

/-- What is read to resolve a slot of a heap array. -/
def slotReadings (base : Primitive) (slot : Slot) : Readings :=
  slot.source.toList.map (·, base.family)

/-- What is read to resolve a captured value. -/
def readings (machine : Machine) (type : JavaType) (captured : Captured) :
    Readings :=
  match type, captured with
  | .primitive base, .symbolic source => [(source, base.family)]
  | .array (.primitive base), .array handle =>
      match machine.heap handle with
      | some array => array.slots.flatMap (slotReadings base)
      | none => []
  | _, _ => []

/-- What is read to resolve a call: its result comes before its arguments. -/
def callReadings (machine : Machine) (snapshot : Snapshot)
    (returned : Option Captured) : Readings :=
  returned.toList.flatMap (machine.readings snapshot.method.returnType) ++
    snapshot.symbolic.flatMap fun argument =>
      machine.readings argument.1.type argument.2

/-- The variables that are read are free. -/
def Frees (machine : Machine) (reads : Readings) : Prop :=
  ∀ reading ∈ reads, machine.solutions reading.1 = .undefined

/-- A slot of a heap array and its value when its variable is free. -/
inductive DefaultsSlot (base : Primitive) : Slot → Scalar → Prop
  | stored {value content : Scalar} :
      value.coerce? base = some content →
      DefaultsSlot base { value := value, source := none } content
  | symbolic {value : Scalar} {source : Variable} :
      DefaultsSlot base { value := value, source := some source }
        base.family.default

/-- A captured value that fits a declared type, and what it stands for when its
variables are free. -/
inductive Defaults (machine : Machine) : JavaType → Captured → Value → Prop
  | concrete {base : Primitive} {value content : Scalar} :
      value.coerce? base = some content →
      Defaults machine (.primitive base) (.concrete value) (.scalar content)
  | symbolic {base : Primitive} {source : Variable} :
      Defaults machine (.primitive base) (.symbolic source)
        (.scalar base.family.default)
  | array {base : Primitive} {handle : ArrayHandle} {slots : List Slot}
      {elements : List Scalar} :
      machine.heap handle =
        some { element := .primitive base, slots := slots } →
      List.Forall₂ (DefaultsSlot base) slots elements →
      Defaults machine (.array (.primitive base)) (.array handle)
        (.array { element := base, elements := elements })

def DefaultsArgument (machine : Machine) (argument : Parameter × Captured)
    (value : Parameter × Value) : Prop :=
  value.1 = argument.1 ∧ machine.Defaults argument.1.type argument.2 value.2

inductive DefaultsReturn (machine : Machine) :
    JavaType → Option Captured → Outcome → Prop
  | void : DefaultsReturn machine .void none .void
  | returned {type : JavaType} {captured : Captured} {value : Value} :
      machine.Defaults type captured value →
      DefaultsReturn machine type (some captured) (.returned value)

end Machine

theorem Readings.clash_append {past first second : Readings} :
    Clash past (first ++ second) ↔
      Clash past first ∨ Clash (past ++ first) second := by
  constructor
  · rintro ⟨reading, member, other, real⟩
    rw [← List.append_assoc] at real
    rcases List.mem_append.mp member with here | later
    · left
      refine ⟨reading, here, other, ?_⟩
      -- The variable is read here, so what comes later does not matter.
      have known : ((past ++ first).lookup reading.1).isSome := by
        rw [List.lookup_isSome_iff]
        exact ⟨reading, List.mem_append_right past here, by simp⟩
      rw [List.lookup_append, Option.or_of_isSome known] at real
      exact real
    · exact .inr ⟨reading, later, other, real⟩
  · rintro (⟨reading, member, other, real⟩ | ⟨reading, member, other, real⟩)
    · refine ⟨reading, List.mem_append_left _ member, other, ?_⟩
      rw [← List.append_assoc, List.lookup_append, real]
      rfl
    · refine ⟨reading, List.mem_append_right _ member, other, ?_⟩
      rw [← List.append_assoc]
      exact real

theorem Readings.lookup_concat_other {past : Readings}
    {source other : Variable} (different : other ≠ source) (family : Family) :
    (past ++ [(source, family)]).lookup other = past.lookup other := by
  simp [List.lookup_append, List.lookup_cons, beq_false_of_ne different]

namespace Machine

variable {machine : Machine} {past : Readings} {source : Variable}

theorem frees_append {first second : Readings} :
    machine.Frees (first ++ second) ↔
      machine.Frees first ∧ machine.Frees second :=
  List.forall_mem_append

theorem solutions_filled_of_unread (machine : Machine)
    (unread : past.lookup source = none) :
    (machine.filled past).solutions source = machine.solutions source := by
  simp [filled, unread]

theorem solutions_filled_of_read (machine : Machine) {family : Family}
    (read : past.lookup source = some family) :
    (machine.filled past).solutions source = family.defaultSolution := by
  simp [filled, read]

theorem filled_append_of_read {first : Family}
    (read : past.lookup source = some first) (family : Family) :
    machine.filled (past ++ [(source, family)]) = machine.filled past := by
  unfold filled
  congr 1
  funext other
  by_cases same : other = source
  · simp [List.lookup_append, same, read]
  · rw [Readings.lookup_concat_other same]

theorem filled_append_of_unread (unread : past.lookup source = none)
    (family : Family) :
    machine.filled (past ++ [(source, family)]) =
      (machine.filled past).assign source family.defaultSolution := by
  unfold filled assign
  congr 1
  funext other
  by_cases same : other = source
  · simp [List.lookup_append, same, unread]
  · simp [Readings.lookup_concat_other same, same]

end Machine

namespace Resolution

variable {α β : Type} {origin : Machine} {reads first second : Readings}
  {value : α}

/-- The result of a call and then its arguments. -/
def resolveCall (symbolicArrays : Bool) (snapshot : Snapshot)
    (returned : Option Captured) :
    Resolution (Outcome × List (Parameter × Value)) := do
  let outcome ← resolveReturn symbolicArrays snapshot.method returned
  let given ← resolveSnapshot symbolicArrays snapshot
  return (outcome, given)

/-- The engine makes a test case of what the resolution of a call gives. -/
theorem resolveExit_eq_bind (symbolicArrays : Bool) (snapshot : Snapshot)
    (returned : Option Captured) :
    Engine.resolveExit symbolicArrays snapshot returned =
      resolveCall symbolicArrays snapshot returned >>= fun call =>
        ofExcept (TestCase.build snapshot.method call.2 call.1) := by
  simp [Engine.resolveExit, Engine.resolveTest, resolveCall]

/-- Whatever was read before, the resolution makes some readings of variables that
were free in the original machine and gives a value, unless they clash. -/
structure Performs (origin : Machine) (resolution : Resolution α)
    (reads : Readings) (value : α) : Prop where
  succeeds : ∀ past log, ¬ Readings.Clash past reads →
    ∃ after, resolution.Ends { machine := origin.filled past, log := log }
      (.ok value) { machine := origin.filled (past ++ reads), log := after }
  fails : ∀ past log, Readings.Clash past reads →
    ∃ slot base after, base.family ≠ .real ∧
      resolution.Ends { machine := origin.filled past, log := log }
        (.error (.contract (.resolvedOutsideType slot base (.real 0)))) after

namespace Performs

theorem pure (value : α) :
    Performs origin (Pure.pure value : Resolution α) [] value := by
  constructor
  · intro past log _
    rw [List.append_nil]
    exact ⟨log, ends_pure_iff.mpr ⟨rfl, rfl⟩⟩
  · rintro past log ⟨_, impossible, _⟩
    cases impossible

theorem bind {resolution : Resolution α} {next : α → Resolution β}
    {result : β} (performs : Performs origin resolution first value)
    (others : Performs origin (next value) second result) :
    Performs origin (resolution >>= next) (first ++ second) result := by
  constructor
  · intro past log compatible
    rw [Readings.clash_append, not_or] at compatible
    obtain ⟨middle, ended⟩ := performs.succeeds past log compatible.1
    obtain ⟨after, othersEnd⟩ :=
      others.succeeds (past ++ first) middle compatible.2
    rw [List.append_assoc] at othersEnd
    exact ⟨after, ends_bind_ok_iff.mpr ⟨value, _, ended, othersEnd⟩⟩
  · intro past log clash
    by_cases early : Readings.Clash past first
    · obtain ⟨slot, base, after, other, ended⟩ := performs.fails past log early
      exact ⟨slot, base, after, other,
        ends_bind_iff.mpr (.inr ⟨_, ended, rfl⟩)⟩
    · have late := (Readings.clash_append.mp clash).resolve_left early
      obtain ⟨middle, ended⟩ := performs.succeeds past log early
      obtain ⟨slot, base, after, other, othersEnd⟩ :=
        others.fails (past ++ first) middle late
      exact ⟨slot, base, after, other,
        ends_bind_iff.mpr (.inl ⟨value, _, ended, othersEnd⟩)⟩

theorem map {resolution : Resolution α} (change : α → β)
    (performs : Performs origin resolution reads value) :
    Performs origin (change <$> resolution) reads (change value) := by
  have asBind : Performs origin
      (resolution >>= fun given => Pure.pure (change given)) (reads ++ [])
      (change value) := performs.bind (.pure _)
  rw [List.append_nil] at asBind
  exact asBind

/-- What filling in leaves alone in a machine may be read from it. -/
theorem read {body : Machine → Resolution α}
    (performs : ∀ past, Performs origin (body (origin.filled past)) reads value) :
    Performs origin (machine >>= body) reads value := by
  constructor
  · intro past log compatible
    exact (performs past).succeeds past log compatible
  · intro past log clash
    exact (performs past).fails past log clash

end Performs

/-- The default of the first reading serves any later one, unless it is a real
and the later one is not. -/
theorem ofSolution_default {slot : String} {base : Primitive} {family : Family}
    (serves : family = .real → base.family = .real) :
    ofSolution slot base family.defaultSolution =
      .ok base.family.default := by
  rw [ofSolution_eq_ok_iff]
  cases family with
  | integer | boolean => cases base <;> decide
  | real =>
      have real := serves rfl
      simp [Family.defaultSolution, Solution.scalar?, Scalar.coerce?, real,
        Scalar.toFamily?, Family.default]

theorem ofSolution_real {slot : String} {base : Primitive}
    (other : base.family ≠ .real) :
    ofSolution slot base Family.real.defaultSolution =
      .error (.contract (.resolvedOutsideType slot base (.real 0))) := by
  have refused : (Scalar.real 0).coerce? base = none := by
    cases family : base.family with
    | integer | boolean => simp [Scalar.coerce?, family, Scalar.toFamily?]
    | real => exact absurd family other
  simp [ofSolution, Family.defaultSolution, Solution.scalar?, coerce, refused]

theorem performs_resolveVariable {slot : String} {base : Primitive}
    {source : Variable} (free : origin.solutions source = .undefined) :
    Performs origin (resolveVariable slot base source)
      [(source, base.family)] base.family.default := by
  constructor
  · intro past log compatible
    cases read : past.lookup source with
    | none =>
        have unsolved := Machine.solutions_filled_of_unread origin read
        rw [Machine.filled_append_of_unread read]
        refine ⟨_, ends_resolveVariable_iff.mpr (.inl ⟨?_, ?_, rfl⟩)⟩
        · rw [unsolved]
          exact free
        · exact (ofSolution_default id).symm
    | some family =>
        have solved := Machine.solutions_filled_of_read origin read
        rw [Machine.filled_append_of_read read]
        refine ⟨log, ends_resolveVariable_iff.mpr (.inr ⟨?_, ?_, rfl⟩)⟩
        · rw [solved]
          exact family.defaultSolution_ne_undefined
        · rw [solved]
          refine (ofSolution_default ?_).symm
          rintro rfl
          by_contra other
          exact compatible ⟨_, List.mem_singleton_self _, other,
            by simp [List.lookup_append, read]⟩
  · rintro past log ⟨_, member, other, real⟩
    rw [List.mem_singleton.mp member] at other real
    have read : past.lookup source = some .real := by
      cases read : past.lookup source with
      | none =>
          simp [List.lookup_append, read] at real
          exact absurd real other
      | some family => simpa [List.lookup_append, read] using real
    have solved := Machine.solutions_filled_of_read origin read
    refine ⟨slot, base, _, other, ends_resolveVariable_iff.mpr
      (.inr ⟨?_, ?_, rfl⟩)⟩
    · rw [solved]
      exact Family.real.defaultSolution_ne_undefined
    · rw [solved]
      exact (ofSolution_real other).symm

theorem performs_ofExcept {given : Except Fault α} (succeeded : given = .ok value) :
    Performs origin (ofExcept given) [] value := by
  rw [succeeded]
  exact .pure value

theorem performs_resolveElement {slot : String} {base : Primitive}
    {index : Nat} {element : Slot} {content : Scalar}
    (defaults : Machine.DefaultsSlot base element content)
    (free : origin.Frees (Machine.slotReadings base element)) :
    Performs origin (resolveElement slot base index element)
      (Machine.slotReadings base element) content := by
  cases defaults with
  | stored coerced =>
      exact performs_ofExcept (coerce_eq_ok_iff.mpr coerced)
  | symbolic =>
      exact performs_resolveVariable (free _ List.mem_cons_self)

theorem performs_resolveElements {slot : String} {base : Primitive}
    {index : Nat} {slots : List Slot} {elements : List Scalar}
    (defaults : List.Forall₂ (Machine.DefaultsSlot base) slots elements)
    (free : origin.Frees (slots.flatMap (Machine.slotReadings base))) :
    Performs origin (resolveElements slot base index slots)
      (slots.flatMap (Machine.slotReadings base)) elements := by
  induction defaults generalizing index with
  | nil => exact .pure []
  | cons first _ ih =>
      obtain ⟨firstFree, restFree⟩ := Machine.frees_append.mp free
      exact .bind (performs_resolveElement first firstFree)
        (.map (List.cons _) (ih restFree))

theorem performs_resolve {symbolicArrays : Bool} {slot : String}
    {type : JavaType} {captured : Captured} {value : Value}
    (defaults : origin.Defaults type captured value)
    (free : origin.Frees (origin.readings type captured)) :
    Performs origin (resolve symbolicArrays slot type captured)
      (origin.readings type captured) value := by
  cases defaults with
  | concrete coerced =>
      exact .map _ (performs_ofExcept (coerce_eq_ok_iff.mpr coerced))
  | symbolic =>
      exact .map _ (performs_resolveVariable (free _ List.mem_cons_self))
  | @array base handle slots elements found slotDefaults =>
      have reads : origin.readings (.array (.primitive base)) (.array handle) =
          slots.flatMap (Machine.slotReadings base) := by
        simp [Machine.readings, found]
      rw [reads] at free ⊢
      apply Performs.read
      intro past
      have kept : (origin.filled past).heap handle =
          some { element := .primitive base, slots := slots } := found
      simp only [kept, if_pos]
      exact .map _ (performs_resolveElements slotDefaults free)

theorem performs_resolveArguments {symbolicArrays : Bool}
    {arguments : List (Parameter × Captured)} {values : List (Parameter × Value)}
    (defaults : List.Forall₂ origin.DefaultsArgument arguments values)
    (free : origin.Frees (arguments.flatMap fun argument =>
      origin.readings argument.1.type argument.2)) :
    Performs origin (resolveArguments symbolicArrays arguments)
      (arguments.flatMap fun argument =>
        origin.readings argument.1.type argument.2) values := by
  induction defaults with
  | nil => exact .pure []
  | @cons argument value _ _ first _ ih =>
      obtain ⟨firstFree, restFree⟩ := Machine.frees_append.mp free
      obtain ⟨same, firstDefaults⟩ := first
      rcases value with ⟨parameter, content⟩
      cases same
      exact .bind (performs_resolve firstDefaults firstFree)
        (.map (List.cons _) (ih restFree))

theorem performs_resolveReturn {symbolicArrays : Bool} {method : Method}
    {returned : Option Captured} {outcome : Outcome}
    (defaults : origin.DefaultsReturn method.returnType returned outcome)
    (free : origin.Frees
      (returned.toList.flatMap (origin.readings method.returnType))) :
    Performs origin (resolveReturn symbolicArrays method returned)
      (returned.toList.flatMap (origin.readings method.returnType))
      outcome := by
  generalize declared : method.returnType = type at defaults free ⊢
  cases defaults with
  | void =>
      simp only [resolveReturn, declared]
      exact .pure _
  | @returned _ captured value given =>
      have occupied : type.isVoid = false := by
        cases given <;> rfl
      simp only [Option.toList, List.flatMap_singleton] at free ⊢
      simp only [resolveReturn, declared, occupied, Bool.false_eq_true, if_false]
      exact .map _ (performs_resolve given free)

/-- Resolution of a call whose variables are all free gives every slot the default
of its own family, unless a variable is read as a real first and in another family
later; then it ends with a breach of contract.  The engine makes a test case of the
former and fails with the latter. -/
theorem resolveCall_free {symbolicArrays : Bool} {snapshot : Snapshot}
    {returned : Option Captured} {outcome : Outcome}
    {values : List (Parameter × Value)}
    (returns : origin.DefaultsReturn snapshot.method.returnType returned outcome)
    (arguments : List.Forall₂ origin.DefaultsArgument snapshot.symbolic values)
    (free : origin.Frees (origin.callReadings snapshot returned))
    (log : List LogEvent) :
    let readings := origin.callReadings snapshot returned
    let given := (values ++ snapshot.concrete).mergeSort
      fun left right => left.1.ordinal ≤ right.1.ordinal
    (¬ Readings.Clash [] readings →
      ∃ after,
        (resolveCall symbolicArrays snapshot returned).Ends
          { machine := origin, log := log }
          (.ok (outcome, given))
          { machine := origin.filled readings, log := after } ∧
        (Engine.resolveExit symbolicArrays snapshot returned).Ends
          { machine := origin, log := log }
          (TestCase.build snapshot.method given outcome)
          { machine := origin.filled readings, log := after }) ∧
    (Readings.Clash [] readings →
      ∃ slot base after, base.family ≠ .real ∧
        (resolveCall symbolicArrays snapshot returned).Ends
          { machine := origin, log := log }
          (.error (.contract (.resolvedOutsideType slot base (.real 0))))
          after ∧
        (Engine.resolveExit symbolicArrays snapshot returned).Ends
          { machine := origin, log := log }
          (.error (.contract (.resolvedOutsideType slot base (.real 0))))
          after) := by
  intro readings given
  obtain ⟨returnFree, argumentsFree⟩ := Machine.frees_append.mp free
  have performs : Performs origin (resolveCall symbolicArrays snapshot returned) readings
      (outcome, given) :=
    .bind (performs_resolveReturn returns returnFree)
      (.map (outcome, ·)
        (.map _ (performs_resolveArguments arguments argumentsFree)))
  rw [resolveExit_eq_bind]
  constructor
  · intro compatible
    obtain ⟨after, ended⟩ := performs.succeeds [] log compatible
    exact ⟨after, ended,
      ends_bind_iff.mpr (.inl ⟨_, _, ended, ends_ofExcept_iff.mpr ⟨rfl, rfl⟩⟩)⟩
  · intro clash
    obtain ⟨slot, base, after, unreal, ended⟩ := performs.fails [] log clash
    exact ⟨slot, base, after, unreal, ended, ends_bind_iff.mpr (.inr ⟨_, ended, rfl⟩)⟩

/-- Parameters of several types, all of which are given by one variable. -/
def sharingSnapshot (types : List Primitive) : Snapshot :=
  let parameters := types.zipIdx.map fun (base, place) =>
    { name := base.keyword, type := .primitive base, ordinal := place
      isReceiver := false }
  { method :=
      { declaringClass := { name := "demo.Mix", hasDefaultConstructor := true }
        name := "mix"
        isStatic := true
        parameters := parameters
        returnType := .void
        thrown := [] }
    symbolic := parameters.map fun parameter =>
      (parameter, .symbolic { number := 0 })
    concrete := [] }

/-- An integer default serves the real and the truth value that come later. -/
theorem resolveCall_integer_first :
    let snapshot := sharingSnapshot [.int, .double, .boolean]
    let values := snapshot.method.parameters.zip
      [.scalar (.integer 0), .scalar (.real 0), .scalar (.boolean false)]
    ∃ after, (resolveCall false snapshot none).Ends
      { machine := .new, log := [] } (.ok (.void, values)) after := by
  intro snapshot values
  have arguments : List.Forall₂ Machine.new.DefaultsArgument
      snapshot.symbolic values :=
    .cons ⟨rfl, .symbolic⟩
      (.cons ⟨rfl, .symbolic⟩ (.cons ⟨rfl, .symbolic⟩ .nil))
  have served : ¬ Readings.Clash [] (Machine.new.callReadings snapshot none) := by
    decide
  obtain ⟨after, ended, _⟩ :=
    (resolveCall_free .void arguments (fun _ _ => rfl) []).1 served
  have sorted : (values ++ snapshot.concrete).mergeSort
      (fun left right => left.1.ordinal ≤ right.1.ordinal) = values :=
    List.mergeSort_of_pairwise (by decide)
  rw [sorted] at ended
  exact ⟨_, ended⟩

/-- A real default does not serve the integer that comes later, though either slot
fits its type and their variable is free. -/
theorem resolveCall_real_first :
    let snapshot := sharingSnapshot [.double, .int]
    snapshot.method.checkSignature = .ok () ∧
      Machine.new.DefaultsReturn snapshot.method.returnType none .void ∧
      List.Forall₂ Machine.new.DefaultsArgument snapshot.symbolic
        (snapshot.method.parameters.zip
          [.scalar (.real 0), .scalar (.integer 0)]) ∧
      Machine.new.Frees (Machine.new.callReadings snapshot none) ∧
      ∀ result after,
        ¬ (resolveCall false snapshot none).Ends
          { machine := .new, log := [] } (.ok result) after := by
  refine ⟨rfl, .void, ?_, fun _ _ => rfl, ?_⟩
  · exact .cons ⟨rfl, .symbolic⟩ (.cons ⟨rfl, .symbolic⟩ .nil)
  · intro result after ended
    have failed : (resolveCall false (sharingSnapshot [.double, .int]) none).Ends
        { machine := .new, log := [] }
        (.error (.contract (.resolvedOutsideType "int" .int (.real 0)))) _ := rfl
    cases (ended.deterministic failed).1

end Resolution

end TestSynth
