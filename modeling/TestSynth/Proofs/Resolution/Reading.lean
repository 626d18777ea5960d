import TestSynth.Proofs.Fault.Propagation
import TestSynth.Proofs.Resolution.Settling
import TestSynth.Proofs.TestCase.Typing

/-!
# Readings of captured values

`Reads` describes what a captured value stands for in a machine, without saying
how it is computed: variables stand for their solutions, heap arrays for their
slots, and symbolic arrays for their array solutions.  A resolution that succeeds
gives a reading in the machine that it leaves, and the readings of a machine
remain readings when more variables are filled in.
-/

namespace TestSynth

/-- The solution of a variable as a value of a primitive type. -/
def Machine.solved? (machine : Machine) (source : Variable)
    (base : Primitive) : Option Scalar :=
  (machine.solutions source).scalar?.bind (·.coerce? base)

namespace Machine

/-- What a slot of a heap array stands for. -/
inductive ReadsSlot (machine : Machine) (base : Primitive) :
    Slot → Scalar → Prop
  | stored {value content : Scalar} :
      value.coerce? base = some content →
      ReadsSlot machine base { value := value, source := none } content
  | symbolic {value content : Scalar} {source : Variable} :
      machine.solved? source base = some content →
      ReadsSlot machine base { value := value, source := some source } content

/-- What a solution of an element stands for; a free element takes the default. -/
def ReadsElement (base : Primitive) (solution : Solution) (content : Scalar) :
    Prop :=
  (Resolution.orDefault base.family solution).scalar?.bind (·.coerce? base) =
    some content

inductive Reads (machine : Machine) : JavaType → Captured → Value → Prop
  | concrete {base : Primitive} {value content : Scalar} :
      value.coerce? base = some content →
      Reads machine (.primitive base) (.concrete value) (.scalar content)
  | symbolic {base : Primitive} {source : Variable} {content : Scalar} :
      machine.solved? source base = some content →
      Reads machine (.primitive base) (.symbolic source) (.scalar content)
  | array {base : Primitive} {handle : ArrayHandle} {slots : List Slot}
      {elements : List Scalar} :
      machine.heap handle =
        some { element := .primitive base, slots := slots } →
      List.Forall₂ (machine.ReadsSlot base) slots elements →
      Reads machine (.array (.primitive base)) (.array handle)
        (.array { element := base, elements := elements })
  | symbolicArray {base : Primitive} {source : Variable}
      {elements : List Scalar} :
      List.Forall₂ (ReadsElement base)
        ((machine.arraySolutions source).getD []) elements →
      Reads machine (.array (.primitive base)) (.symbolicArray source)
        (.array { element := base, elements := elements })

variable {later earlier : Machine}

theorem Extends.solved?_eq_some (extension : later.Extends earlier)
    {source : Variable} {base : Primitive} {content : Scalar}
    (solved : earlier.solved? source base = some content) :
    later.solved? source base = some content := by
  have defined : earlier.solutions source ≠ .undefined := by
    intro free
    simp [solved?, free, Solution.scalar?] at solved
  unfold solved?
  rw [extension.keeps source defined]
  exact solved

theorem ReadsSlot.mono (extension : later.Extends earlier) {base : Primitive}
    {slot : Slot} {content : Scalar}
    (reads : earlier.ReadsSlot base slot content) :
    later.ReadsSlot base slot content := by
  cases reads with
  | stored coerced => exact .stored coerced
  | symbolic solved => exact .symbolic (extension.solved?_eq_some solved)

theorem Reads.mono (extension : later.Extends earlier) {type : JavaType}
    {captured : Captured} {value : Value}
    (reads : earlier.Reads type captured value) :
    later.Reads type captured value := by
  cases reads with
  | concrete coerced => exact .concrete coerced
  | symbolic solved => exact .symbolic (extension.solved?_eq_some solved)
  | array found slots =>
      apply Reads.array
      · rw [extension.heap]
        exact found
      · exact slots.imp fun _ _ => ReadsSlot.mono extension
  | symbolicArray elements =>
      apply Reads.symbolicArray
      rw [extension.arraySolutions]
      exact elements

end Machine

theorem Scalar.family_of_coerce? {value content : Scalar} {base : Primitive}
    (coerced : value.coerce? base = some content) :
    content.family = base.family :=
  family_of_toFamily? coerced

theorem Machine.family_of_solved? {machine : Machine} {source : Variable}
    {base : Primitive} {content : Scalar}
    (solved : machine.solved? source base = some content) :
    content.family = base.family := by
  obtain ⟨value, _, coerced⟩ := Option.bind_eq_some_iff.mp solved
  exact Scalar.family_of_coerce? coerced

theorem Machine.ReadsSlot.family {machine : Machine} {base : Primitive}
    {slot : Slot} {content : Scalar}
    (reads : machine.ReadsSlot base slot content) :
    content.family = base.family := by
  cases reads with
  | stored coerced => exact Scalar.family_of_coerce? coerced
  | symbolic solved => exact Machine.family_of_solved? solved

theorem Machine.ReadsElement.family {base : Primitive} {solution : Solution}
    {content : Scalar} (reads : Machine.ReadsElement base solution content) :
    content.family = base.family := by
  obtain ⟨value, _, coerced⟩ := Option.bind_eq_some_iff.mp reads
  exact Scalar.family_of_coerce? coerced

private theorem forall_right_of_forall₂ {α β : Type} {relation : α → β → Prop}
    {property : β → Prop} {left : List α} {right : List β}
    (related : List.Forall₂ relation left right)
    (gives : ∀ first second, relation first second → property second) :
    ∀ second ∈ right, property second := by
  have both : List.Forall₂ (fun second first =>
      property second ∧ relation first second) right left :=
    related.flip.imp fun second first holds => ⟨gives first second holds, holds⟩
  exact ((List.forall₂_and_left _ _).mp both).1

theorem Machine.Reads.hasType {machine : Machine} {type : JavaType}
    {captured : Captured} {value : Value}
    (reads : machine.Reads type captured value) : value.HasType type := by
  cases reads with
  | concrete coerced => exact .scalar (Scalar.family_of_coerce? coerced)
  | symbolic solved => exact .scalar (Machine.family_of_solved? solved)
  | array found slots =>
      exact .array (forall_right_of_forall₂ slots fun _ _ => ReadsSlot.family)
  | symbolicArray elements =>
      exact .array (forall_right_of_forall₂ elements fun _ _ =>
        ReadsElement.family)

/-- A parameter with a reading of what was captured for it. -/
def Machine.ReadsArgument (machine : Machine)
    (argument : Parameter × Captured) (value : Parameter × Value) : Prop :=
  value.1 = argument.1 ∧ machine.Reads argument.1.type argument.2 value.2

/-- What a call that returned leaves behind. -/
inductive Machine.ReadsReturn (machine : Machine) :
    JavaType → Option Captured → Outcome → Prop
  | void : ReadsReturn machine .void none .void
  | returned {type : JavaType} {captured : Captured} {value : Value} :
      machine.Reads type captured value →
      ReadsReturn machine type (some captured) (.returned value)

theorem Machine.ReadsArgument.mono {later earlier : Machine}
    (extension : later.Extends earlier) {argument : Parameter × Captured}
    {value : Parameter × Value} (reads : earlier.ReadsArgument argument value) :
    later.ReadsArgument argument value :=
  ⟨reads.1, reads.2.mono extension⟩

theorem Machine.parameters_of_reads {machine : Machine}
    {arguments : List (Parameter × Captured)} {values : List (Parameter × Value)}
    (reads : List.Forall₂ machine.ReadsArgument arguments values) :
    values.map (·.1) = arguments.map (·.1) := by
  rw [← List.forall₂_eq_eq_eq, List.forall₂_map_left_iff,
    List.forall₂_map_right_iff]
  exact reads.flip.imp fun _ _ => And.left

theorem Machine.ReadsReturn.mono {later earlier : Machine}
    (extension : later.Extends earlier) {type : JavaType}
    {captured : Option Captured} {outcome : Outcome}
    (reads : earlier.ReadsReturn type captured outcome) :
    later.ReadsReturn type captured outcome := by
  cases reads with
  | void => exact .void
  | returned reads => exact .returned (reads.mono extension)

theorem Machine.ReadsReturn.reads {machine : Machine} {type : JavaType}
    {captured : Captured} {value : Value}
    (reads : machine.ReadsReturn type (some captured) (.returned value)) :
    machine.Reads type captured value := by
  cases reads with
  | returned read => exact read

theorem Machine.ReadsReturn.fits {machine : Machine} {type : JavaType}
    {captured : Option Captured} {outcome : Outcome}
    (reads : machine.ReadsReturn type captured outcome) :
    outcome.Fits type := by
  cases reads with
  | void => exact .void
  | returned reads => exact .returned reads.hasType

namespace Resolution

variable {world after : World}

theorem coerce_eq_ok_iff {slot : String} {base : Primitive}
    {value content : Scalar} :
    coerce slot base value = .ok content ↔
      value.coerce? base = some content := by
  unfold coerce
  cases value.coerce? base <;> simp

theorem ofSolution_eq_ok_iff {slot : String} {base : Primitive}
    {solution : Solution} {content : Scalar} :
    ofSolution slot base solution = .ok content ↔
      solution.scalar?.bind (·.coerce? base) = some content := by
  unfold ofSolution
  cases solution.scalar? with
  | none => simp
  | some value => exact coerce_eq_ok_iff

theorem solved?_of_resolveVariable {slot : String} {base : Primitive}
    {source : Variable} {content : Scalar}
    (ended : (resolveVariable slot base source).Ends world (.ok content) after) :
    after.machine.solved? source base = some content := by
  rcases ends_resolveVariable_iff.mp ended with
    ⟨_, same, rfl⟩ | ⟨_, same, rfl⟩
  · have read := ofSolution_eq_ok_iff.mp same.symm
    simpa [Machine.solved?, Machine.assign] using read
  · exact ofSolution_eq_ok_iff.mp same.symm

theorem reads_of_resolveElement {slot : String} {base : Primitive}
    {index : Nat} {element : Slot} {content : Scalar}
    (ended : (resolveElement slot base index element).Ends world
      (.ok content) after) :
    after.machine.ReadsSlot base element content := by
  rcases element with ⟨value, source⟩
  cases source with
  | none =>
      obtain ⟨same, _⟩ := ends_ofExcept_iff.mp ended
      exact .stored (coerce_eq_ok_iff.mp same.symm)
  | some source => exact .symbolic (solved?_of_resolveVariable ended)

theorem reads_of_resolveElements {slot : String} {base : Primitive}
    {index : Nat} {slots : List Slot} {elements : List Scalar}
    (ended : (resolveElements slot base index slots).Ends world
      (.ok elements) after) :
    List.Forall₂ (after.machine.ReadsSlot base) slots elements := by
  induction slots generalizing index world elements with
  | nil =>
      obtain ⟨same, _⟩ := ends_pure_iff.mp ended
      cases same
      exact .nil
  | cons element rest ih =>
      obtain ⟨first, middle, firstEnds, ended⟩ := ends_bind_ok_iff.mp ended
      obtain ⟨others, last, othersEnd, ended⟩ := ends_bind_ok_iff.mp ended
      obtain ⟨same, rfl⟩ := ends_pure_iff.mp ended
      cases same
      have extension :=
        (composed_resolveElements slot base (index + 1) rest).settles.fills othersEnd
      exact .cons ((reads_of_resolveElement firstEnds).mono extension)
        (ih othersEnd)

theorem reads_of_resolveHeapArray {slot : String} {declared : Primitive}
    {handle : ArrayHandle} {value : Value}
    (ended : (resolveHeapArray slot declared handle).Ends world
      (.ok value) after) :
    after.machine.Reads (.array (.primitive declared)) (.array handle) value := by
  have extension :=
    (composed_resolveHeapArray slot declared handle).settles.fills ended
  have bodyEnds := ends_machine_bind_iff.mp ended
  cases found : world.machine.heap handle with
  | none => simp [found] at bodyEnds
  | some array =>
      rcases array with ⟨element, slots⟩
      cases element with
      | primitive held =>
          by_cases same : held = declared
          · subst held
            simp only [found, if_pos] at bodyEnds
            obtain ⟨elements, middle, elementsEnd, last⟩ :=
              ends_bind_ok_iff.mp bodyEnds
            obtain ⟨valueSame, rfl⟩ := ends_pure_iff.mp last
            cases valueSame
            apply Machine.Reads.array
            · rw [extension.heap]
              exact found
            · exact reads_of_resolveElements elementsEnd
          · simp [found, same] at bodyEnds
      | void => simp [found] at bodyEnds
      | array inner => simp [found] at bodyEnds
      | reference name => simp [found] at bodyEnds

theorem reads_of_resolveSymbolicArray {symbolicArrays : Bool} {slot : String}
    {element : Primitive} {source : Variable} {value : Value}
    (ended : (resolveSymbolicArray symbolicArrays slot element source).Ends world
      (.ok value) after) :
    after.machine.Reads (.array (.primitive element)) (.symbolicArray source)
      value := by
  have extension :=
    (composed_resolveSymbolicArray symbolicArrays slot element source).settles.fills
      ended
  cases symbolicArrays with
  | false => cases (ends_throw_iff.mp ended).1
  | true =>
      have bodyEnds := ends_machine_bind_iff.mp ended
      cases found : world.machine.arraySolutions source with
      | none =>
          simp only [found] at bodyEnds
          obtain ⟨_, middle, _, last⟩ := ends_bind_ok_iff.mp bodyEnds
          obtain ⟨same, _⟩ := ends_pure_iff.mp last
          cases same
          apply Machine.Reads.symbolicArray
          rw [extension.arraySolutions, found]
          exact .nil
      | some solutions =>
          simp only [found] at bodyEnds
          obtain ⟨elements, middle, elementsEnd, last⟩ :=
            ends_bind_ok_iff.mp bodyEnds
          obtain ⟨elementsSame, _⟩ := ends_ofExcept_iff.mp elementsEnd
          obtain ⟨same, _⟩ := ends_pure_iff.mp last
          cases same
          apply Machine.Reads.symbolicArray
          rw [extension.arraySolutions, found]
          exact (mapM_eq_ok_iff.mp elementsSame.symm).imp fun _ _ =>
            ofSolution_eq_ok_iff.mp

theorem reads_of_resolve {symbolicArrays : Bool} {slot : String}
    {type : JavaType} {captured : Captured} {value : Value}
    (ended : (resolve symbolicArrays slot type captured).Ends world
      (.ok value) after) :
    after.machine.Reads type captured value := by
  cases type with
  | primitive base =>
      cases captured with
      | concrete given =>
          obtain ⟨content, contentEnds, same⟩ := ends_map_iff.mp ended
          obtain ⟨rfl, _⟩ := ends_ofExcept_iff.mp contentEnds
          obtain ⟨content, coerced, rfl⟩ := map_eq_ok_iff.mp same.symm
          exact .concrete (coerce_eq_ok_iff.mp coerced)
      | symbolic source =>
          obtain ⟨content, contentEnds, same⟩ := ends_map_iff.mp ended
          obtain ⟨content, rfl, rfl⟩ := map_eq_ok_iff.mp same.symm
          exact .symbolic (solved?_of_resolveVariable contentEnds)
      | array handle => cases (ends_throw_iff.mp ended).1
      | symbolicArray source => cases (ends_throw_iff.mp ended).1
  | array element =>
      cases element with
      | primitive base =>
          cases captured with
          | array handle => exact reads_of_resolveHeapArray ended
          | symbolicArray source => exact reads_of_resolveSymbolicArray ended
          | concrete given => cases (ends_throw_iff.mp ended).1
          | symbolic source => cases (ends_throw_iff.mp ended).1
      | void => cases (ends_throw_iff.mp ended).1
      | array inner => cases (ends_throw_iff.mp ended).1
      | reference name => cases (ends_throw_iff.mp ended).1
  | void => cases (ends_throw_iff.mp ended).1
  | reference name => cases (ends_throw_iff.mp ended).1

theorem reads_of_resolveArguments {symbolicArrays : Bool}
    {arguments : List (Parameter × Captured)} {values : List (Parameter × Value)}
    (ended : (resolveArguments symbolicArrays arguments).Ends world
      (.ok values) after) :
    List.Forall₂ after.machine.ReadsArgument arguments values := by
  induction arguments generalizing world values with
  | nil =>
      obtain ⟨same, _⟩ := ends_pure_iff.mp ended
      cases same
      exact .nil
  | cons argument rest ih =>
      rcases argument with ⟨parameter, captured⟩
      obtain ⟨first, middle, firstEnds, ended⟩ := ends_bind_ok_iff.mp ended
      obtain ⟨others, last, othersEnd, ended⟩ := ends_bind_ok_iff.mp ended
      obtain ⟨same, rfl⟩ := ends_pure_iff.mp ended
      cases same
      have extension :=
        (composed_resolveArguments symbolicArrays rest).settles.fills othersEnd
      exact .cons ⟨rfl, (reads_of_resolve firstEnds).mono extension⟩ (ih othersEnd)

/-- The arguments of a snapshot are readings of the symbolic ones and the
concrete ones as they are. -/
theorem reads_of_resolveSnapshot {symbolicArrays : Bool} {snapshot : Snapshot}
    {given : List (Parameter × Value)}
    (ended : (resolveSnapshot symbolicArrays snapshot).Ends world
      (.ok given) after) :
    ∃ values,
      List.Forall₂ after.machine.ReadsArgument snapshot.symbolic values ∧
        given.Perm (values ++ snapshot.concrete) := by
  obtain ⟨values, middle, valuesEnd, last⟩ := ends_bind_ok_iff.mp ended
  obtain ⟨same, rfl⟩ := ends_pure_iff.mp last
  cases same
  exact ⟨values, reads_of_resolveArguments valuesEnd, List.mergeSort_perm _ _⟩

theorem reads_of_resolveReturn {symbolicArrays : Bool} {method : Method}
    {captured : Option Captured} {outcome : Outcome}
    (ended : (resolveReturn symbolicArrays method captured).Ends world
      (.ok outcome) after) :
    after.machine.ReadsReturn method.returnType captured outcome := by
  cases captured with
  | none =>
      cases isVoid : method.returnType.isVoid with
      | true =>
          simp only [resolveReturn, isVoid] at ended
          obtain ⟨same, _⟩ := ends_pure_iff.mp ended
          cases same
          rw [JavaType.isVoid_iff.mp isVoid]
          exact .void
      | false => simp [resolveReturn, isVoid] at ended
  | some captured =>
      cases isVoid : method.returnType.isVoid with
      | true => simp [resolveReturn, isVoid] at ended
      | false =>
          simp only [resolveReturn, isVoid] at ended
          obtain ⟨given, givenEnds, same⟩ := ends_map_iff.mp ended
          obtain ⟨value, rfl, rfl⟩ := map_eq_ok_iff.mp same.symm
          exact .returned (reads_of_resolve givenEnds)

end Resolution

end TestSynth
