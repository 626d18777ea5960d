import Mathlib.Data.List.Nodup
import TestSynth.Proofs.Fault.Propagation
import TestSynth.Proofs.Method.Declaring
import TestSynth.Proofs.TestCase.Typing

/-!
# Binding arguments

Building a test case sorts the given arguments by ordinal and neither drops nor
adds any.  It succeeds if they are the arguments of the method, with ordinals that
tell them apart, and if the outcome fits.
-/

namespace TestSynth

/-- An argument as it is given to the construction of a test case. -/
def Argument.pair (argument : Argument) : Parameter × Value :=
  (argument.parameter, argument.value)

/-- Items with different keys are found by their keys. -/
theorem find?_key_eq_some {α β : Type} [BEq β] [LawfulBEq β] {key : α → β} {items : List α}
    {item : α} (distinct : (items.map key).Nodup) (member : item ∈ items) :
    items.find? (key · == key item) = some item := by
  induction items with
  | nil => cases member
  | cons first rest ih =>
      rw [List.map_cons, List.nodup_cons] at distinct
      rcases List.mem_cons.mp member with rfl | later
      · simp
      · have different : key first ≠ key item := by
          intro same
          exact distinct.1 (same ▸ List.mem_map_of_mem later)
        rw [List.find?_cons_of_neg (by simpa using different)]
        exact ih distinct.2 later

namespace Argument

theorem insertByOrdinal_perm (argument : Argument) (bound : List Argument) :
    (argument.insertByOrdinal bound).Perm (argument :: bound) := by
  induction bound with
  | nil => exact .refl _
  | cons first rest ih =>
      unfold insertByOrdinal
      split
      · exact .refl _
      · exact (ih.cons first).trans (.swap argument first rest)

theorem isBound_eq_true_iff {bound : List Argument} {parameter : Parameter} :
    isBound bound parameter = true ↔
      parameter.ordinal ∈ bound.map (·.parameter.ordinal) := by
  simp [isBound]

theorem ascending_insertByOrdinal {argument : Argument} {bound : List Argument}
    (ascending : Ascending bound)
    (unbound : isBound bound argument.parameter = false) :
    Ascending (argument.insertByOrdinal bound) := by
  induction bound with
  | nil => exact List.pairwise_singleton _ _
  | cons first rest ih =>
      obtain ⟨firstLeast, restAscending⟩ := List.pairwise_cons.mp ascending
      simp only [isBound, List.any_cons, Bool.or_eq_false_iff,
        beq_eq_false_iff_ne] at unbound
      unfold insertByOrdinal
      split
      · rename_i before
        apply List.pairwise_cons.mpr
        refine ⟨?_, ascending⟩
        intro other member
        rcases List.mem_cons.mp member with rfl | member
        · exact before
        · exact Nat.lt_trans before (firstLeast other member)
      · rename_i notBefore
        apply List.pairwise_cons.mpr
        refine ⟨?_, ih restAscending unbound.2⟩
        intro other member
        have inserted := (insertByOrdinal_perm argument rest).mem_iff.mp member
        rcases List.mem_cons.mp inserted with rfl | member
        · have different := unbound.1
          omega
        · exact firstLeast other member

theorem Ascending.distinct {arguments : List Argument} (ascending : Ascending arguments) :
    (arguments.map (·.parameter.ordinal)).Nodup :=
  (List.pairwise_map.mpr ascending).imp Nat.ne_of_lt

/-- Ascending arguments are found by their ordinals. -/
theorem find?_ordinal_eq_some {arguments : List Argument} {argument : Argument}
    (ascending : Ascending arguments) (member : argument ∈ arguments) :
    arguments.find? (·.parameter.ordinal == argument.parameter.ordinal) =
      some argument :=
  find?_key_eq_some ascending.distinct member

end Argument

namespace TestCase

open Argument (Ascending pair)

variable {method : Method}

theorem bindArguments_eq_ok {bound result : List Argument}
    {given : List (Parameter × Value)}
    (bind : bindArguments method bound given = .ok result)
    (ascending : Ascending bound) :
    (result.map pair).Perm (given ++ bound.map pair) ∧ Ascending result := by
  induction given generalizing bound with
  | nil =>
      cases bind
      exact ⟨.refl _, ascending⟩
  | cons item rest ih =>
      rcases item with ⟨parameter, value⟩
      simp only [bindArguments] at bind
      split at bind
      · cases bind
      · split at bind
        · cases bind
        · split at bind
          · cases bind
          · rename_i unbound
            obtain ⟨permutation, resultAscending⟩ := ih bind
              (Argument.ascending_insertByOrdinal ascending
                (by simpa using unbound))
            refine ⟨permutation.trans ?_, resultAscending⟩
            have inserted := (Argument.insertByOrdinal_perm
              { parameter := parameter, value := value } bound).map pair
            exact (inserted.append_left rest).trans List.perm_middle

theorem own_of_bindArguments {bound result : List Argument}
    {given : List (Parameter × Value)}
    (bind : bindArguments method bound given = .ok result) :
    ∀ item ∈ given, item.1 ∈ method.arguments := by
  induction given generalizing bound with
  | nil => exact List.forall_mem_nil _
  | cons item rest ih =>
      rcases item with ⟨parameter, value⟩
      simp only [bindArguments] at bind
      split at bind
      · cases bind
      · rename_i argument
        split at bind
        · cases bind
        · rename_i known
          split at bind
          · cases bind
          · refine List.forall_mem_cons.mpr ⟨?_, ih bind⟩
            exact List.mem_filter.mpr ⟨not_not.mp known, by simpa using argument⟩

theorem exists_bindArguments_eq_ok (bound : List Argument)
    {given : List (Parameter × Value)}
    (own : ∀ item ∈ given,
      item.1.isReceiver = false ∧ item.1 ∈ method.parameters)
    (distinct : (given.map (·.1.ordinal) ++
      bound.map (·.parameter.ordinal)).Nodup) :
    ∃ result, bindArguments method bound given = .ok result := by
  induction given generalizing bound with
  | nil => exact ⟨bound, rfl⟩
  | cons item rest ih =>
      rcases item with ⟨parameter, value⟩
      have itemOwn : parameter.isReceiver = false ∧
          parameter ∈ method.parameters := own _ List.mem_cons_self
      have argument : parameter.isReceiver ≠ true := by simp [itemOwn.1]
      have known : ¬ parameter ∉ method.parameters := by simp [itemOwn.2]
      simp only [List.map_cons, List.cons_append, List.nodup_cons] at distinct
      have unbound : ¬ Argument.isBound bound parameter = true := by
        intro isBound
        apply distinct.1
        exact List.mem_append_right _ (Argument.isBound_eq_true_iff.mp isBound)
      simp only [bindArguments, if_neg argument, if_neg known, if_neg unbound]
      apply ih
      · intro other member
        exact own other (List.mem_cons_of_mem _ member)
      · have inserted := (Argument.insertByOrdinal_perm
          { parameter := parameter, value := value } bound).map
          (·.parameter.ordinal)
        have moved := (inserted.append_left (rest.map (·.1.ordinal))).trans
          List.perm_middle
        exact moved.nodup_iff.mpr (List.nodup_cons.mpr distinct)

theorem checkBound_eq_ok_iff {bound : List Argument} :
    checkBound method bound = .ok () ↔
      ∀ parameter ∈ method.arguments,
        Argument.isBound bound parameter = true := by
  unfold checkBound
  cases found : method.arguments.find? fun parameter =>
      !Argument.isBound bound parameter with
  | none => simpa using List.find?_eq_none.mp found
  | some missing =>
      have unbound := List.find?_some found
      constructor
      · intro impossible
        cases impossible
      · intro complete
        simp [complete missing (List.mem_of_find?_eq_some found)] at unbound

theorem checkOutcome_eq_ok_iff {outcome : Outcome} :
    checkOutcome method outcome = .ok () ↔ outcome.Suits method.returnType := by
  cases outcome with
  | void => simp [checkOutcome, Outcome.Suits, JavaType.isVoid_iff]
  | returned value => simp [checkOutcome, Outcome.Suits, JavaType.isVoid_iff]
  | threw exception => simp [checkOutcome, Outcome.Suits]

theorem build_eq_ok {given : List (Parameter × Value)} {outcome : Outcome}
    {test : TestCase} (built : build method given outcome = .ok test) :
    test.method = method ∧ test.outcome = outcome ∧
      (test.arguments.map pair).Perm given ∧ Ascending test.arguments := by
  obtain ⟨bound, bind, built⟩ := bind_eq_ok_iff.mp built
  obtain ⟨_, _, built⟩ := bind_eq_ok_iff.mp built
  obtain ⟨_, _, built⟩ := bind_eq_ok_iff.mp built
  cases built
  obtain ⟨permutation, ascending⟩ := bindArguments_eq_ok bind List.Pairwise.nil
  refine ⟨rfl, rfl, ?_, ascending⟩
  simpa using permutation

theorem exists_build_eq_ok {given : List (Parameter × Value)}
    {outcome : Outcome}
    (binds : (given.map (·.1)).Perm method.arguments)
    (distinct : (method.arguments.map (·.ordinal)).Nodup)
    (suits : outcome.Suits method.returnType) :
    ∃ test, build method given outcome = .ok test := by
  have own : ∀ item ∈ given,
      item.1.isReceiver = false ∧ item.1 ∈ method.parameters := by
    intro item member
    have argument := binds.mem_iff.mp (List.mem_map_of_mem member)
    obtain ⟨known, notReceiver⟩ := List.mem_filter.mp argument
    exact ⟨by simpa using notReceiver, known⟩
  -- Binding goes by ordinal, while the hypotheses speak of parameters.
  have givenDistinct : (given.map (·.1.ordinal)).Nodup := by
    have ordinals := binds.map (·.ordinal)
    rw [List.map_map] at ordinals
    exact ordinals.nodup_iff.mpr distinct
  obtain ⟨bound, bind⟩ :=
    exists_bindArguments_eq_ok [] own (by simpa using givenDistinct)
  obtain ⟨permutation, ascending⟩ := bindArguments_eq_ok bind List.Pairwise.nil
  have complete : checkBound method bound = .ok () := by
    apply checkBound_eq_ok_iff.mpr
    intro parameter member
    apply Argument.isBound_eq_true_iff.mpr
    obtain ⟨item, itemMember, rfl⟩ :=
      List.mem_map.mp (binds.mem_iff.mpr member)
    have itemBound : item ∈ bound.map pair :=
      permutation.mem_iff.mpr (by simpa using itemMember)
    obtain ⟨argument, argumentMember, rfl⟩ := List.mem_map.mp itemBound
    exact List.mem_map_of_mem argumentMember
  refine ⟨{ method := method, arguments := bound, outcome := outcome }, ?_⟩
  apply bind_eq_ok_iff.mpr
  refine ⟨bound, bind, bind_eq_ok_iff.mpr ⟨(), complete, ?_⟩⟩
  exact bind_eq_ok_iff.mpr ⟨(), checkOutcome_eq_ok_iff.mpr suits, rfl⟩

/-- A test case binds the arguments of its method, if these have different ordinals. -/
theorem parameters_perm_of_build {given : List (Parameter × Value)} {outcome : Outcome}
    {test : TestCase} (distinct : (method.arguments.map (·.ordinal)).Nodup)
    (built : build method given outcome = .ok test) :
    (test.arguments.map (·.parameter)).Perm method.arguments := by
  obtain ⟨_, _, permutation, ascending⟩ := build_eq_ok built
  obtain ⟨bound, bind, built⟩ := bind_eq_ok_iff.mp built
  obtain ⟨_, complete, built⟩ := bind_eq_ok_iff.mp built
  obtain ⟨_, _, built⟩ := bind_eq_ok_iff.mp built
  cases built
  have boundOrdered : Parameter.Ascending (bound.map (·.parameter)) :=
    List.pairwise_map.mpr ascending
  have own : ∀ argument ∈ bound, argument.parameter ∈ method.arguments := by
    intro argument member
    exact own_of_bindArguments bind argument.pair
      (permutation.mem_iff.mp (List.mem_map_of_mem member))
  -- Completeness is checked by ordinal, and ordinals tell the arguments apart.
  have bindsAll : ∀ parameter ∈ method.arguments,
      parameter ∈ bound.map (·.parameter) := by
    intro parameter member
    obtain ⟨argument, given, sameOrdinal⟩ := List.mem_map.mp
      (Argument.isBound_eq_true_iff.mp
        (checkBound_eq_ok_iff.mp complete parameter member))
    have same : argument.parameter = parameter :=
      List.inj_on_of_nodup_map distinct (own argument given) member sameOrdinal
    exact List.mem_map.mpr ⟨argument, given, same⟩
  refine (List.perm_ext_iff_of_nodup (.of_map _ boundOrdered.distinct)
    (.of_map _ distinct)).mpr fun parameter => ⟨?_, bindsAll parameter⟩
  exact List.forall_mem_map.mpr own parameter

/-- If ordinals ascend along the parameters, the arguments are those of the method
in declaration order. -/
theorem parameters_of_build {given : List (Parameter × Value)} {outcome : Outcome}
    {test : TestCase}
    (ordered : Parameter.Ascending method.parameters)
    (built : build method given outcome = .ok test) :
    test.arguments.map (·.parameter) = method.arguments := by
  have argumentsOrdered : Parameter.Ascending method.arguments :=
    ordered.filter _
  obtain ⟨_, _, _, ascending⟩ := build_eq_ok built
  exact Parameter.Ascending.eq_of_perm (List.pairwise_map.mpr ascending) argumentsOrdered
    (parameters_perm_of_build argumentsOrdered.distinct built)

/-- Test cases of a method bind the same parameters in the same order. -/
theorem parameters_eq_of_build {leftGiven rightGiven : List (Parameter × Value)}
    {leftOutcome rightOutcome : Outcome} {left right : TestCase}
    (distinct : (method.arguments.map (·.ordinal)).Nodup)
    (leftBuilt : build method leftGiven leftOutcome = .ok left)
    (rightBuilt : build method rightGiven rightOutcome = .ok right) :
    left.arguments.map (·.parameter) = right.arguments.map (·.parameter) := by
  obtain ⟨_, _, _, leftAscending⟩ := build_eq_ok leftBuilt
  obtain ⟨_, _, _, rightAscending⟩ := build_eq_ok rightBuilt
  exact Parameter.Ascending.eq_of_perm (List.pairwise_map.mpr leftAscending)
    (List.pairwise_map.mpr rightAscending)
    ((parameters_perm_of_build distinct leftBuilt).trans
      (parameters_perm_of_build distinct rightBuilt).symm)

end TestCase

end TestSynth
