import Mathlib.Data.List.Induction
import TestSynth.Proofs.TestCase.Collecting

/-!
# Collections by arrival

A collection into which test cases came one after the other lists the first of
every same test cases, in order of arrival and grouped by method.  The index of the
groups and the sets of their test cases answer according to these lists.
-/

namespace TestSynth

private theorem eraseDupsBy_concat {α : Type} (related : α → α → Bool)
    (items : List α) (last : α) :
    (items ++ [last]).eraseDupsBy related =
      if (items.eraseDupsBy related).any (related last) then
        items.eraseDupsBy related
      else items.eraseDupsBy related ++ [last] := by
  have loop : ∀ kept : List α,
      List.eraseDupsBy.loop related (items ++ [last]) kept =
        if (List.eraseDupsBy.loop related items kept).any (related last) then
          List.eraseDupsBy.loop related items kept
        else List.eraseDupsBy.loop related items kept ++ [last] := by
    induction items with
    | nil =>
        intro kept
        cases known : kept.any (related last) <;>
          simp [List.eraseDupsBy.loop, known]
    | cons first rest ih =>
        intro kept
        cases known : kept.any (related first) with
        | true =>
            simp only [List.cons_append, List.eraseDupsBy.loop, known]
            exact ih kept
        | false =>
            simp only [List.cons_append, List.eraseDupsBy.loop, known]
            exact ih (first :: kept)
  exact loop []

theorem Outcome.same_trans {first second third : Outcome}
    (left : first.same second = true) (right : second.same third = true) :
    first.same third = true := by
  cases first <;> cases second <;> cases third <;>
    simp_all [Outcome.same, ThrownException.same]

namespace TestCase

theorem same_trans {first second third : TestCase}
    (left : first.same second = true) (right : second.same third = true) :
    first.same third = true := by
  obtain ⟨method, arguments, outcome⟩ := same_iff.mp left
  obtain ⟨laterMethod, laterArguments, laterOutcome⟩ := same_iff.mp right
  exact same_iff.mpr ⟨method.trans laterMethod, arguments.trans laterArguments,
    Outcome.same_trans outcome laterOutcome⟩

/-- The test cases that are the same as none before. -/
def firsts (given : List TestCase) : List TestCase :=
  given.eraseDupsBy same

theorem firsts_concat (given : List TestCase) (test : TestCase) :
    firsts (given ++ [test]) =
      if (firsts given).any test.same then firsts given
      else firsts given ++ [test] :=
  eraseDupsBy_concat same given test

/-- Leaving later test cases out does not change which ones are there. -/
theorem any_firsts (given : List TestCase) (test : TestCase) :
    (firsts given).any test.same = given.any test.same := by
  induction given using List.reverseRecOn with
  | nil => rfl
  | append_singleton earlier last ih =>
      rw [firsts_concat, List.any_append, ← ih]
      cases known : (firsts earlier).any last.same with
      | false => simp
      | true =>
          cases same : test.same last with
          | false => simp [same]
          | true =>
              obtain ⟨first, member, lastSame⟩ := List.any_eq_true.mp known
              have found : (firsts earlier).any test.same = true :=
                List.any_eq_true.mpr ⟨first, member, same_trans same lastSame⟩
              simp [found]

end TestCase

namespace Collection

open TestCase (firsts firsts_concat any_firsts)

/-- The collection of test cases that come in one after the other. -/
def ofList (given : List TestCase) : Collection :=
  given.foldl insert empty

theorem ofList_concat (given : List TestCase) (test : TestCase) :
    ofList (given ++ [test]) = (ofList given).insert test := by
  simp [ofList]

theorem methods_ofList (given : List TestCase) :
    (ofList given).groups.map (·.method) = (given.map (·.method)).eraseDups := by
  induction given using List.reverseRecOn with
  | nil => rfl
  | append_singleton earlier test ih =>
      have dups := eraseDupsBy_concat (· == ·) (earlier.map (·.method)) test.method
      rw [ofList_concat, methods_insert, ih, List.map_append]
      refine Eq.trans ?_ dups.symm
      have known : (ofList earlier).containsMethod test.method =
          (earlier.map (·.method)).eraseDups.any (test.method == ·) := by
        rw [Bool.eq_iff_iff, containsMethod_iff, ih]
        simp
      rw [known]
      rfl

theorem tests_target_ofList (given : List TestCase) (method : Method) :
    ((ofList given).target method).tests =
      firsts (given.filter (·.method == method)) := by
  induction given using List.reverseRecOn with
  | nil => rfl
  | append_singleton earlier test ih =>
      rw [ofList_concat, target_insert, List.filter_append]
      by_cases same : method = test.method
      · subst same
        simp only [if_pos, MethodGroup.tests_insert, MethodGroup.contains_eq_any, ih]
        simp [firsts_concat]
      · have apart : test.method ≠ method := Ne.symm same
        simp [same, apart, ih]

theorem contains_ofList (given : List TestCase) (test : TestCase) :
    (ofList given).contains test = given.any test.same := by
  rw [← contains_target, MethodGroup.contains_eq_any, tests_target_ofList,
    any_firsts, List.any_filter]
  congr 1
  funext known
  cases same : test.same known with
  | false => simp
  | true => simp [(TestCase.same_iff.mp same).1]

theorem size_ofList (given : List TestCase) :
    (ofList given).size = (firsts given).length := by
  induction given using List.reverseRecOn with
  | nil => rfl
  | append_singleton earlier test ih =>
      rw [ofList_concat, firsts_concat, any_firsts, ← contains_ofList]
      cases known : (ofList earlier).contains test with
      | true => simp [insert_of_contains known, ih]
      | false => simp [size_insert_of_not_contains known, ih]

/-- Nothing that the earlier collection has is changed, moved or dropped. -/
def Extends (later earlier : Collection) : Prop :=
  ∀ (place : Nat) (group : MethodGroup), earlier.groups[place]? = some group →
    ∃ grown, later.groups[place]? = some grown ∧
      grown.method = group.method ∧ group.tests <+: grown.tests

theorem Extends.refl (collection : Collection) :
    collection.Extends collection :=
  fun _ group there => ⟨group, there, rfl, List.prefix_rfl⟩

theorem Extends.trans {later middle earlier : Collection}
    (second : later.Extends middle) (first : middle.Extends earlier) :
    later.Extends earlier := by
  intro place group there
  obtain ⟨grown, middleThere, middleMethod, middleTests⟩ := first place group there
  obtain ⟨last, laterThere, laterMethod, laterTests⟩ :=
    second place grown middleThere
  exact ⟨last, laterThere, laterMethod.trans middleMethod,
    middleTests.trans laterTests⟩

theorem extends_insert (collection : Collection) (test : TestCase) :
    (collection.insert test).Extends collection := by
  intro place group there
  have kept : (collection.reserve test.method).2.groups[place]? = some group := by
    cases found : collection.index.lookup test.method with
    | none =>
        rw [reserve_of_absent found]
        exact List.getElem?_append_left (List.getElem?_eq_some_iff.mp there).1 ▸ there
    | some _ => rw [reserve_of_present found, there]
  simp only [insert, offer, insertAt, List.getElem?_modify, kept]
  by_cases own : (collection.reserve test.method).1 = place
  · exact ⟨group.insert test, by simp [own], group.method_insert test,
      MethodGroup.tests_prefix_insert⟩
  · exact ⟨group, by simp [own], rfl, List.prefix_rfl⟩

theorem extends_foldl_insert (collection : Collection) (given : List TestCase) :
    (given.foldl insert collection).Extends collection := by
  induction given generalizing collection with
  | nil => exact .refl collection
  | cons test rest ih =>
      exact (ih (collection.insert test)).trans (extends_insert collection test)

/-- What a collection answers if it is made of the given test cases. -/
structure Reflects (collection : Collection) (given : List TestCase) : Prop where
  methods : collection.groups.map (·.method) =
    (given.map (·.method)).eraseDups
  tests : ∀ group ∈ collection.groups,
    group.tests = firsts (given.filter (·.method == group.method))
  populated : ∀ group ∈ collection.groups, group.tests ≠ []
  isEmpty : collection.isEmpty = true ↔ collection.size = 0
  size : collection.size = (firsts given).length
  group? : ∀ method group, collection.group? method = some group ↔
    group ∈ collection.groups ∧ group.method = method
  containsMethod : ∀ method, collection.containsMethod method = true ↔
    ∃ test ∈ given, test.method = method
  contains : ∀ group ∈ collection.groups, ∀ test,
    group.contains test = true ↔
      test.method = group.method ∧ ∃ known ∈ given, test.same known = true

theorem tests_of_mem_ofList {given : List TestCase} {group : MethodGroup}
    (member : group ∈ (ofList given).groups) :
    group.tests = firsts (given.filter (·.method == group.method)) := by
  have found := group?_eq_some_iff.mpr ⟨member, rfl⟩
  rw [← tests_target_ofList, target, found, Option.getD_some]

theorem containsMethod_ofList_iff {given : List TestCase} {method : Method} :
    (ofList given).containsMethod method = true ↔
      ∃ test ∈ given, test.method = method := by
  rw [containsMethod_iff, methods_ofList, List.mem_eraseDups, List.mem_map]

theorem exists_same_of_mem_ofList {given : List TestCase} {group : MethodGroup}
    (member : group ∈ (ofList given).groups) :
    ∃ test ∈ given, test.method = group.method :=
  containsMethod_ofList_iff.mp
    (containsMethod_iff.mpr (List.mem_map_of_mem member))

theorem populated_of_mem_ofList {given : List TestCase} {group : MethodGroup}
    (member : group ∈ (ofList given).groups) : group.tests ≠ [] := by
  obtain ⟨test, arrived, method⟩ := exists_same_of_mem_ofList member
  have known : (given.filter (·.method == group.method)).any test.same = true :=
    List.any_eq_true.mpr
      ⟨test, List.mem_filter.mpr ⟨arrived, by simpa using method⟩, test.same_self⟩
  rw [← any_firsts, ← tests_of_mem_ofList member] at known
  intro empty
  simp [empty] at known

theorem contains_of_mem_ofList {given : List TestCase} {group : MethodGroup}
    (member : group ∈ (ofList given).groups) {test : TestCase} :
    group.contains test = true ↔
      test.method = group.method ∧ ∃ known ∈ given, test.same known = true := by
  rw [MethodGroup.contains_eq_any, tests_of_mem_ofList member, any_firsts,
    List.any_filter, List.any_eq_true]
  constructor
  · rintro ⟨known, arrived, both⟩
    obtain ⟨method, same⟩ := Bool.and_eq_true_iff.mp both
    have sameMethod := (TestCase.same_iff.mp same).1
    exact ⟨sameMethod.trans (eq_of_beq method), known, arrived, same⟩
  · rintro ⟨method, known, arrived, same⟩
    have sameMethod := (TestCase.same_iff.mp same).1
    have own : (known.method == group.method) = true :=
      beq_iff_eq.mpr (sameMethod.symm.trans method)
    exact ⟨known, arrived, Bool.and_eq_true_iff.mpr ⟨own, same⟩⟩

theorem isEmpty_ofList_iff {given : List TestCase} :
    (ofList given).isEmpty = true ↔ (ofList given).size = 0 := by
  rw [isEmpty, List.isEmpty_iff, size, List.length_eq_zero_iff, tests,
    List.flatMap_eq_nil_iff]
  constructor
  · intro none group member
    rw [none] at member
    cases member
  · intro empty
    apply List.eq_nil_iff_forall_not_mem.mpr
    intro group member
    exact populated_of_mem_ofList member (empty group member)

theorem offer_ofList_iff {given : List TestCase} {test : TestCase} :
    ((ofList given).offer test).1 = true ↔
      ∀ known ∈ given, test.same known = false := by
  rw [fst_offer, contains_ofList]
  simp

/-- A collection of test cases reflects them, takes a further one in exactly if it
is the same as none before, and keeps all it has while others come in. -/
theorem ofList_reflects (given : List TestCase) :
    (ofList given).Reflects given ∧
      ∀ test later,
        (((ofList given).offer test).1 = true ↔
          ∀ known ∈ given, test.same known = false) ∧
        ((ofList given).offer test).2 = ofList (given ++ [test]) ∧
        (ofList (given ++ later)).Extends (ofList given) := by
  constructor
  · exact {
      methods := methods_ofList given
      tests := fun _ => tests_of_mem_ofList
      populated := fun _ => populated_of_mem_ofList
      isEmpty := isEmpty_ofList_iff
      size := size_ofList given
      group? := fun _ _ => group?_eq_some_iff
      containsMethod := fun _ => containsMethod_ofList_iff
      contains := fun _ member _ => contains_of_mem_ofList member }
  · intro test later
    refine ⟨offer_ofList_iff, (ofList_concat given test).symm, ?_⟩
    simp only [ofList, List.foldl_append]
    exact extends_foldl_insert _ later

end Collection

end TestSynth
