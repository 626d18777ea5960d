import TestSynth.TestCase.Collection

/-!
# Insertion into collections

An insertion changes only the group of the method, so a collection has the test
case afterwards and whatever it had before.  The index gives each method the group
that the list has for it.
-/

namespace TestSynth

theorem TestCase.same_self (test : TestCase) : test.same test = true := by
  unfold same
  cases test.outcome <;> simp [Outcome.same, ThrownException.same]

namespace MethodGroup

variable {group : MethodGroup} {test other : TestCase}

theorem mem_tests_insert (member : other ∈ (group.insert test).tests) :
    other ∈ group.tests ∨ other = test := by
  rw [tests_insert] at member
  split at member
  · exact .inl member
  · rcases List.mem_append.mp member with kept | added
    · exact .inl kept
    · exact .inr (List.mem_singleton.mp added)

theorem tests_prefix_insert : group.tests <+: (group.insert test).tests := by
  rw [tests_insert]
  split
  · exact List.prefix_rfl
  · exact List.prefix_append _ _

theorem contains_insert (group : MethodGroup) (test other : TestCase) :
    (group.insert test).contains other =
      (group.contains other || (!group.contains test && other.same test)) := by
  simp only [contains_eq_any, tests_insert]
  cases group.tests.any test.same <;> simp

theorem contains_insert_self : (group.insert test).contains test = true := by
  simp [contains_insert, TestCase.same_self]

theorem contains_insert_of_contains (found : group.contains other = true) :
    (group.insert test).contains other = true := by
  simp [contains_insert, found]

end MethodGroup

namespace Collection

variable {collection : Collection} {method other : Method} {test : TestCase}
  {group : MethodGroup}

theorem group?_eq_some_iff :
    collection.group? method = some group ↔
      group ∈ collection.groups ∧ group.method = method := by
  constructor
  · intro found
    obtain ⟨place, known, there⟩ := Option.bind_eq_some_iff.mp found
    have same := (collection.indexed method place).mp known
    rw [there] at same
    exact ⟨List.mem_of_getElem? there, Option.some.inj same⟩
  · rintro ⟨member, same⟩
    obtain ⟨place, there⟩ := List.mem_iff_getElem?.mp member
    have known : collection.index.lookup method = some place := by
      rw [collection.indexed, there, ← same]
      rfl
    exact Option.bind_eq_some_iff.mpr ⟨place, known, there⟩

theorem containsMethod_eq_isSome :
    collection.containsMethod method = (collection.group? method).isSome := by
  cases known : collection.index.lookup method with
  | none => simp [containsMethod, group?, known]
  | some place =>
      have there := (collection.indexed method place).mp known
      obtain ⟨group, there, _⟩ := Option.map_eq_some_iff.mp there
      simp [containsMethod, group?, known, there]

theorem containsMethod_iff :
    collection.containsMethod method = true ↔
      method ∈ collection.groups.map (·.method) := by
  rw [containsMethod_eq_isSome, Option.isSome_iff_exists, List.mem_map]
  simp only [group?_eq_some_iff]

/-- The group that a test case of a method goes to. -/
def target (collection : Collection) (method : Method) : MethodGroup :=
  (collection.group? method).getD (.new method)

theorem method_target : (collection.target method).method = method := by
  unfold target
  cases found : collection.group? method with
  | none => rfl
  | some group => exact (group?_eq_some_iff.mp found).2

theorem contains_target (collection : Collection) (test : TestCase) :
    (collection.target test.method).contains test = collection.contains test := by
  unfold target contains
  cases collection.group? test.method <;> rfl

theorem reserve_of_present {place : Nat}
    (present : collection.index.lookup method = some place) :
    collection.reserve method = (place, collection) := by
  unfold reserve
  split
  · simp_all
  · simp_all

theorem reserve_of_absent (absent : collection.index.lookup method = none) :
    collection.reserve method =
      (collection.groups.length, collection.addGroup method absent) := by
  unfold reserve
  split
  · simp_all
  · rfl

theorem getElem?_reserve (collection : Collection) (method : Method) :
    (collection.reserve method).2.groups[(collection.reserve method).1]? =
      some (collection.target method) := by
  cases found : collection.index.lookup method with
  | none =>
      rw [reserve_of_absent found]
      simp [addGroup, target, group?, found]
  | some place =>
      have there := (collection.indexed method place).mp found
      obtain ⟨group, there, _⟩ := Option.map_eq_some_iff.mp there
      rw [reserve_of_present found]
      simp [target, group?, found, there]

theorem lookup_reserve (collection : Collection) (method : Method) :
    (collection.reserve method).2.index.lookup method =
      some (collection.reserve method).1 := by
  rw [indexed, getElem?_reserve, Option.map_some, method_target]

theorem group?_reserve_other (collection : Collection) (different : other ≠ method) :
    (collection.reserve method).2.group? other = collection.group? other := by
  cases found : collection.index.lookup method with
  | some place => rw [reserve_of_present found]
  | none =>
      rw [reserve_of_absent found]
      apply Option.ext
      intro group
      simp only [group?_eq_some_iff, addGroup, List.mem_append, List.mem_singleton]
      constructor
      · rintro ⟨kept | rfl, same⟩
        · exact ⟨kept, same⟩
        · exact absurd same.symm different
      · rintro ⟨kept, same⟩
        exact ⟨.inl kept, same⟩

theorem group?_insert_self :
    (collection.insert test).group? test.method =
      some ((collection.target test.method).insert test) := by
  have there := getElem?_reserve collection test.method
  have known := lookup_reserve collection test.method
  simp [insert, offer, insertAt, group?, known, there]

theorem group?_insert_other (different : method ≠ test.method) :
    (collection.insert test).group? method = collection.group? method := by
  rw [← group?_reserve_other collection different]
  have reserved := lookup_reserve collection test.method
  simp only [insert, offer, insertAt, group?]
  cases known : (collection.reserve test.method).2.index.lookup method with
  | none => rfl
  | some place =>
      have apart : (collection.reserve test.method).1 ≠ place := by
        rintro rfl
        have there := (indexed _ _ _).mp known
        rw [(indexed _ _ _).mp reserved] at there
        exact different (Option.some.inj there).symm
      simp [List.getElem?_modify, apart]

theorem fst_offer (collection : Collection) (test : TestCase) :
    (collection.offer test).1 = !collection.contains test := by
  simp [offer, getElem?_reserve, contains_target]

theorem offer_eq (collection : Collection) (test : TestCase) :
    collection.offer test = (!collection.contains test, collection.insert test) :=
  Prod.ext (fst_offer collection test) rfl

theorem groups_insert_of_present {place : Nat}
    (present : collection.index.lookup test.method = some place) :
    (collection.insert test).groups = collection.groups.modify place (·.insert test) := by
  simp only [insert, offer, reserve_of_present present, insertAt]

theorem groups_insert_of_absent (absent : collection.index.lookup test.method = none) :
    (collection.insert test).groups =
      collection.groups ++ [(MethodGroup.new test.method).insert test] := by
  simp only [insert, offer, reserve_of_absent absent, insertAt, addGroup]
  exact List.modifyTailIdx_add (List.modifyHead (·.insert test)) 0 collection.groups _

theorem insert_of_contains (known : collection.contains test = true) :
    collection.insert test = collection := by
  have full : (collection.target test.method).contains test = true := by
    rw [contains_target]
    exact known
  cases found : collection.index.lookup test.method with
  | none => simp [contains, group?, found] at known
  | some place =>
      have there := getElem?_reserve collection test.method
      simp only [reserve_of_present found] at there
      have unchanged :
          collection.groups.modify place (·.insert test) = collection.groups := by
        apply List.ext_getElem?
        intro other
        rw [List.getElem?_modify]
        by_cases same : place = other
        · subst same
          simp [there, MethodGroup.insert_of_contains full]
        · simp [same]
      simp only [insert, offer, reserve_of_present found, insertAt, unchanged]

theorem target_insert (collection : Collection) (test : TestCase)
    (method : Method) :
    (collection.insert test).target method =
      if method = test.method then (collection.target method).insert test
      else collection.target method := by
  by_cases same : method = test.method
  · subst same
    simp [target, group?_insert_self]
  · simp [target, group?_insert_other same, same]

theorem methods_insert (collection : Collection) (test : TestCase) :
    (collection.insert test).groups.map (·.method) =
      if collection.containsMethod test.method then
        collection.groups.map (·.method)
      else collection.groups.map (·.method) ++ [test.method] := by
  have kept : ∀ (groups : List MethodGroup) (place : Nat),
      (groups.modify place (·.insert test)).map (·.method) =
        groups.map (·.method) := by
    intro groups place
    apply List.ext_getElem?
    intro other
    rw [List.getElem?_map, List.getElem?_modify, List.getElem?_map]
    cases groups[other]? with
    | none => rfl
    | some group => by_cases same : place = other <;> simp [same]
  cases found : collection.index.lookup test.method with
  | none => simp [groups_insert_of_absent found, MethodGroup.new, containsMethod, found]
  | some place => simp [groups_insert_of_present found, kept, containsMethod, found]

private theorem length_tests_modify {groups : List MethodGroup} {place : Nat}
    (there : groups[place]? = some group) (fresh : group.contains test = false) :
    ((groups.modify place (·.insert test)).flatMap (·.tests)).length =
      (groups.flatMap (·.tests)).length + 1 := by
  induction groups generalizing place with
  | nil => cases there
  | cons first rest ih =>
      cases place with
      | zero =>
          cases there
          simp [MethodGroup.tests_insert, fresh]
          omega
      | succ place =>
          have counted := ih there
          simp only [List.modify_succ_cons, List.flatMap_cons, List.length_append,
            counted]
          omega

/-- A new test case makes a collection larger by one. -/
theorem size_insert_of_not_contains
    (fresh : collection.contains test = false) :
    (collection.insert test).size = collection.size + 1 := by
  have there := getElem?_reserve collection test.method
  have targetFresh : (collection.target test.method).contains test = false := by
    rw [contains_target]
    exact fresh
  have counted := length_tests_modify there targetFresh
  simp only [size, tests, insert, offer, insertAt, counted]
  cases found : collection.index.lookup test.method with
  | none => simp [reserve_of_absent found, addGroup, MethodGroup.new]
  | some place => rw [reserve_of_present found]

/-- The collection has the test case already, in the group of its method. -/
def Has (collection : Collection) (test : TestCase) : Prop :=
  ∃ group ∈ collection.groups, group.method = test.method ∧
    ∃ known ∈ group.tests, test.same known = true

/-- A collection becomes another in which a test case comes last in the group of its
method, or opens a group of its own after all others. -/
inductive Gains (collection : Collection) (test : TestCase) (after : Collection) : Prop
  | joined {before rest : List MethodGroup} {group grown : MethodGroup} :
      collection.groups = before ++ group :: rest → group.method = test.method →
      after.groups = before ++ grown :: rest → grown.method = test.method →
      grown.tests = group.tests ++ [test] →
      Gains collection test after
  | opened {group : MethodGroup} :
      test.method ∉ collection.groups.map (·.method) →
      after.groups = collection.groups ++ [group] → group.method = test.method →
      group.tests = [test] →
      Gains collection test after

theorem contains_iff_has : collection.contains test = true ↔ collection.Has test := by
  unfold contains Has
  constructor
  · intro known
    cases found : collection.group? test.method with
    | none => simp [found] at known
    | some group =>
        obtain ⟨member, same⟩ := group?_eq_some_iff.mp found
        simp only [found, MethodGroup.contains_eq_any, List.any_eq_true] at known
        exact ⟨group, member, same, known⟩
  · rintro ⟨group, member, same, known⟩
    simp only [group?_eq_some_iff.mpr ⟨member, same⟩, MethodGroup.contains_eq_any,
      List.any_eq_true]
    exact known

/-- A test case of a known method goes to the group of the method; the groups before and
after it are kept. -/
theorem exists_split_insert {place : Nat}
    (present : collection.index.lookup test.method = some place) :
    ∃ before rest,
      collection.groups = before ++ collection.target test.method :: rest ∧
        (collection.insert test).groups =
          before ++ (collection.target test.method).insert test :: rest := by
  have there := getElem?_reserve collection test.method
  simp only [reserve_of_present present] at there
  obtain ⟨inside, _⟩ := List.getElem?_eq_some_iff.mp there
  obtain ⟨before, group, rest, split, rfl, modified⟩ :=
    List.exists_of_modify (·.insert test) inside
  rw [split, List.getElem?_append_right (Nat.le_refl _), Nat.sub_self,
    List.getElem?_cons_zero] at there
  cases there
  exact ⟨before, rest, split, (groups_insert_of_present present).trans modified⟩

theorem target_of_absent (absent : collection.index.lookup method = none) :
    collection.target method = .new method := by
  simp [target, group?, absent]

theorem tests_insert_target (fresh : collection.contains test = false) :
    ((collection.target test.method).insert test).tests =
      (collection.target test.method).tests ++ [test] := by
  rw [MethodGroup.tests_insert, contains_target, fresh]
  rfl

/-- An insertion adds a test case that is not there yet, and nothing else. -/
theorem gains_insert (fresh : collection.contains test = false) :
    collection.Gains test (collection.insert test) := by
  have added := tests_insert_target fresh
  cases found : collection.index.lookup test.method with
  | some place =>
      obtain ⟨before, rest, split, inserted⟩ := exists_split_insert found
      have method : ((collection.target test.method).insert test).method = test.method :=
        (MethodGroup.method_insert _ _).trans method_target
      exact .joined split method_target inserted method added
  | none =>
      rw [target_of_absent found] at added
      refine .opened ?_ (groups_insert_of_absent found) (MethodGroup.method_insert _ _) added
      rw [← containsMethod_iff]
      simp [containsMethod, found]

theorem mem_tests_iff {test : TestCase} :
    test ∈ collection.tests ↔
      ∃ method group, collection.group? method = some group ∧ test ∈ group.tests := by
  simp only [tests, List.mem_flatMap, group?_eq_some_iff]
  constructor
  · rintro ⟨group, member, inside⟩
    exact ⟨_, group, ⟨member, rfl⟩, inside⟩
  · rintro ⟨_, group, ⟨member, _⟩, inside⟩
    exact ⟨group, member, inside⟩

theorem mem_tests_insert {other : TestCase}
    (member : other ∈ (collection.insert test).tests) :
    other ∈ collection.tests ∨ other = test := by
  obtain ⟨method, group, found, inside⟩ := mem_tests_iff.mp member
  by_cases same : method = test.method
  · subst same
    rw [group?_insert_self] at found
    cases found
    rcases MethodGroup.mem_tests_insert inside with kept | added
    · cases known : collection.group? test.method with
      | none => simp [target, known, MethodGroup.new] at kept
      | some group =>
          rw [target, known] at kept
          exact .inl (mem_tests_iff.mpr ⟨_, group, known, kept⟩)
    · exact .inr added
  · rw [group?_insert_other same] at found
    exact .inl (mem_tests_iff.mpr ⟨method, group, found, inside⟩)

theorem contains_insert_self :
    (collection.insert test).contains test = true := by
  simp only [contains, group?_insert_self]
  exact MethodGroup.contains_insert_self

theorem contains_insert_of_contains {other : TestCase}
    (found : collection.contains other = true) :
    (collection.insert test).contains other = true := by
  by_cases same : other.method = test.method
  · rw [← contains_target, same] at found
    simp only [contains, same, group?_insert_self]
    exact MethodGroup.contains_insert_of_contains found
  · simp only [contains, group?_insert_other same]
    exact found

end Collection

end TestSynth
