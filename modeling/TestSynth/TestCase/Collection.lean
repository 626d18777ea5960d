import TestSynth.TestCase.Key

/-!
# Collections of test cases

Test cases are grouped by method.  Groups and the test cases inside a group keep
the order in which they first came in, and no test case comes in twice.

A group is found through an index of places, and a test case in its group through
a set that is searched by key.  Neither is ever out of step with the lists.
-/

namespace TestSynth

/-- A set of test cases that is searched by key. -/
structure KeyedTests where
  entries : List (UInt64 × TestCase)

namespace KeyedTests

def empty : KeyedTests :=
  { entries := [] }

/-- Whether the set has a test case.  Others may be found under its key as well. -/
def contains (set : KeyedTests) (test : TestCase) : Bool :=
  let key := test.key
  set.entries.any fun entry => entry.1 == key && test.same entry.2

def insert (set : KeyedTests) (test : TestCase) : KeyedTests :=
  { entries := (test.key, test) :: set.entries }

theorem contains_insert (set : KeyedTests) (test other : TestCase) :
    (set.insert test).contains other = (other.same test || set.contains other) := by
  cases same : other.same test with
  | false => simp [contains, insert, same]
  | true =>
      have key := TestCase.key_eq_of_same same
      simp [contains, insert, same, key]

end KeyedTests

/-- The test cases of one method. -/
structure MethodGroup where
  method : Method
  tests : List TestCase
  /-- The test cases once more, to be found by key. -/
  seen : KeyedTests
  seen_contains : ∀ test, seen.contains test = tests.any test.same

namespace MethodGroup

/-- The group of a method that has no test cases yet. -/
def new (method : Method) : MethodGroup :=
  { method := method
    tests := []
    seen := .empty
    seen_contains := fun _ => rfl }

def contains (group : MethodGroup) (test : TestCase) : Bool :=
  group.seen.contains test

/-- Adds a test case at the end, unless the group has it. -/
def insert (group : MethodGroup) (test : TestCase) : MethodGroup :=
  if group.contains test then group
  else
    { method := group.method
      tests := group.tests ++ [test]
      seen := group.seen.insert test
      seen_contains := by
        intro other
        rw [KeyedTests.contains_insert, group.seen_contains, List.any_append, Bool.or_comm]
        simp }

theorem contains_eq_any (group : MethodGroup) (test : TestCase) :
    group.contains test = group.tests.any test.same :=
  group.seen_contains test

@[simp] theorem method_insert (group : MethodGroup) (test : TestCase) :
    (group.insert test).method = group.method := by
  unfold insert
  split <;> rfl

theorem insert_of_contains {group : MethodGroup} {test : TestCase}
    (known : group.contains test = true) : group.insert test = group := by
  simp [insert, known]

theorem tests_insert (group : MethodGroup) (test : TestCase) :
    (group.insert test).tests =
      if group.contains test then group.tests else group.tests ++ [test] := by
  unfold insert
  split <;> rfl

end MethodGroup

structure Collection where
  groups : List MethodGroup
  /-- The place of the group of each method. -/
  index : List (Method × Nat)
  indexed : ∀ method place,
    index.lookup method = some place ↔ (groups[place]?).map (·.method) = some method

namespace Collection

def empty : Collection :=
  { groups := []
    index := []
    indexed := by simp }

def group? (collection : Collection) (method : Method) : Option MethodGroup :=
  (collection.index.lookup method).bind fun place => collection.groups[place]?

def containsMethod (collection : Collection) (method : Method) : Bool :=
  (collection.index.lookup method).isSome

/-- Whether the collection has a test case. -/
def contains (collection : Collection) (test : TestCase) : Bool :=
  match collection.group? test.method with
  | some group => group.contains test
  | none => false

/-- Adds the group of a method that has none. -/
def addGroup (collection : Collection) (method : Method)
    (absent : collection.index.lookup method = none) : Collection :=
  { groups := collection.groups ++ [.new method]
    index := (method, collection.groups.length) :: collection.index
    indexed := by
      intro other place
      have known := collection.indexed other place
      rw [List.lookup_cons]
      rcases Nat.lt_trichotomy place collection.groups.length with inside | rfl | outside
      · rw [List.getElem?_append_left inside, ← known]
        cases same : other == method with
        | true => simp [eq_of_beq same, absent, Nat.ne_of_gt inside]
        | false => rfl
      · rw [List.getElem?_concat_length]
        cases same : other == method with
        | true => simp [eq_of_beq same, MethodGroup.new]
        | false => simpa [MethodGroup.new, Ne.symm (ne_of_beq_false same)] using known
      · rw [List.getElem?_eq_none (Nat.le_of_lt outside)] at known
        rw [List.getElem?_eq_none (by simpa using Nat.succ_le_of_lt outside)]
        cases same : other == method with
        | true => simpa using Nat.ne_of_lt outside
        | false => exact known }

/-- The place of the group of a method, which is added at the end if there is none. -/
def reserve (collection : Collection) (method : Method) : Nat × Collection :=
  match absent : collection.index.lookup method with
  | some place => (place, collection)
  | none => (collection.groups.length, collection.addGroup method absent)

/-- Adds a test case to the group at a place. -/
def insertAt (collection : Collection) (place : Nat) (test : TestCase) : Collection :=
  { collection with
    groups := collection.groups.modify place (·.insert test)
    indexed := by
      intro method other
      rw [collection.indexed, List.getElem?_modify]
      cases collection.groups[other]? with
      | none => simp
      | some group => by_cases place = other <;> simp [*] }

/-- Adds a test case, unless the collection has it, and tells whether it was new. -/
def offer (collection : Collection) (test : TestCase) : Bool × Collection :=
  let (place, ready) := collection.reserve test.method
  ((ready.groups[place]?).any fun group => !group.contains test, ready.insertAt place test)

/-- Adds a test case, unless the collection has it. -/
def insert (collection : Collection) (test : TestCase) : Collection :=
  (collection.offer test).2

/-- The test cases, group by group. -/
def tests (collection : Collection) : List TestCase :=
  collection.groups.flatMap (·.tests)

/-- How many test cases there are. -/
def size (collection : Collection) : Nat :=
  collection.tests.length

def isEmpty (collection : Collection) : Bool :=
  collection.groups.isEmpty

end Collection

end TestSynth
