import Mathlib.Data.List.Induction
import TestSynth.Proofs.Report.Delivery

/-!
# Shared registries

All handles that descend from one handle on a registry refer to the same place, so they
answer alike, whichever of them a factory was registered through: like one map from names
to factories, in which the latest registration of a name is the one that counts.
-/

namespace TestSynth

/-- What a registry is asked for. -/
inductive RegistryCall
  | register (name : String) (factory : Factory)
  | clone
  | contains (name : String)
  | names
  | create (config : Config)

/-- A call that is made through a handle. -/
structure RegistryRequest where
  handle : Nat
  call : RegistryCall

inductive RegistryReply
  | done
  | known (answer : Bool)
  | listed (names : List String)
  | created (result : Except Fault Formatter)

namespace RegistryCall

/-- What a call registers. -/
def registration? : RegistryCall → Option (String × Factory)
  | .register name factory => some (name, factory)
  | _ => none

def isClone : RegistryCall → Bool
  | .clone => true
  | _ => false

/-- The handles that a call adds. -/
def added (call : RegistryCall) : Nat :=
  if call.isClone then 1 else 0

end RegistryCall

/-- The calls, among requests, that go through a handle there is by then. -/
def RegistryRequest.calls (handles : Nat) : List RegistryRequest → List RegistryCall
  | [] => []
  | request :: rest =>
      if request.handle < handles then
        request.call :: RegistryRequest.calls (handles + request.call.added) rest
      else RegistryRequest.calls handles rest

/-- The factory that was registered under a name, and none after it. -/
def RegisteredLast (registered : List (String × Factory)) (name : String)
    (factory : Factory) : Prop :=
  ∃ before after, registered = before ++ (name, factory) :: after ∧ name ∉ after.map (·.1)

namespace Registry

/-- What is answered to a call. -/
def reply (registry : Registry) : RegistryCall → RegistryReply
  | .register _ _ => .done
  | .clone => .done
  | .contains name => .known (registry.contains name)
  | .names => .listed registry.names
  | .create config => .created (registry.create config)

/-- What is left after a call. -/
def after (registry : Registry) : RegistryCall → Registry
  | .register name factory => registry.register name factory
  | _ => registry

/-- The factories that are registered from the start, in the order of their registration. -/
def builtinFactories : List (String × Factory) :=
  [("junit5", fun config => .ok (JUnit.formatter .junit5 config)),
    ("junit4", fun config => .ok (JUnit.formatter .junit4 config)),
    ("json", fun config => .ok (Document.formatter config))]

/-- The registry answers from the map of the factories that were registered last, in
whatever order the entries of the map come. -/
structure AnswersFrom (registry : Registry) (registered : List (String × Factory)) :
    Prop where
  ascending : registry.names.Pairwise (· < ·)
  listed : ∀ name, name ∈ registry.names ↔ name ∈ registered.map (·.1)
  orderless : ∀ other : Registry, other.entries.Perm registry.entries →
    ∀ call, other.reply call = registry.reply call
  contains : ∀ name, registry.contains name = true ↔ name ∈ registered.map (·.1)
  created : ∀ config factory, RegisteredLast registered config.formatter factory →
    registry.create config = factory config
  unknown : ∀ config, config.formatter ∉ registered.map (·.1) →
    registry.create config = .error (.unknownFormatter config.formatter)
  /-- A factory may give the same fault of its own accord, which is passed on. -/
  unknown_iff : ∀ config,
    registry.create config = .error (.unknownFormatter config.formatter) ↔
      config.formatter ∉ registered.map (·.1) ∨
        ∃ factory, RegisteredLast registered config.formatter factory ∧
          factory config = .error (.unknownFormatter config.formatter)

end Registry

namespace SharedRegistry

/-- Answers a request; there is no answer through a handle that does not exist. -/
def answer (shared : SharedRegistry) (request : RegistryRequest) :
    Option RegistryReply × SharedRegistry :=
  match shared.view? request.handle with
  | none => (none, shared)
  | some registry =>
      let left :=
        match request.call with
        | .register name factory => shared.register request.handle name factory
        | .clone => shared.clone request.handle
        | _ => shared
      (some (registry.reply request.call), left)

/-- What is left after requests, one answered after the other. -/
def run (shared : SharedRegistry) (requests : List RegistryRequest) : SharedRegistry :=
  requests.foldl (fun current request => (current.answer request).2) shared

/-- Handles that all refer to one registry, which was added to others. -/
def joined (others : List Registry) (registry : Registry) (handles : Nat) : SharedRegistry :=
  { registries := others ++ [registry]
    handles := List.replicate handles others.length }

end SharedRegistry

section Registered

variable {registered : List (String × Factory)} {name other : String}
  {factory made : Factory}

theorem registeredLast_concat_iff :
    RegisteredLast (registered ++ [(other, made)]) name factory ↔
      (other = name ∧ made = factory) ∨
        (other ≠ name ∧ RegisteredLast registered name factory) := by
  constructor
  · rintro ⟨before, after, same, later⟩
    rcases List.eq_nil_or_concat after with rfl | ⟨init, last, rfl⟩
    · obtain ⟨_, ends⟩ := List.append_inj' same rfl
      cases ends
      exact .inl ⟨rfl, rfl⟩
    · rw [List.concat_eq_append] at same later
      rw [← List.cons_append, ← List.append_assoc] at same
      obtain ⟨rfl, ends⟩ := List.append_inj' same rfl
      cases ends
      rw [List.map_append, List.mem_append, not_or, List.map_singleton] at later
      refine .inr ⟨?_, before, init, rfl, later.1⟩
      rintro rfl
      exact later.2 List.mem_cons_self
  · rintro (⟨rfl, rfl⟩ | ⟨different, before, after, rfl, later⟩)
    · exact ⟨registered, [], rfl, List.not_mem_nil⟩
    · refine ⟨before, after ++ [(other, made)], ?_, ?_⟩
      · rw [List.append_assoc, List.cons_append]
      · simpa [later] using Ne.symm different

theorem exists_registeredLast_iff :
    (∃ factory, RegisteredLast registered name factory) ↔ name ∈ registered.map (·.1) := by
  induction registered using List.reverseRecOn with
  | nil =>
      simp only [List.map_nil, List.not_mem_nil, iff_false]
      rintro ⟨_, before, _, same, _⟩
      simp at same
  | append_singleton registered entry ih =>
      rcases entry with ⟨other, made⟩
      simp only [registeredLast_concat_iff, List.map_append, List.mem_append, ← ih,
        List.map_singleton, List.mem_singleton]
      constructor
      · rintro ⟨factory, ⟨same, _⟩ | ⟨_, last⟩⟩
        · exact .inr same.symm
        · exact .inl ⟨factory, last⟩
      · intro known
        by_cases same : other = name
        · exact ⟨made, .inl ⟨same, rfl⟩⟩
        · obtain ⟨factory, last⟩ := known.resolve_right (Ne.symm same)
          exact ⟨factory, .inr ⟨same, last⟩⟩

end Registered

namespace Registry

variable {registry : Registry} {registered : List (String × Factory)} {name other : String}
  {factory : Factory} {entries : List (String × Factory)}

theorem factory?_eq_some_iff :
    registry.factory? name = some factory ↔ (name, factory) ∈ registry.entries := by
  refine ⟨mem_of_factory?, fun member => ?_⟩
  have known : (registry.factory? name).isSome := by
    rw [factory?, Option.isSome_map, List.find?_isSome]
    exact ⟨_, member, beq_self_eq_true name⟩
  obtain ⟨made, found⟩ := Option.isSome_iff_exists.mp known
  have same := List.inj_on_of_nodup_map registry.distinct (mem_of_factory? found) member rfl
  cases same
  exact found

/-- A registration changes what is found under its name, and nothing else. -/
theorem factory?_register (registry : Registry) (name other : String) (factory : Factory) :
    (registry.register name factory).factory? other =
      if name = other then some factory else registry.factory? other := by
  apply Option.ext
  intro found
  rw [factory?_eq_some_iff]
  by_cases same : name = other
  · subst same
    simp [register, insertFactory, eq_comm]
  · rw [if_neg same, factory?_eq_some_iff]
    simp [register, insertFactory, Ne.symm same]

/-- The names are sorted, and the entries have each of them once. -/
theorem ascending_names (registry : Registry) : registry.names.Pairwise (· < ·) := by
  have ordered : registry.names.Pairwise fun left right => decide (left ≤ right) = true := by
    apply List.pairwise_mergeSort
    · simpa using fun _ _ _ => String.le_trans
    · simpa using String.le_total
  have distinct : registry.names.Nodup :=
    (List.mergeSort_perm _ _).nodup_iff.mpr registry.distinct
  refine (ordered.and distinct).imp ?_
  rintro left right ⟨before, different⟩
  by_contra notLess
  exact different (String.le_antisymm (of_decide_eq_true before) (String.not_lt.mp notLess))

theorem mem_names_iff :
    name ∈ registry.names ↔ ∃ factory, registry.factory? name = some factory := by
  simp [names, factory?_eq_some_iff]

/-- Lookups and names do not depend on the order of the entries. -/
theorem reply_eq_of_perm {left right : Registry} (permuted : left.entries.Perm right.entries)
    (call : RegistryCall) : left.reply call = right.reply call := by
  have lookups (name : String) : left.factory? name = right.factory? name := by
    apply Option.ext
    intro factory
    rw [factory?_eq_some_iff, factory?_eq_some_iff, permuted.mem_iff]
  have names : left.names = right.names := by
    have same : left.names.Perm right.names :=
      (List.mergeSort_perm _ _).trans
        ((permuted.map _).trans (List.mergeSort_perm _ _).symm)
    refine same.eq_of_pairwise ?_ left.ascending_names right.ascending_names
    intro first second _ _ before after
    exact absurd after (String.lt_asymm before)
  cases call with
  | register _ _ | clone => rfl
  | contains name => simp only [reply, contains, lookups]
  | names => simp only [reply, names]
  | create config => simp only [reply, create, lookups]

/-- The registry finds the factories that were registered last. -/
def Holds (registry : Registry) (registered : List (String × Factory)) : Prop :=
  ∀ name factory,
    registry.factory? name = some factory ↔ RegisteredLast registered name factory

theorem holds_empty : empty.Holds [] := by
  intro name factory
  constructor
  · intro found
    cases found
  · rintro ⟨before, _, same, _⟩
    simp at same

theorem Holds.register (holds : registry.Holds registered) (name : String)
    (factory : Factory) :
    (registry.register name factory).Holds (registered ++ [(name, factory)]) := by
  intro sought found
  rw [factory?_register, registeredLast_concat_iff, ← holds]
  by_cases same : name = sought <;> simp [same]

theorem Holds.after (holds : registry.Holds registered) (call : RegistryCall) :
    (registry.after call).Holds (registered ++ call.registration?.toList) := by
  cases call with
  | register name factory => exact holds.register name factory
  | clone | contains _ | names | create _ =>
      simpa [Registry.after, RegistryCall.registration?] using holds

theorem Holds.foldl_after (holds : registry.Holds registered) (calls : List RegistryCall) :
    (calls.foldl Registry.after registry).Holds
      (registered ++ calls.filterMap RegistryCall.registration?) := by
  induction calls generalizing registry registered with
  | nil => simpa using holds
  | cons call rest ih =>
      have later := ih (holds.after call)
      rw [List.append_assoc] at later
      cases made : call.registration? <;> simpa [made] using later

theorem holds_builtin : builtin.Holds builtinFactories :=
  ((holds_empty.register _ _).register _ _).register _ _

theorem Holds.mem_names (holds : registry.Holds registered) :
    name ∈ registry.names ↔ name ∈ registered.map (·.1) := by
  rw [mem_names_iff, ← exists_registeredLast_iff]
  exact exists_congr (holds name)

theorem Holds.create_of_registeredLast (holds : registry.Holds registered) {config : Config}
    (last : RegisteredLast registered config.formatter factory) :
    registry.create config = factory config := by
  rw [create, (holds _ _).mpr last]

theorem Holds.create_of_unregistered (holds : registry.Holds registered) {config : Config}
    (unregistered : config.formatter ∉ registered.map (·.1)) :
    registry.create config = .error (.unknownFormatter config.formatter) := by
  rw [← holds.mem_names, mem_names_iff, not_exists, ← Option.eq_none_iff_forall_ne_some]
    at unregistered
  rw [create, unregistered]

theorem Holds.answersFrom (holds : registry.Holds registered) :
    registry.AnswersFrom registered where
  ascending := registry.ascending_names
  listed := fun _ => holds.mem_names
  orderless := fun _ => reply_eq_of_perm
  contains := by
    intro name
    rw [← holds.mem_names, mem_names_iff]
    exact Option.isSome_iff_exists
  created := fun _ _ => holds.create_of_registeredLast
  unknown := fun _ => holds.create_of_unregistered
  unknown_iff := by
    intro config
    constructor
    · intro refused
      by_cases known : config.formatter ∈ registered.map (·.1)
      · obtain ⟨factory, last⟩ := exists_registeredLast_iff.mpr known
        exact .inr ⟨factory, last, (holds.create_of_registeredLast last).symm.trans refused⟩
      · exact .inl known
    · rintro (unregistered | ⟨factory, last, refused⟩)
      · exact holds.create_of_unregistered unregistered
      · exact (holds.create_of_registeredLast last).trans refused

end Registry

namespace SharedRegistry

variable {others : List Registry} {registry : Registry} {handle handles : Nat}

theorem view?_joined (inside : handle < handles) :
    (joined others registry handles).view? handle = some registry := by
  simp [view?, joined, inside]

theorem view?_joined_of_le (outside : handles ≤ handle) :
    (joined others registry handles).view? handle = none := by
  simp [view?, joined, Nat.not_lt.mpr outside]

/-- What is registered through any of the handles is registered in the one registry. -/
theorem register_joined (inside : handle < handles) (name : String) (factory : Factory) :
    (joined others registry handles).register handle name factory =
      joined others (registry.register name factory) handles := by
  simp only [register, joined, List.getElem?_replicate, inside, if_true]
  congr 1
  exact List.modifyTailIdx_add (List.modifyHead (·.register name factory)) 0 others [registry]

theorem clone_joined (inside : handle < handles) :
    (joined others registry handles).clone handle = joined others registry (handles + 1) := by
  simp [clone, joined, inside, List.replicate_succ']

/-- One request is answered by the one registry, through whichever handle it comes. -/
theorem answer_joined (inside : handle < handles) (call : RegistryCall) :
    (joined others registry handles).answer { handle := handle, call := call } =
      (some (registry.reply call),
        joined others (registry.after call) (handles + call.added)) := by
  simp only [answer, view?_joined inside]
  cases call with
  | register name factory => exact congrArg (Prod.mk _) (register_joined inside name factory)
  | clone => exact congrArg (Prod.mk _) (clone_joined inside)
  | contains _ | names | create _ => rfl

theorem answer_joined_of_le (outside : handles ≤ handle) (call : RegistryCall) :
    (joined others registry handles).answer { handle := handle, call := call } =
      (none, joined others registry handles) := by
  simp only [answer, view?_joined_of_le outside]

theorem run_joined (requests : List RegistryRequest) :
    (joined others registry handles).run requests =
      joined others ((RegistryRequest.calls handles requests).foldl Registry.after registry)
        (handles + (RegistryRequest.calls handles requests).countP RegistryCall.isClone) := by
  induction requests generalizing registry handles with
  | nil => rfl
  | cons request rest ih =>
      rcases request with ⟨handle, call⟩
      change ((joined others registry handles).answer ⟨handle, call⟩).2.run rest = _
      have clones (later : List RegistryCall) :
          (call :: later).countP RegistryCall.isClone =
            call.added + later.countP RegistryCall.isClone := by
        rw [List.countP_cons, Nat.add_comm]
        rfl
      by_cases inside : handle < handles
      · rw [answer_joined inside, RegistryRequest.calls, if_pos inside, ih, List.foldl_cons,
          clones, Nat.add_assoc]
      · rw [answer_joined_of_le (Nat.not_lt.mp inside), RegistryRequest.calls, if_neg inside, ih]

/-- Whatever is asked through the handles that descend from the first handle on a registry,
with nothing registered or with what is registered from the start, all of them are
answered by one registry, which has what was registered through any of them: its names in
strictly ascending order, and under each name the factory that was registered last.
Registries that other handles refer to are left alone. -/
theorem run_answersFrom (others : List Registry) (builtins : Bool)
    (requests : List RegistryRequest) :
    let start := if builtins then Registry.builtin else Registry.empty
    let calls := RegistryRequest.calls 1 requests
    let registered :=
      (if builtins then Registry.builtinFactories else []) ++
        calls.filterMap RegistryCall.registration?
    let shared := (opened others start).run requests
    shared.handles.length = 1 + calls.countP RegistryCall.isClone ∧
    others <+: shared.registries ∧
    ∃ registry : Registry, registry.AnswersFrom registered ∧
      ∀ handle call,
        (shared.answer { handle := handle, call := call }).1 =
          if handle < shared.handles.length then some (registry.reply call) else none := by
  intro start calls registered shared
  let registry := calls.foldl Registry.after start
  let handles := 1 + calls.countP RegistryCall.isClone
  have reached : shared = joined others registry handles := by
    change (joined others start 1).run requests = joined others registry handles
    exact run_joined requests
  have holds : start.Holds (if builtins then Registry.builtinFactories else []) := by
    cases builtins
    · exact Registry.holds_empty
    · exact Registry.holds_builtin
  have length : shared.handles.length = handles := by
    rw [reached]
    exact List.length_replicate
  refine ⟨length, ?_, registry, (holds.foldl_after calls).answersFrom, ?_⟩
  · rw [reached]
    exact List.prefix_append others [registry]
  · intro handle call
    rw [length, reached]
    split
    · rename_i inside
      rw [answer_joined inside]
    · rename_i outside
      rw [answer_joined_of_le (Nat.not_lt.mp outside)]

example (first second : Factory) :
    (((ofRegistry .empty).run
        [⟨0, .clone⟩, ⟨1, .register "name" first⟩, ⟨0, .register "name" second⟩]).view? 1).bind
      (·.factory? "name") = some second := by
  rfl

/-- A factory that knows no formatter itself. -/
def refusing : Factory :=
  fun config => .error (.unknownFormatter config.formatter)

/-- A formatter can be unknown although its name is registered: its own factory may say
so. -/
theorem created_of_refusing :
    let requests : List RegistryRequest := [⟨0, .register "absent" refusing⟩]
    let shared := (opened [] .empty).run requests
    let config : Config := { formatter := "absent" }
    config.formatter ∈
        ((RegistryRequest.calls 1 requests).filterMap RegistryCall.registration?).map (·.1) ∧
      (shared.answer ⟨0, .contains config.formatter⟩).1 = some (.known true) ∧
      (shared.answer ⟨0, .create config⟩).1 =
        some (.created (.error (.unknownFormatter config.formatter))) := by
  exact ⟨List.mem_cons_self, rfl, rfl⟩

end SharedRegistry

end TestSynth
