import Mathlib.Data.Nat.Find
import TestSynth.Proofs.Method.Declaring
import TestSynth.Proofs.TestCase.Binding

/-!
# Parameters of a declaration

A declaration is refused exactly if a parameter is void or has a name that is taken, by
an earlier parameter or by the receiver, and the first such parameter is the one that is
named.  Every other declaration gives a method with the parameters as they were given,
numbered by their places after the receiver.
-/

namespace TestSynth

namespace Method

/-- The parameter at a place is void, or its name is reserved or that of an earlier
parameter. -/
inductive OffendsAt (reserved : List String) (given : List (String × JavaType))
    (place : Nat) : Prop
  | void {name : String} (here : given[place]? = some (name, .void))
  | reserved {name : String} {type : JavaType} (here : given[place]? = some (name, type))
      (taken : name ∈ reserved)
  | repeated {name : String} {type earlierType : JavaType} {earlier : Nat}
      (here : given[place]? = some (name, type)) (before : earlier < place)
      (there : given[earlier]? = some (name, earlierType))

/-- The first parameter that offends. -/
structure OffendsFirst (reserved : List String) (given : List (String × JavaType))
    (place : Nat) : Prop where
  offends : OffendsAt reserved given place
  first : ∀ earlier < place, ¬OffendsAt reserved given earlier

/-- The names that no parameter may have: that of the receiver, if there is one. -/
def reservedNames (isStatic : Bool) : List String :=
  if isStatic then [] else ["this"]

/-- How a parameter is refused: as void if it is, else for its name. -/
def refusal (method : String) (parameter : String × JavaType) : Fault :=
  if parameter.2 = .void then .voidParameter parameter.1 method
  else .duplicateParameter parameter.1 method

/-- The method has the given parameters, in their order and numbered by their places,
after a receiver if it is an instance method, and finds each of them by its name. -/
structure Presents (method : Method) (given : List (String × JavaType)) : Prop where
  ordinals : ∀ place (inside : place < method.parameters.length),
    method.parameters[place].ordinal = place
  receiver : ∀ place,
    (∃ parameter, method.parameters[place]? = some parameter ∧ parameter.isReceiver = true) ↔
      place = 0 ∧ method.isStatic = false
  arguments : method.arguments.map (fun parameter => (parameter.name, parameter.type)) = given
  distinct : (method.arguments.map (·.name)).Nodup
  argument : ∀ name parameter,
    method.argument? name = some parameter ↔
      parameter ∈ method.arguments ∧ parameter.name = name
  count : method.arguments.length = given.length

section Refusal

variable {method : String} {reserved : List String} {bound : List Parameter}
  {item : String × JavaType} {given rest : List (String × JavaType)} {place : Nat}

theorem offendsAt_zero_iff :
    OffendsAt reserved (item :: rest) 0 ↔ item.2 = .void ∨ item.1 ∈ reserved := by
  constructor
  · intro offends
    cases offends with
    | void here =>
        cases here
        exact .inl rfl
    | reserved here taken =>
        cases here
        exact .inr taken
    | repeated _ before _ => exact absurd before (Nat.not_lt_zero _)
  · rcases item with ⟨name, type⟩
    rintro (isVoid | taken)
    · cases isVoid
      exact .void rfl
    · exact .reserved rfl taken

/-- What a parameter that is bound leaves to the others is its name, which is reserved. -/
theorem offendsAt_succ_iff :
    OffendsAt reserved (item :: rest) (place + 1) ↔
      OffendsAt (reserved ++ [item.1]) rest place := by
  constructor
  · intro offends
    cases offends with
    | void here => exact .void here
    | reserved here taken => exact .reserved here (List.mem_append_left _ taken)
    | @repeated name type earlierType earlier here before there =>
        cases earlier with
        | zero =>
            cases there
            exact .reserved here (List.mem_append_right _ List.mem_cons_self)
        | succ earlier => exact .repeated here (Nat.lt_of_succ_lt_succ before) there
  · intro offends
    cases offends with
    | void here => exact .void here
    | @reserved name type here taken =>
        rcases List.mem_append.mp taken with old | new
        · exact .reserved here old
        · cases List.mem_singleton.mp new
          exact .repeated here (Nat.succ_pos place) rfl
    | repeated here before there => exact .repeated here (Nat.succ_lt_succ before) there

theorem OffendsAt.exists_parameter (offends : OffendsAt reserved given place) :
    ∃ parameter, given[place]? = some parameter := by
  cases offends with
  | void here | reserved here _ | repeated here _ _ => exact ⟨_, here⟩

theorem exists_offendsFirst (offends : OffendsAt reserved given place) :
    ∃ first, OffendsFirst reserved given first := by
  classical
  have offending : ∃ place, OffendsAt reserved given place := ⟨place, offends⟩
  refine ⟨Nat.find offending, Nat.find_spec offending, ?_⟩
  intro earlier before
  exact Nat.find_min offending before

/-- A parameter that offends where it is bound is refused. -/
theorem bindParameters_of_offends
    (offends : OffendsAt (bound.map (·.name)) (item :: rest) 0) :
    bindParameters method bound (item :: rest) = .error (refusal method item) := by
  rcases item with ⟨name, type⟩
  by_cases isVoid : type = .void
  · simp [bindParameters, refusal, isVoid, JavaType.isVoid]
  · have taken : name ∈ bound.map (·.name) :=
      (offendsAt_zero_iff.mp offends).resolve_left isVoid
    have repeats : bound.any (·.name == name) = true := by
      simpa using taken
    simp [bindParameters, refusal, isVoid, JavaType.isVoid_iff, repeats]

/-- Any other parameter is bound, and the rest is bound after it. -/
theorem bindParameters_of_not_offends
    (accepted : ¬OffendsAt (bound.map (·.name)) (item :: rest) 0) :
    bindParameters method bound (item :: rest) =
      bindParameters method
        (bound ++
          [{ name := item.1
             type := item.2
             ordinal := bound.length
             isReceiver := false }])
        rest := by
  obtain ⟨valued, fresh⟩ := not_or.mp (offendsAt_zero_iff.not.mp accepted)
  have unrepeated : bound.any (·.name == item.1) = false := by
    simpa using fresh
  simp [bindParameters, JavaType.isVoid_iff, valued, unrepeated]

/-- Binding ends at the first parameter that offends. -/
theorem bindParameters_of_offendsFirst {parameter : String × JavaType}
    (first : OffendsFirst (bound.map (·.name)) given place)
    (here : given[place]? = some parameter) :
    bindParameters method bound given = .error (refusal method parameter) := by
  induction given generalizing bound place with
  | nil => cases here
  | cons item rest ih =>
      cases place with
      | zero =>
          cases here
          exact bindParameters_of_offends first.offends
      | succ place =>
          have accepted := first.first 0 (Nat.succ_pos place)
          rw [bindParameters_of_not_offends accepted]
          refine ih ?_ here
          rw [List.map_append, List.map_singleton]
          refine ⟨offendsAt_succ_iff.mp first.offends, ?_⟩
          intro earlier before offends
          exact first.first (earlier + 1) (Nat.succ_lt_succ before)
            (offendsAt_succ_iff.mpr offends)

/-- Parameters of which none offends are all bound. -/
theorem exists_bindParameters (method : String)
    (accepted : ∀ place, ¬OffendsAt (bound.map (·.name)) given place) :
    ∃ result, bindParameters method bound given = .ok result := by
  induction given generalizing bound with
  | nil => exact ⟨bound, rfl⟩
  | cons item rest ih =>
      rw [bindParameters_of_not_offends (accepted 0)]
      apply ih
      intro place offends
      rw [List.map_append, List.map_singleton] at offends
      exact accepted (place + 1) (offendsAt_succ_iff.mpr offends)

end Refusal

variable {owner : DeclaringClass} {name : String} {isStatic : Bool}
  {given : List (String × JavaType)} {returnType : JavaType} {thrown : List String}
  {method : Method}

/-- The names that are reserved are those of the parameters that are there from the start. -/
theorem names_receiver (owner : DeclaringClass) (isStatic : Bool) :
    (if isStatic then [] else [owner.receiver]).map (·.name) = reservedNames isStatic := by
  cases isStatic <;> rfl

theorem declare_of_offendsFirst {place : Nat} {parameter : String × JavaType}
    (first : OffendsFirst (reservedNames isStatic) given place)
    (here : given[place]? = some parameter) :
    declare owner name isStatic given returnType thrown =
      .error (refusal (qualifiedName owner.name name) parameter) := by
  rw [← names_receiver owner isStatic] at first
  exact bind_eq_error_iff.mpr (.inl (bindParameters_of_offendsFirst first here))

theorem exists_declare
    (accepted : ∀ place, ¬OffendsAt (reservedNames isStatic) given place) :
    ∃ method, declare owner name isStatic given returnType thrown = .ok method := by
  rw [← names_receiver owner isStatic] at accepted
  obtain ⟨parameters, bind⟩ := exists_bindParameters (qualifiedName owner.name name) accepted
  exact ⟨_, bind_eq_ok_iff.mpr ⟨parameters, bind, rfl⟩⟩

/-- A declaration is refused for the first parameter that offends, and for no other. -/
theorem declare_eq_error_iff {fault : Fault} :
    declare owner name isStatic given returnType thrown = .error fault ↔
      ∃ place parameter, given[place]? = some parameter ∧
        OffendsFirst (reservedNames isStatic) given place ∧
        fault = refusal (qualifiedName owner.name name) parameter := by
  constructor
  · intro refused
    have offending : ∃ place, OffendsAt (reservedNames isStatic) given place := by
      by_contra unoffending
      obtain ⟨method, declared⟩ := exists_declare (not_exists.mp unoffending)
      cases refused.symm.trans declared
    obtain ⟨_, offends⟩ := offending
    obtain ⟨place, first⟩ := exists_offendsFirst offends
    obtain ⟨parameter, here⟩ := first.offends.exists_parameter
    refine ⟨place, parameter, here, first, ?_⟩
    exact Except.error.inj (refused.symm.trans (declare_of_offendsFirst first here))
  · rintro ⟨place, parameter, here, first, rfl⟩
    exact declare_of_offendsFirst first here

/-- A receiver stands in front of the parameters of an instance method, and only there. -/
theorem receiver_of_declare
    (declared : declare owner name isStatic given returnType thrown = .ok method)
    (place : Nat) :
    (∃ parameter, method.parameters[place]? = some parameter ∧ parameter.isReceiver = true) ↔
      place = 0 ∧ method.isStatic = false := by
  have ordinary (index : Nat) {parameter : Parameter}
      (here : method.arguments[index]? = some parameter) : ¬parameter.isReceiver = true := by
    have member := List.mem_of_getElem? here
    simpa using (List.mem_filter.mp member).2
  rw [parameters_eq_append_of_declare declared]
  cases method.isStatic with
  | true =>
      simp only [if_true, List.nil_append, Bool.true_eq_false, and_false, iff_false]
      rintro ⟨parameter, here, isReceiver⟩
      exact ordinary place here isReceiver
  | false =>
      cases place with
      | zero => simp [DeclaringClass.receiver]
      | succ place =>
          simp only [Nat.succ_ne_zero, false_and, iff_false]
          rintro ⟨parameter, here, isReceiver⟩
          exact ordinary place here isReceiver

theorem pairs_of_declare
    (declared : declare owner name isStatic given returnType thrown = .ok method) :
    method.arguments.map (fun parameter => (parameter.name, parameter.type)) = given := by
  rw [arguments_of_declare declared, numbered, List.map_map]
  exact List.zipIdx_map_fst _ given

theorem argument?_eq_some_iff (distinct : (method.arguments.map (·.name)).Nodup)
    {sought : String} {parameter : Parameter} :
    method.argument? sought = some parameter ↔
      parameter ∈ method.arguments ∧ parameter.name = sought := by
  unfold argument?
  constructor
  · intro found
    have named := List.find?_some found
    exact ⟨List.mem_of_find?_eq_some found, eq_of_beq named⟩
  · rintro ⟨member, rfl⟩
    exact find?_key_eq_some distinct member

theorem presents_of_declare
    (declared : declare owner name isStatic given returnType thrown = .ok method) :
    method.Presents given where
  ordinals := by
    intro place inside
    have ordinals := congrArg (·[place]?) (ordinals_of_declare declared)
    simpa [inside] using ordinals
  receiver := receiver_of_declare declared
  arguments := pairs_of_declare declared
  distinct := argumentNames_of_declare declared
  argument := by
    intro sought parameter
    exact argument?_eq_some_iff (argumentNames_of_declare declared)
  count := by
    rw [← List.length_map, pairs_of_declare declared]

/-- A method is declared exactly if no parameter offends.  If one does, the refusal is
that of the first that does; otherwise the method is of the class, the name and the kind
that were given, and has the given parameters. -/
theorem declare_exact (owner : DeclaringClass) (name : String) (isStatic : Bool)
    (given : List (String × JavaType)) (returnType : JavaType) (thrown : List String) :
    (∀ fault,
      declare owner name isStatic given returnType thrown = .error fault ↔
        ∃ place parameter, given[place]? = some parameter ∧
          OffendsFirst (reservedNames isStatic) given place ∧
          fault = refusal (qualifiedName owner.name name) parameter) ∧
    ((∃ fault, declare owner name isStatic given returnType thrown = .error fault) ↔
      ∃ place, OffendsAt (reservedNames isStatic) given place) ∧
    ((∀ place, ¬OffendsAt (reservedNames isStatic) given place) →
      ∃ method, declare owner name isStatic given returnType thrown = .ok method ∧
        method.declaringClass = owner ∧ method.name = name ∧ method.isStatic = isStatic ∧
        method.Presents given) := by
  refine ⟨fun fault => declare_eq_error_iff, ?_, ?_⟩
  · constructor
    · rintro ⟨fault, refused⟩
      obtain ⟨place, _, _, first, _⟩ := declare_eq_error_iff.mp refused
      exact ⟨place, first.offends⟩
    · rintro ⟨_, offends⟩
      obtain ⟨place, first⟩ := exists_offendsFirst offends
      obtain ⟨parameter, here⟩ := first.offends.exists_parameter
      exact ⟨_, declare_of_offendsFirst first here⟩
  · intro accepted
    obtain ⟨method, declared⟩ := exists_declare accepted
    have fields := eq_of_declare declared
    refine ⟨method, declared, ?_, ?_, ?_, presents_of_declare declared⟩
    · rw [fields]
    · rw [fields]
    · rw [fields]

example :
    declare { name := "demo.Tank", hasDefaultConstructor := true } "fill" false
        [("level", .primitive .int), ("this", .void), ("level", .primitive .int)] .void [] =
      .error (.voidParameter "this" "demo.Tank.fill") :=
  rfl

end Method

end TestSynth
