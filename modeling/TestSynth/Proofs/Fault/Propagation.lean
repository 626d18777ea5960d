import Mathlib.Data.List.Forall2
import TestSynth.Fault

/-!
# Propagation of faults

A sequence of steps succeeds exactly if every step does, and a list is processed
successfully exactly if every item is.
-/

namespace TestSynth

variable {α β : Type}

theorem bind_eq_ok_iff {first : Except Fault α} {next : α → Except Fault β}
    {result : β} :
    first >>= next = .ok result ↔
      ∃ value, first = .ok value ∧ next value = .ok result := by
  cases first with
  | ok value =>
      constructor
      · intro succeeded
        exact ⟨value, rfl, succeeded⟩
      · rintro ⟨_, same, succeeded⟩
        cases same
        exact succeeded
  | error fault =>
      constructor
      · intro succeeded
        cases succeeded
      · rintro ⟨_, impossible, _⟩
        cases impossible

/-- A sequence fails in its first step or, if that succeeds, in the next one. -/
theorem bind_eq_error_iff {first : Except Fault α} {next : α → Except Fault β}
    {fault : Fault} :
    first >>= next = .error fault ↔
      first = .error fault ∨ ∃ value, first = .ok value ∧ next value = .error fault := by
  cases first with
  | ok value =>
      constructor
      · intro failed
        exact .inr ⟨value, rfl, failed⟩
      · rintro (impossible | ⟨_, same, failed⟩)
        · cases impossible
        · cases same
          exact failed
  | error other =>
      constructor
      · intro failed
        cases failed
        exact .inl rfl
      · rintro (failed | ⟨_, impossible, _⟩)
        · cases failed
          rfl
        · cases impossible

theorem map_eq_ok_iff {change : α → β} {given : Except Fault α} {result : β} :
    given.map change = .ok result ↔
      ∃ value, given = .ok value ∧ change value = result := by
  cases given <;> simp [Except.map]

theorem mapM_eq_ok_iff {step : α → Except Fault β} {items : List α}
    {results : List β} :
    items.mapM step = .ok results ↔
      List.Forall₂ (fun item result => step item = .ok result) items results := by
  induction items generalizing results with
  | nil =>
      rw [List.forall₂_nil_left_iff]
      constructor
      · intro succeeded
        cases succeeded
        rfl
      · rintro rfl
        rfl
  | cons item rest ih =>
      rw [List.mapM_cons, List.forall₂_cons_left_iff, bind_eq_ok_iff]
      constructor
      · rintro ⟨first, firstOk, succeeded⟩
        obtain ⟨others, othersOk, last⟩ := bind_eq_ok_iff.mp succeeded
        cases last
        exact ⟨first, others, firstOk, ih.mp othersOk, rfl⟩
      · rintro ⟨first, others, firstOk, othersOk, rfl⟩
        exact ⟨first, firstOk, bind_eq_ok_iff.mpr ⟨others, ih.mpr othersOk, rfl⟩⟩

theorem exists_of_mem_mapM {step : α → Except Fault β} {items : List α}
    {results : List β} {result : β} (succeeded : items.mapM step = .ok results)
    (member : result ∈ results) : ∃ item ∈ items, step item = .ok result := by
  have related := mapM_eq_ok_iff.mp succeeded
  clear succeeded
  induction related with
  | nil => cases member
  | cons first _ ih =>
      rcases List.mem_cons.mp member with rfl | later
      · exact ⟨_, List.mem_cons_self, first⟩
      · obtain ⟨item, given, ok⟩ := ih later
        exact ⟨item, List.mem_cons_of_mem _ given, ok⟩

/-- If every item has a result, the list has a list of results. -/
theorem exists_forall₂ {related : α → β → Prop} {items : List α}
    (each : ∀ item ∈ items, ∃ result, related item result) :
    ∃ results, List.Forall₂ related items results := by
  induction items with
  | nil => exact ⟨[], .nil⟩
  | cons item rest ih =>
      obtain ⟨here, later⟩ := List.forall_mem_cons.mp each
      obtain ⟨first, firstRelated⟩ := here
      obtain ⟨others, othersRelated⟩ := ih later
      exact ⟨first :: others, .cons firstRelated othersRelated⟩

theorem exists_mapM_eq_ok {step : α → Except Fault β} {items : List α}
    (each : ∀ item ∈ items, ∃ result, step item = .ok result) :
    ∃ results, items.mapM step = .ok results := by
  obtain ⟨results, related⟩ := exists_forall₂ each
  exact ⟨results, mapM_eq_ok_iff.mpr related⟩

theorem exists_mapM_iff {step : α → Except Fault β} {items : List α} :
    (∃ results, items.mapM step = .ok results) ↔
      ∀ item ∈ items, ∃ result, step item = .ok result := by
  refine ⟨?_, exists_mapM_eq_ok⟩
  rintro ⟨results, succeeded⟩
  have related := mapM_eq_ok_iff.mp succeeded
  clear succeeded
  induction related with
  | nil => exact fun _ absent => (List.not_mem_nil absent).elim
  | cons first _ ih => exact List.forall_mem_cons.mpr ⟨⟨_, first⟩, ih⟩

/-- Either all results are values or there is a first fault. -/
theorem eq_map_ok_or_first_fault (results : List (Except Fault α)) :
    (∃ values : List α, results = values.map .ok) ∨
      ∃ (values : List α) (fault : Fault) (later : List (Except Fault α)),
        results = values.map .ok ++ .error fault :: later := by
  induction results with
  | nil => exact .inl ⟨[], rfl⟩
  | cons result rest ih =>
      cases result with
      | error fault => exact .inr ⟨[], fault, rest, rfl⟩
      | ok value =>
          rcases ih with ⟨values, rfl⟩ | ⟨values, fault, later, rfl⟩
          · exact .inl ⟨value :: values, rfl⟩
          · exact .inr ⟨value :: values, fault, later, rfl⟩

/-- No other fault than a broken contract. -/
inductive Contractual : Except Fault α → Prop
  | ok (value : α) : Contractual (.ok value)
  | breach (breach : Breach) : Contractual (.error (.contract breach))

namespace Contractual

theorem bind {first : Except Fault α} {next : α → Except Fault β}
    (firstContractual : Contractual first)
    (nextContractual : ∀ value, first = .ok value → Contractual (next value)) :
    Contractual (first >>= next) := by
  cases firstContractual with
  | ok value => exact nextContractual value rfl
  | breach breach => exact .breach breach

theorem map {change : α → β} {given : Except Fault α} (contractual : Contractual given) :
    Contractual (given.map change) := by
  cases contractual with
  | ok value => exact .ok (change value)
  | breach breach => exact .breach breach

theorem mapM {step : α → Except Fault β} (each : ∀ item, Contractual (step item))
    (items : List α) : Contractual (items.mapM step) := by
  induction items with
  | nil => exact .ok []
  | cons item rest ih =>
      rw [List.mapM_cons]
      exact (each item).bind fun first _ => ih.bind fun others _ => .ok (first :: others)

theorem exists_breach {result : Except Fault α} (contractual : Contractual result)
    (failed : ¬ ∃ value, result = .ok value) :
    ∃ breach, result = .error (.contract breach) := by
  cases contractual with
  | ok value => exact absurd ⟨value, rfl⟩ failed
  | breach breach => exact ⟨breach, rfl⟩

/-- What is accepted under a condition is refused exactly without it. -/
theorem exists_breach_iff {result : Except Fault α} {accepted : Prop}
    (contractual : Contractual result) (accepts : (∃ value, result = .ok value) ↔ accepted) :
    (∃ breach, result = .error (.contract breach)) ↔ ¬ accepted := by
  rw [← accepts]
  constructor
  · rintro ⟨breach, refused⟩ ⟨value, ok⟩
    cases refused.symm.trans ok
  · exact contractual.exists_breach

end Contractual

end TestSynth
