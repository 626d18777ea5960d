import TestSynth.Proofs.Report.Delivery
import TestSynth.Proofs.Report.Numbering

/-!
# Histories of formatters

A formatter may be asked for texts and reports in any order, and any of this may fail.
A report does not depend on what was asked before it.  Between two resets every test
case takes a number above those taken before, whether or not it could be written.
-/

namespace TestSynth

/-- What a formatter may be asked for. -/
inductive Request
  | formatTest (test : TestCase)
  | writeTest (test : TestCase) (sink : Sink)
  | formatAll (collection : Collection) (sink : Sink)
  | resetCounter

/-- What happens to the numbers of a formatter. -/
inductive NumberEvent
  | taken (number : Nat) (test : TestCase)
  | reset

namespace NumberEvent

/-- The number that is taken, if one is. -/
def number? : NumberEvent → Option Nat
  | .taken number _ => some number
  | .reset => none

def isReset : NumberEvent → Bool
  | .taken _ _ => false
  | .reset => true

/-- Events that lead from one counter to another: numbers are taken from the counter,
and a reset starts anew. -/
inductive Leads : Nat → List NumberEvent → Nat → Prop
  | nil (counter : Nat) : Leads counter [] counter
  | taken {counter last : Nat} {rest : List NumberEvent} (test : TestCase) :
      Leads (counter + 1) rest last → Leads counter (.taken counter test :: rest) last
  | reset {counter last : Nat} {rest : List NumberEvent} :
      Leads firstNumber rest last → Leads counter (.reset :: rest) last

variable {first middle last : Nat} {events before segment after : List NumberEvent}

theorem Leads.append (here : Leads first before middle) (later : Leads middle after last) :
    Leads first (before ++ after) last := by
  induction here with
  | nil => exact later
  | taken test _ ih => exact .taken test (ih later)
  | reset _ ih => exact .reset (ih later)

theorem Leads.split (leads : Leads first (before ++ after) last) :
    ∃ middle, Leads first before middle ∧ Leads middle after last := by
  induction before generalizing first with
  | nil => exact ⟨first, .nil first, leads⟩
  | cons event rest ih =>
      cases leads with
      | taken test later =>
          obtain ⟨middle, here, after⟩ := ih later
          exact ⟨middle, .taken test here, after⟩
      | reset later =>
          obtain ⟨middle, here, after⟩ := ih later
          exact ⟨middle, .reset here, after⟩

/-- Without a reset the numbers are consecutive. -/
theorem Leads.numbers (leads : Leads first segment last)
    (unreset : ∀ event ∈ segment, event.isReset = false) :
    segment.filterMap number? = List.range' first segment.length := by
  induction leads with
  | nil => rfl
  | taken test _ ih =>
      have later := ih (List.forall_mem_cons.mp unreset).2
      simp only [List.filterMap_cons, number?, later, List.length_cons, List.range'_succ]
  | reset => cases (List.forall_mem_cons.mp unreset).1

/-- Numbers of consecutive places are taken one after the other. -/
theorem leads_of_consecutive {items : List (TestCase × Nat)}
    (consecutive : items.map Prod.snd = List.range' first items.length) :
    Leads first (items.map fun item => .taken item.2 item.1) (first + items.length) := by
  induction items generalizing first with
  | nil => exact .nil first
  | cons item rest ih =>
      rcases item with ⟨test, number⟩
      rw [List.map_cons, List.length_cons, List.range'_succ] at consecutive
      obtain ⟨rfl, others⟩ := List.cons.inj consecutive
      have later := ih others
      rw [Nat.add_assoc, Nat.add_comm 1] at later
      exact .taken test later

end NumberEvent

namespace JUnit

variable {style : Style} {number : Nat} {test : TestCase} {tests : List TestCase}
  {text : String}

/-- The test cases that are tried with their numbers: all up to the first that cannot
be written. -/
def tried (style : Style) (number : Nat) : List TestCase → List (TestCase × Nat)
  | [] => []
  | test :: rest =>
      (test, number) ::
        match testLines style number test with
        | .error _ => []
        | .ok _ => tried style (number + 1) rest

theorem tried_front (style : Style) (number : Nat) (tests : List TestCase) :
    tried style number tests <+: tests.zipIdx number := by
  induction tests generalizing number with
  | nil => exact List.prefix_refl []
  | cons test rest ih =>
      rw [tried, List.zipIdx_cons, List.prefix_cons_inj]
      cases testLines style number test with
      | error fault => exact List.nil_prefix
      | ok lines => exact ih (number + 1)

theorem snd_testsLines (style : Style) (number : Nat) (tests : List TestCase) :
    (testsLines style number tests).2 = number + (tried style number tests).length := by
  induction tests generalizing number with
  | nil => rfl
  | cons test rest ih =>
      rw [testsLines, tried]
      cases testLines style number test with
      | error fault => rfl
      | ok lines =>
          simp only [ih, List.length_cons]
          omega

theorem counter_formatAll (style : Style) (counter : Nat) (collection : Collection)
    (sink : Sink) :
    (formatAll style counter collection sink).counter =
      (tried style 0 collection.renderableTests).length := by
  have reached : (unitText style (resetCounter counter) collection).2 =
      (tried style 0 collection.renderableTests).length := by
    rw [unitText_eq]
    exact (snd_testsLines style 0 collection.renderableTests).trans (Nat.zero_add _)
  rcases written : unitText style (resetCounter counter) collection with ⟨_ | text, last⟩ <;>
    rw [written] at reached <;> simp only [formatAll, written, reached]

theorem tried_of_formatAll {counter : Nat} {collection : Collection} {sink : Sink}
    (succeeded : (formatAll style counter collection sink).result = .ok ()) :
    tried style 0 collection.renderableTests = collection.cases := by
  refine (tried_front style 0 _).eq_of_length ?_
  rw [← counter_formatAll style counter collection sink]
  exact (received_of_formatAll succeeded).1

end JUnit

/-- The text of a test case alone, by its number. -/
def ReportKind.ShowsAlone (config : Config) (item : TestCase × Nat) (text : String) :
    ReportKind → Prop
  | .junit dialect =>
      ∃ method, JUnit.Shows (.ofConfig dialect config) item method ∧
        text = String.join ((method.lines dialect).map Line.text)
  | .document => ∃ view, Document.Shows item view ∧ text = view.indented 0

namespace ReportKind

variable {kind : ReportKind} {config : Config}

/-- The test cases of a report that take a number, with their numbers. -/
def tried (config : Config) (collection : Collection) : ReportKind → List (TestCase × Nat)
  | .junit dialect => JUnit.tried (.ofConfig dialect config) 0 collection.renderableTests
  | .document => collection.cases

theorem tried_front (kind : ReportKind) (config : Config) (collection : Collection) :
    kind.tried config collection <+: collection.cases := by
  cases kind with
  | junit dialect => exact JUnit.tried_front (.ofConfig dialect config) 0 _
  | document => exact List.prefix_refl _

theorem numbers_tried (kind : ReportKind) (config : Config) (collection : Collection) :
    (kind.tried config collection).map Prod.snd =
      List.range' firstNumber (kind.tried config collection).length := by
  have front := kind.tried_front config collection
  have taken := List.prefix_iff_eq_take.mp (front.map Prod.snd)
  rw [Collection.numbers_cases, List.length_map, List.take_range,
    Nat.min_eq_left front.length_le] at taken
  rw [taken, List.range_eq_range']
  rfl

/-- A report that succeeds has tried all its test cases. -/
theorem tried_of_formatAll {counter : Nat} {collection : Collection} {sink : Sink}
    (succeeded :
      ((kind.formatter config).formatAll counter collection sink).result = .ok ()) :
    kind.tried config collection = collection.cases := by
  cases kind with
  | junit dialect => exact JUnit.tried_of_formatAll succeeded
  | document => rfl

theorem shows_of_formatTest {counter : Nat} {test : TestCase} {text : String}
    (written : ((kind.formatter config).formatTest counter test).1 = .ok text) :
    kind.ShowsAlone config (test, counter) text := by
  cases kind with
  | junit dialect =>
      obtain ⟨lines, linesOk, joined⟩ := JUnit.formatTest_eq_ok_iff.mp written
      obtain ⟨method, made, same⟩ := bind_eq_ok_iff.mp linesOk
      cases same
      exact ⟨method, JUnit.shows_of_testMethod made, joined.symm⟩
  | document =>
      cases written
      exact ⟨_, Document.shows_caseView (test, counter), rfl⟩

/-- The counter that a report starts with does not matter. -/
theorem formatAll_forgets (kind : ReportKind) (config : Config) (counter other : Nat) :
    (kind.formatter config).formatAll counter = (kind.formatter config).formatAll other := by
  cases kind <;> rfl

end ReportKind

namespace Formatter

/-- The counter after a request. -/
def step (formatter : Formatter) (counter : Nat) : Request → Nat
  | .formatTest test => (formatter.formatTest counter test).2
  | .writeTest test sink => (formatter.writeTest counter test sink).counter
  | .formatAll collection sink => (formatter.formatAll counter collection sink).counter
  | .resetCounter => formatter.resetCounter counter

/-- The counter after requests. -/
def run (formatter : Formatter) (counter : Nat) (requests : List Request) : Nat :=
  requests.foldl formatter.step counter

theorem counter_writeTest (formatter : Formatter) (counter : Nat) (test : TestCase)
    (sink : Sink) :
    (formatter.writeTest counter test sink).counter =
      (formatter.formatTest counter test).2 := by
  rcases formatted : formatter.formatTest counter test with ⟨_ | text, after⟩ <;>
    simp only [writeTest, formatted]

end Formatter

namespace ReportKind

/-- What a request does to the numbers.  A test case takes its number before it is
known whether it can be written. -/
def events (kind : ReportKind) (config : Config) (counter : Nat) :
    Request → List NumberEvent
  | .formatTest test => [.taken counter test]
  | .writeTest test _ => [.taken counter test]
  | .formatAll collection _ =>
      .reset :: (kind.tried config collection).map fun item => .taken item.2 item.1
  | .resetCounter => [.reset]

/-- What requests do to the numbers, one after the other. -/
def history (kind : ReportKind) (config : Config) (counter : Nat) :
    List Request → List NumberEvent
  | [] => []
  | request :: rest =>
      kind.events config counter request ++
        kind.history config ((kind.formatter config).step counter request) rest

variable {kind : ReportKind} {config : Config}

theorem step_formatTest (kind : ReportKind) (config : Config) (counter : Nat)
    (test : TestCase) : ((kind.formatter config).formatTest counter test).2 = counter + 1 := by
  cases kind <;> rfl

theorem counter_formatAll (kind : ReportKind) (config : Config) (counter : Nat)
    (collection : Collection) (sink : Sink) :
    ((kind.formatter config).formatAll counter collection sink).counter =
      firstNumber + (kind.tried config collection).length := by
  cases kind with
  | junit dialect =>
      exact (JUnit.counter_formatAll _ counter collection sink).trans (Nat.zero_add _).symm
  | document => exact Document.counter_log_formatAll.1.trans (Nat.zero_add _).symm

/-- A request leads from its counter to the next, also if it fails. -/
theorem leads_events (kind : ReportKind) (config : Config) (counter : Nat)
    (request : Request) :
    NumberEvent.Leads counter (kind.events config counter request)
      ((kind.formatter config).step counter request) := by
  cases request with
  | formatTest test =>
      rw [Formatter.step, step_formatTest]
      exact .taken test (.nil _)
  | writeTest test sink =>
      rw [Formatter.step, Formatter.counter_writeTest, step_formatTest]
      exact .taken test (.nil _)
  | formatAll collection sink =>
      rw [Formatter.step, counter_formatAll]
      exact .reset (NumberEvent.leads_of_consecutive (numbers_tried kind config collection))
  | resetCounter =>
      have anew : (kind.formatter config).step counter .resetCounter = firstNumber := by
        cases kind <;> rfl
      rw [anew]
      exact .reset (.nil _)

theorem leads_history (kind : ReportKind) (config : Config) (counter : Nat)
    (requests : List Request) :
    NumberEvent.Leads counter (kind.history config counter requests)
      ((kind.formatter config).run counter requests) := by
  induction requests generalizing counter with
  | nil => exact .nil counter
  | cons request rest ih => exact (kind.leads_events config counter request).append (ih _)

end ReportKind

/-- A report is the same after any requests as on a new formatter.  Between two resets
the numbers ascend, and each is the number in the text of its test case. -/
theorem formatAll_forgets_history (kind : ReportKind) (config : Config) :
    let formatter := kind.formatter config
    (∀ requests collection sink,
      formatter.formatAll (formatter.run firstNumber requests) collection sink =
        formatter.formatAll firstNumber collection sink) ∧
    (∀ requests before segment after,
      kind.history config firstNumber requests = before ++ segment ++ after →
        (∀ event ∈ segment, event.isReset = false) →
          (segment.filterMap NumberEvent.number?).Pairwise (· < ·)) ∧
    (∀ counter test text, (formatter.formatTest counter test).1 = .ok text →
      kind.ShowsAlone config (test, counter) text) ∧
    ∀ counter collection sink,
      (formatter.formatAll counter collection sink).result = .ok () →
        kind.tried config collection = collection.cases := by
  intro formatter
  refine ⟨?_, ?_, ?_, ?_⟩
  · intro requests collection sink
    rw [kind.formatAll_forgets config _ firstNumber]
  · intro requests before segment after parts unreset
    have leads := kind.leads_history config firstNumber requests
    rw [parts, List.append_assoc] at leads
    obtain ⟨start, _, rest⟩ := leads.split
    obtain ⟨last, here, _⟩ := rest.split
    rw [here.numbers unreset]
    exact List.pairwise_lt_range'
  · intro counter test text written
    exact ReportKind.shows_of_formatTest written
  · intro counter collection sink succeeded
    exact ReportKind.tried_of_formatAll succeeded

end TestSynth
