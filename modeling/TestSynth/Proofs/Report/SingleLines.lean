import TestSynth.Proofs.Report.Rendering

/-!
# Lines of test methods

Literals are made of printable characters.  So no line ends inside a line of a test
method, unless one does inside a name.
-/

namespace TestSynth

namespace Decimal

theorem printable_zeros (count : Nat) : ∀ digit ∈ zeros count, Printable digit := by
  intro digit member
  rw [List.eq_of_mem_replicate member]
  decide

theorem printable_pointed {digits : List Char}
    (printable : ∀ digit ∈ digits, Printable digit) (leading : Int) :
    ∀ character ∈ pointed digits leading, Printable character := by
  have zero : Printable '0' := by decide
  have point : Printable '.' := by decide
  unfold pointed
  dsimp only
  split
  · simp only [List.forall_mem_append, List.forall_mem_cons]
    exact ⟨⟨zero, point, printable_zeros _⟩, printable⟩
  split
  · simp only [List.forall_mem_append, List.forall_mem_cons]
    exact ⟨⟨printable, printable_zeros _⟩, point, zero, List.forall_mem_nil _⟩
  · simp only [List.forall_mem_append, List.forall_mem_cons]
    exact ⟨fun digit member => printable digit (List.mem_of_mem_take member), point,
      fun digit member => printable digit (List.mem_of_mem_drop member)⟩

theorem Layout.printable_scientific {layout : Layout}
    (plus : Within Printable layout.plus) {digits : List Char}
    (printable : ∀ digit ∈ digits, Printable digit) (leading : Int) :
    ∀ character ∈ layout.scientific digits leading, Printable character := by
  have point : Printable '.' := by decide
  have power : Printable 'e' := by decide
  have sign : ∀ character ∈ if leading < 0 then [] else layout.plus.toList,
      Printable character := by
    split
    · exact List.forall_mem_nil _
    · exact plus
  unfold scientific
  dsimp only
  simp only [List.forall_mem_append, List.forall_mem_cons]
  refine ⟨⟨?_, power, sign⟩, printable_intText leading⟩
  match digits with
  | [] => exact List.forall_mem_nil _
  | [digit] => exact printable
  | digit :: next :: rest =>
      obtain ⟨first, others⟩ := List.forall_mem_cons.mp printable
      exact List.forall_mem_cons.mpr
        ⟨first, List.forall_mem_cons.mpr ⟨point, others⟩⟩

theorem printable_stripZeros {digits : List Char}
    (printable : ∀ digit ∈ digits, Printable digit) :
    ∀ digit ∈ stripZeros digits, Printable digit := by
  intro digit member
  have inside := (List.dropWhile_sublist _).subset (List.mem_reverse.mp member)
  exact printable digit (List.mem_reverse.mp inside)

theorem Layout.printable_finite {layout : Layout} (plus : Within Printable layout.plus)
    (negative : Bool) (magnitude : Magnitude) :
    Within Printable (layout.finite negative magnitude) := by
  have sign : Within Printable (if negative then "-" else "") := by
    cases negative <;> decide
  have zero : Within Printable "0.0" := by decide
  unfold finite
  dsimp only
  split
  · exact sign.append zero
  · refine sign.append ?_
    unfold Within digits
    rw [String.toList_ofList]
    have significant := printable_stripZeros
      (printable_natText (magnitude.shortest layout.tie).coefficient)
    dsimp only
    split
    · exact printable_pointed significant _
    · exact printable_scientific plus significant _

end Decimal

theorem printable_booleanText (value : Bool) : Within Printable (booleanText value) := by
  cases value <;> decide

theorem printable_charLiteral (code : Nat) : Within Printable (charLiteral code) := by
  have quote : Within Printable "'" := by decide
  unfold charLiteral
  split
  · decide
  split
  · decide
  split
  · rename_i printed
    refine (quote.append ?_).append quote
    intro character member
    have valid : ∀ code < 127, 32 ≤ code → Printable (Char.ofNat code) := by
      decide
    have same : character = Char.ofNat code := by simpa using member
    rw [same]
    exact valid code (Nat.lt_succ_of_le printed.2) printed.1
  · exact .append (by decide) (printable_natText code)

theorem printable_realLiteral {className suffix : String}
    (classPrintable : Within Printable className)
    (suffixPrintable : Within Printable suffix) (value : Decimal.Binary) :
    Within Printable (realLiteral className suffix value) := by
  cases value with
  | notANumber => exact classPrintable.append (by decide)
  | infinite negative =>
      refine classPrintable.append ?_
      cases negative <;> decide
  | finite negative magnitude =>
      exact (Decimal.Layout.printable_finite (by decide) _ _).append suffixPrintable

theorem printable_integerLiteral (primitive : Primitive) (value : Int) :
    Within Printable (integerLiteral primitive value) := by
  cases primitive with
  | byte => exact .append (by decide) (printable_intText _)
  | short => exact .append (by decide) (printable_intText _)
  | char => exact printable_charLiteral _
  | long => exact .append (printable_intText _) (by decide)
  | _ => exact printable_intText _

theorem printable_scalarLiteral {primitive : Primitive} {scalar : Scalar}
    {text : String} (written : scalarLiteral primitive scalar = .ok text) :
    Within Printable text := by
  unfold scalarLiteral at written
  split at written
  · cases written
  · cases written
    exact printable_integerLiteral _ _
  · cases written
    exact printable_booleanText _
  · split at written
    · cases written
      exact printable_realLiteral (by decide) (by decide) _
    · cases written
      exact printable_realLiteral (by decide) (by decide) _

theorem printable_arrayInitializer {element : Primitive} {array : ScalarArray}
    {text : String} (written : arrayInitializer element array = .ok text) :
    Within Printable text := by
  obtain ⟨texts, elementsOk, same⟩ := bind_eq_ok_iff.mp written
  cases same
  have elements : ∀ text ∈ texts, Within Printable text := by
    intro text member
    obtain ⟨scalar, _, elementOk⟩ := exists_of_mem_mapM elementsOk member
    exact printable_scalarLiteral elementOk
  exact (Within.append (by decide) (.intercalate (by decide) elements)).append
    (by decide)

theorem printable_literal {type : JavaType} {value : Value} {text : String}
    (written : literal type value = .ok text) : Within Printable text := by
  unfold literal at written
  split at written
  · exact printable_scalarLiteral written
  · split at written
    · exact printable_arrayInitializer written
    · cases written
  · cases written

/-- The names that a test case mentions are made of allowed characters. -/
structure TestCase.NamesWithin (allowed : Char → Prop) (test : TestCase) : Prop where
  owner : Within allowed test.method.declaringClass.name
  method : Within allowed test.method.name
  parameters : ∀ parameter ∈ test.method.parameters, Within allowed parameter.name
  arguments : ∀ argument ∈ test.arguments, Within allowed argument.parameter.name
  thrown : ∀ name ∈ test.method.thrown, Within allowed name
  exception : ∀ exception, test.outcome = .threw exception →
    Within allowed exception.typeName

theorem TestCase.NamesWithin.imp {allowed wider : Char → Prop} {test : TestCase}
    (wide : ∀ character, allowed character → wider character)
    (names : test.NamesWithin allowed) : test.NamesWithin wider :=
  { owner := names.owner.imp wide
    method := names.method.imp wide
    parameters := fun parameter member => (names.parameters parameter member).imp wide
    arguments := fun argument member => (names.arguments argument member).imp wide
    thrown := fun name member => (names.thrown name member).imp wide
    exception := fun exception threw => (names.exception exception threw).imp wide }

namespace Dialect

theorem mem_of_mem_leadingMessage {dialect : Dialect} {message : Option String}
    {text : String} (member : text ∈ dialect.leadingMessage message) :
    text ∈ message.toList := by
  unfold leadingMessage at member
  split at member
  · exact member
  · cases member

theorem mem_of_mem_trailingMessage {dialect : Dialect} {message : Option String}
    {text : String} (member : text ∈ dialect.trailingMessage message) :
    text ∈ message.toList := by
  unfold trailingMessage at member
  split at member
  · cases member
  · exact member

end Dialect

namespace Statement

/-- The texts that a statement is put together from. -/
def parts : Statement → List String
  | .declare type name value => [type, name, value]
  | .perform expression => [expression]
  | .assertEqual assertion expected actual tolerance message =>
      [assertion, expected, actual] ++ tolerance.toList ++ message.toList
  | .assertThrows className call message => [className, call] ++ message.toList

theorem single_lines (dialect : Dialect) {statement : Statement}
    (single : ∀ part ∈ statement.parts, SingleLine part) :
    ∀ line ∈ statement.lines dialect, line.Single := by
  have separator : SingleLine ", " := by decide
  have closing : SingleLine ");" := by decide
  cases statement with
  | declare type name value =>
      simp only [parts, List.forall_mem_cons] at single
      obtain ⟨typeSingle, nameSingle, valueSingle, _⟩ := single
      simp only [lines, List.forall_mem_singleton]
      exact .append (.append (.append (.append (.append typeSingle (by decide))
        nameSingle) (by decide)) valueSingle) (by decide)
  | perform expression =>
      simp only [parts, List.forall_mem_singleton] at single
      simp only [lines, List.forall_mem_singleton]
      exact .append single (by decide)
  | assertEqual assertion expected actual tolerance message =>
      simp only [parts, List.forall_mem_append, List.forall_mem_cons] at single
      obtain ⟨⟨⟨assertionSingle, expectedSingle, actualSingle, _⟩, toleranceSingle⟩,
        messageSingle⟩ := single
      have arguments : ∀ argument ∈ dialect.leadingMessage message ++
          [expected, actual] ++ tolerance.toList ++ dialect.trailingMessage message,
          SingleLine argument := by
        simp only [List.forall_mem_append, List.forall_mem_cons]
        exact ⟨⟨⟨fun _ member => messageSingle _ (Dialect.mem_of_mem_leadingMessage member),
          expectedSingle, actualSingle, List.forall_mem_nil _⟩, toleranceSingle⟩,
          fun _ member => messageSingle _ (Dialect.mem_of_mem_trailingMessage member)⟩
      simp only [lines, List.forall_mem_singleton]
      exact .append (.append (.append assertionSingle (by decide))
        (.intercalate separator arguments)) closing
  | assertThrows className call message =>
      simp only [parts, List.forall_mem_append, List.forall_mem_cons] at single
      obtain ⟨⟨classSingle, callSingle, _⟩, messageSingle⟩ := single
      have opening : ∀ argument ∈ dialect.leadingMessage message ++
          [className ++ ".class", "() -> \x7b"], SingleLine argument := by
        simp only [List.forall_mem_append, List.forall_mem_cons]
        exact ⟨fun _ member => messageSingle _ (Dialect.mem_of_mem_leadingMessage member),
          .append classSingle (by decide), by decide, List.forall_mem_nil _⟩
      have end' : ∀ argument ∈ "\x7d" :: dialect.trailingMessage message,
          SingleLine argument := by
        simp only [List.forall_mem_cons]
        exact ⟨by decide,
          fun _ member => messageSingle _ (Dialect.mem_of_mem_trailingMessage member)⟩
      simp only [lines, List.forall_mem_cons]
      exact ⟨.append (by decide) (.intercalate separator opening),
        .append callSingle (by decide),
        .append (.intercalate separator end') closing, List.forall_mem_nil _⟩

end Statement

namespace JUnit

variable {test : TestCase} {style : Style} {number : Nat}

theorem single_sourceClassName {name : String} (single : SingleLine name) :
    SingleLine (sourceClassName name) := by
  intro character member
  unfold sourceClassName at member
  rw [String.toList_ofList, List.mem_map] at member
  obtain ⟨original, given, rfl⟩ := member
  split
  · decide
  · exact single original given

theorem single_localName {name : String} (single : SingleLine name) :
    SingleLine (localName name) := by
  unfold localName
  split
  · exact single.append (by decide)
  · exact single

theorem single_escapeString {text : String} (single : SingleLine text) :
    SingleLine (escapeString text) := by
  intro character member
  unfold escapeString at member
  rw [String.toList_ofList, List.mem_flatMap] at member
  obtain ⟨original, given, escaped⟩ := member
  split at escaped
  · rcases List.mem_cons.mp escaped with rfl | last
    · decide
    · rw [List.mem_singleton.mp last]
      exact single original given
  · rw [List.mem_singleton.mp escaped]
    exact single original given

/-- Only types whose values have literals get into the text. -/
theorem single_sourceName_of_literal {type : JavaType} {value : Value} {text : String}
    (written : literal type value = .ok text) : SingleLine type.sourceName := by
  have keyword (base : Primitive) : SingleLine base.keyword := by
    cases base <;> decide
  unfold literal at written
  split at written
  · exact keyword _
  · split at written
    · rename_i element content _ base basic
      cases element with
      | primitive held => exact (keyword held).append (by decide)
      | _ => cases basic
    · cases written
  · cases written

theorem arrayLocals_of_array {argument : Argument} {rest : List Argument}
    {statements : List Statement} (isArray : argument.parameter.type.isArray = true)
    (written : arrayLocals (argument :: rest) = .ok statements) :
    ∃ text others, literal argument.parameter.type argument.value = .ok text ∧
      arrayLocals rest = .ok others ∧
      statements = .declare argument.parameter.type.sourceName
        (localName argument.parameter.name) text :: others := by
  unfold arrayLocals at written
  rw [if_pos isArray] at written
  obtain ⟨text, textOk, last⟩ := bind_eq_ok_iff.mp written
  obtain ⟨others, othersOk, same⟩ := bind_eq_ok_iff.mp last
  exact ⟨text, others, textOk, othersOk, (Except.ok.inj same).symm⟩

theorem arrayLocals_of_not_array {argument : Argument} (rest : List Argument)
    (notArray : argument.parameter.type.isArray = false) :
    arrayLocals (argument :: rest) = arrayLocals rest :=
  if_neg (Bool.eq_false_iff.mp notArray)

theorem single_arrayLocals {arguments : List Argument} {statements : List Statement}
    (names : ∀ argument ∈ arguments, SingleLine argument.parameter.name)
    (written : arrayLocals arguments = .ok statements) :
    ∀ statement ∈ statements, ∀ part ∈ statement.parts, SingleLine part := by
  induction arguments generalizing statements with
  | nil =>
      cases written
      exact List.forall_mem_nil _
  | cons argument rest ih =>
      obtain ⟨name, others⟩ := List.forall_mem_cons.mp names
      cases isArray : argument.parameter.type.isArray with
      | true =>
          obtain ⟨text, later, textOk, laterOk, rfl⟩ := arrayLocals_of_array isArray written
          refine List.forall_mem_cons.mpr ⟨?_, ih others laterOk⟩
          simp only [Statement.parts, List.forall_mem_cons]
          exact ⟨single_sourceName_of_literal textOk, single_localName name,
            .of_printable (printable_literal textOk), List.forall_mem_nil _⟩
      | false =>
          rw [arrayLocals_of_not_array rest isArray] at written
          exact ih others written

theorem single_receiverLocal {method : Method}
    (name : SingleLine method.declaringClass.name) :
    ∀ statement ∈ receiverLocal method, ∀ part ∈ statement.parts, SingleLine part := by
  unfold receiverLocal
  split
  · exact List.forall_mem_nil _
  · have className := single_sourceClassName name
    simp only [List.mem_singleton, forall_eq, Statement.parts, List.forall_mem_cons]
    exact ⟨className, by decide, .append (.append (by decide) className) (by decide)⟩

theorem single_callArgument {parameter : Parameter} {text : String}
    (name : SingleLine parameter.name) (written : callArgument test parameter = .ok text) :
    SingleLine text := by
  unfold callArgument at written
  split at written
  · cases written
  · split at written
    · cases written
      exact single_localName name
    · exact .of_printable (printable_literal written)

theorem single_callExpression {call : String}
    (names : test.NamesWithin (· ≠ '\n'))
    (written : callExpression test = .ok call) : SingleLine call := by
  obtain ⟨texts, argumentsOk, same⟩ := bind_eq_ok_iff.mp written
  cases same
  have target : SingleLine
      (if test.method.isStatic then sourceClassName test.method.declaringClass.name
        else receiverName) := by
    split
    · exact single_sourceClassName names.owner
    · decide
  have arguments : ∀ text ∈ texts, SingleLine text := by
    intro text member
    obtain ⟨parameter, given, argumentOk⟩ := exists_of_mem_mapM argumentsOk member
    have declared := (List.mem_filter.mp given).1
    exact single_callArgument (names.parameters parameter declared) argumentOk
  exact .append (.append (.append (.append (.append target (by decide))
    names.method) (by decide)) (.intercalate (by decide) arguments)) (by decide)

theorem single_messageArgument {argument : Argument} {text : String}
    (name : SingleLine argument.parameter.name)
    (written : messageArgument argument = .ok text) : SingleLine text := by
  obtain ⟨value, valueOk, same⟩ := bind_eq_ok_iff.mp written
  cases same
  have escaped := single_escapeString (.of_printable (printable_literal valueOk))
  exact .append (.append (.append (by decide) name) (by decide)) escaped

theorem single_assertMessage {level : MessageLevel} {message : Option String}
    (names : test.NamesWithin (· ≠ '\n'))
    (written : assertMessage level test = .ok message) :
    ∀ text ∈ message.toList, SingleLine text := by
  have subject : SingleLine ("Test for method " ++ test.method.name ++ " failed.") :=
    .append (.append (by decide) names.method) (by decide)
  cases level with
  | off =>
      cases written
      exact List.forall_mem_nil _
  | short =>
      cases written
      simp only [Option.toList_some, List.mem_singleton, forall_eq]
      exact .append (.append (by decide) subject) (by decide)
  | full =>
      obtain ⟨texts, argumentsOk, same⟩ := bind_eq_ok_iff.mp written
      cases same
      have arguments : ∀ text ∈ texts, SingleLine text := by
        intro text member
        obtain ⟨argument, given, argumentOk⟩ := exists_of_mem_mapM argumentsOk member
        exact single_messageArgument (names.arguments argument given) argumentOk
      simp only [Option.toList_some, List.mem_singleton, forall_eq]
      exact .append (.append (.append (.append (by decide) subject) (by decide))
        (.join arguments)) (by decide)

theorem single_tolerance? {type : JavaType} :
    ∀ text ∈ (tolerance? type).toList, SingleLine text := by
  unfold tolerance?
  split <;> decide

theorem single_outcomeStatements {statements : List Statement}
    (names : test.NamesWithin (· ≠ '\n'))
    (written : outcomeStatements style test = .ok statements) :
    ∀ statement ∈ statements, ∀ part ∈ statement.parts, SingleLine part := by
  obtain ⟨call, callOk, checks⟩ := outcomeStatements_eq_ok_iff.mp written
  cases checks with
  | void outcome =>
      simp only [List.mem_singleton, forall_eq, Statement.parts]
      exact single_callExpression names callOk
  | @threw exception _ outcome messageOk =>
      simp only [List.mem_singleton, forall_eq, Statement.parts, List.forall_mem_append,
        List.forall_mem_cons]
      exact ⟨⟨single_sourceClassName (names.exception exception outcome),
        single_callExpression names callOk⟩, single_assertMessage names messageOk⟩
  | returned outcome expectedOk messageOk =>
      have type := single_sourceName_of_literal expectedOk
      have expectedName : SingleLine expectedName := by decide
      have resultName : SingleLine resultName := by decide
      have assertion : SingleLine
          (if test.method.returnType.isArray then "assertArrayEquals"
            else "assertEquals") := by
        split <;> decide
      have tolerance : ∀ text ∈ (if style.dialect.takesTolerance then
          tolerance? test.method.returnType else none).toList, SingleLine text := by
        split
        · exact single_tolerance?
        · exact List.forall_mem_nil _
      simp only [List.forall_mem_cons, Statement.parts, List.forall_mem_append]
      exact ⟨⟨type, expectedName, .of_printable (printable_literal expectedOk),
          List.forall_mem_nil _⟩,
        ⟨type, resultName, single_callExpression names callOk, List.forall_mem_nil _⟩,
        ⟨⟨⟨assertion, expectedName, resultName, List.forall_mem_nil _⟩, tolerance⟩,
          single_assertMessage names messageOk⟩, List.forall_mem_nil _⟩

theorem single_throwsClause {method : TestMethod}
    (names : ∀ name ∈ method.thrown, SingleLine name) :
    SingleLine method.throwsClause := by
  unfold TestMethod.throwsClause
  split
  · decide
  · exact .append (by decide) (.intercalate (by decide) names)

/-- A test method has no blank lines, and no line ends inside another. -/
theorem single_testLines {lines : List Line} (names : test.NamesWithin (· ≠ '\n'))
    (written : testLines style number test = .ok lines) :
    ∀ line ∈ lines, line.Single := by
  obtain ⟨method, methodOk, same⟩ := bind_eq_ok_iff.mp written
  cases same
  obtain ⟨arrays, arraysOk, rest⟩ := bind_eq_ok_iff.mp methodOk
  obtain ⟨outcome, outcomeOk, same⟩ := bind_eq_ok_iff.mp rest
  cases same
  have body : ∀ statement ∈ arrays ++ receiverLocal test.method ++ outcome,
      ∀ part ∈ statement.parts, SingleLine part := by
    simp only [List.forall_mem_append]
    exact ⟨⟨single_arrayLocals names.arguments arraysOk,
      single_receiverLocal names.owner⟩, single_outcomeStatements names outcomeOk⟩
  have thrown : ∀ name ∈ if test.didThrow then []
      else test.method.thrown.map sourceClassName, SingleLine name := by
    split
    · exact List.forall_mem_nil _
    · exact List.forall_mem_map.mpr fun name member =>
        single_sourceClassName (names.thrown name member)
  have statements : ∀ line ∈ (arrays ++ receiverLocal test.method ++ outcome).flatMap
      (Statement.lines style.dialect), line.nested.Single := by
    intro line member
    obtain ⟨statement, given, inside⟩ := List.mem_flatMap.mp member
    exact Line.Single.nested (Statement.single_lines _ (body statement given) line inside)
  have signature : SingleLine ("public void test" ++ toString number ++ "()") :=
    .append (.append (by decide) (SingleLine.of_printable (printable_natText number)))
      (by decide)
  have tag : SingleLine "@Test" := by decide
  have closing : SingleLine "\x7d" := by decide
  simp only [TestMethod.lines, List.forall_mem_append, List.forall_mem_cons,
    List.forall_mem_map]
  exact ⟨⟨⟨.append (by decide) names.method, tag,
    .append (.append signature (single_throwsClause thrown)) (by decide),
    List.forall_mem_nil _⟩, statements⟩, closing, List.forall_mem_nil _⟩

end JUnit

end TestSynth
