import TestSynth.Config.Properties
import TestSynth.Proofs.Fault.Propagation

/-!
# Options of properties

Of all the properties of a host only the options of the chosen group matter.  What they
describe is a valid configuration, and is refused exactly if a flag is not spelled as a
truth value or if a name cannot be used; the message level is no reason to refuse it.
-/

namespace TestSynth

namespace Properties

/-- The names of the options of a group. -/
def optionNames : List String :=
  ["formatter", "formatter.package", "formatter.class_name", "formatter.message", "optimize",
    "symbolic_arrays"]

/-- The ways to spell a truth value. -/
def truthSpellings : List String :=
  ["true", "yes", "on", "1", "false", "no", "off", "0"]

/-- What a host sets for an option of the chosen group. -/
def text? (properties : Properties) (name : String) : Option String :=
  properties (optionKey properties.group name)

/-- Both choose the same group, and set the same for the named options of it. -/
structure AgreeOn (names : List String) (left right : Properties) : Prop where
  abbreviation : left (optionKey defaultGroup "abbreviation") =
    right (optionKey defaultGroup "abbreviation")
  options : ∀ name ∈ names,
    left (optionKey left.group name) = right (optionKey left.group name)

/-- A flag is not spelled as a truth value, or a name cannot be used. -/
inductive Flawed (properties : Properties) : Prop
  | flag {name text : String} :
      name = "optimize" ∨ name = "symbolic_arrays" →
      properties.text? name = some text →
      lowerCase (Text.trim text) ∉ truthSpellings →
      Flawed properties
  | formatter {text : String} :
      properties.text? "formatter" = some text →
      Text.trim text = "" →
      Flawed properties
  | className {text : String} :
      properties.text? "formatter.class_name" = some text →
      Text.isIdentifier (Text.trim text) = false →
      Flawed properties
  | package {text : String} :
      properties.text? "formatter.package" = some text →
      Text.trim text ≠ "" →
      Text.isDottedIdentifier (Text.trim text) = false →
      Flawed properties

variable {names : List String} {left right properties : Properties} {fault : Fault}

theorem option?_eq (properties : Properties) (name : String) :
    properties.option? name = (properties.text? name).map Text.trim :=
  rfl

namespace AgreeOn

theorem group (agree : left.AgreeOn names right) : left.group = right.group := by
  rw [Properties.group, Properties.group, agree.abbreviation]

theorem option? (agree : left.AgreeOn names right) {name : String} (member : name ∈ names) :
    left.option? name = right.option? name := by
  rw [option?_eq, option?_eq, text?, text?, ← agree.group, agree.options name member]

theorem flag (agree : left.AgreeOn names right) {name : String} (member : name ∈ names) :
    left.flag name = right.flag name := by
  rw [Properties.flag, Properties.flag, agree.option? member, agree.group]

theorem package? (agree : left.AgreeOn names right) (member : "formatter.package" ∈ names) :
    left.package? = right.package? := by
  rw [Properties.package?, Properties.package?, agree.option? member]

theorem messageLevel (agree : left.AgreeOn names right)
    (member : "formatter.message" ∈ names) : left.messageLevel = right.messageLevel := by
  rw [Properties.messageLevel, Properties.messageLevel, agree.option? member]

end AgreeOn

theorem truthValue?_eq_none_iff {text : String} :
    truthValue? text = none ↔ text ∉ truthSpellings := by
  unfold truthValue? truthSpellings
  split <;> simp_all

theorem exists_flag_eq_error_iff {name : String} :
    (∃ fault, properties.flag name = .error fault) ↔
      ∃ text, properties.text? name = some text ∧
        lowerCase (Text.trim text) ∉ truthSpellings := by
  simp only [← truthValue?_eq_none_iff]
  unfold flag
  rw [option?_eq]
  cases properties.text? name with
  | none => simp
  | some text =>
      cases value : truthValue? (lowerCase (Text.trim text)) <;> simp [value]

/-- What the options describe, once the flags have been read. -/
def described (properties : Properties) (optimize symbolicArrays : Bool) : Config :=
  { formatter := (properties.option? "formatter").getD ({} : Config).formatter
    package := properties.package?
    className := (properties.option? "formatter.class_name").getD ({} : Config).className
    message := properties.messageLevel.1
    optimize := optimize
    symbolicArrays := symbolicArrays }

theorem AgreeOn.described (agree : left.AgreeOn optionNames right)
    (optimize symbolicArrays : Bool) :
    left.described optimize symbolicArrays = right.described optimize symbolicArrays := by
  unfold Properties.described
  rw [agree.option? (by decide : "formatter" ∈ optionNames),
    agree.option? (by decide : "formatter.class_name" ∈ optionNames),
    agree.package? (by decide), agree.messageLevel (by decide)]

theorem ofProperties_eq (properties : Properties) :
    (Config.ofProperties properties).1 =
      properties.flag "optimize" >>= fun optimize =>
        properties.flag "symbolic_arrays" >>= fun symbolicArrays =>
          (properties.described optimize symbolicArrays).validated :=
  rfl

end Properties

namespace Config

variable {config : Config} {properties left right : Properties} {fault : Fault}

theorem validated_eq_ok_iff {result : Config} :
    config.validated = .ok result ↔ config.validate = .ok () ∧ config = result := by
  unfold validated
  cases config.validate <;> simp [bind, Except.bind, pure, Except.pure]

theorem validated_eq_error_iff :
    config.validated = .error fault ↔ config.validate = .error fault := by
  unfold validated
  cases config.validate <;> simp [bind, Except.bind, pure, Except.pure]

theorem exists_validate_eq_error_iff :
    (∃ fault, config.validate = .error fault) ↔
      config.formatter = "" ∨ Text.isIdentifier config.className = false ∨
        ∃ package, config.package = some package ∧
          Text.isDottedIdentifier package = false := by
  unfold validate
  by_cases emptyFormatter : config.formatter = ""
  · simp [emptyFormatter]
  · cases identifier : Text.isIdentifier config.className with
    | false => simp [emptyFormatter]
    | true =>
        cases config.package with
        | none => simp [emptyFormatter]
        | some package =>
            cases dotted : Text.isDottedIdentifier package <;> simp [emptyFormatter, dotted]

/-- The flags and the message level have no part in it. -/
theorem validate_congr {first second : Config}
    (formatter : first.formatter = second.formatter)
    (package : first.package = second.package)
    (className : first.className = second.className) :
    first.validate = second.validate := by
  unfold validate
  rw [formatter, package, className]

theorem ofProperties_eq_ok_iff :
    (ofProperties properties).1 = .ok config ↔
      properties.flag "optimize" = .ok config.optimize ∧
        properties.flag "symbolic_arrays" = .ok config.symbolicArrays ∧
        config.validate = .ok () ∧
        properties.described config.optimize config.symbolicArrays = config := by
  rw [Properties.ofProperties_eq]
  simp only [bind_eq_ok_iff, validated_eq_ok_iff]
  constructor
  · rintro ⟨optimize, optimizeRead, symbolicArrays, symbolicArraysRead, valid, rfl⟩
    exact ⟨optimizeRead, symbolicArraysRead, valid, rfl⟩
  · rintro ⟨optimizeRead, symbolicArraysRead, valid, same⟩
    exact ⟨_, optimizeRead, _, symbolicArraysRead, same ▸ valid, same⟩

theorem ofProperties_eq_error_iff :
    (ofProperties properties).1 = .error fault ↔
      properties.flag "optimize" = .error fault ∨
        ∃ optimize, properties.flag "optimize" = .ok optimize ∧
          (properties.flag "symbolic_arrays" = .error fault ∨
            ∃ symbolicArrays, properties.flag "symbolic_arrays" = .ok symbolicArrays ∧
              (properties.described optimize symbolicArrays).validate = .error fault) := by
  rw [Properties.ofProperties_eq]
  simp only [bind_eq_error_iff, validated_eq_error_iff]

/-- The properties are refused if a part of them is: none makes up for another. -/
theorem exists_ofProperties_eq_error_iff :
    (∃ fault, (ofProperties properties).1 = .error fault) ↔
      (∃ fault, properties.flag "optimize" = .error fault) ∨
        (∃ fault, properties.flag "symbolic_arrays" = .error fault) ∨
          ∃ fault, (properties.described false false).validate = .error fault := by
  simp only [ofProperties_eq_error_iff]
  have flags : ∀ optimize symbolicArrays,
      (properties.described optimize symbolicArrays).validate =
        (properties.described false false).validate :=
    fun _ _ => rfl
  simp only [flags]
  cases properties.flag "optimize" with
  | error other => simp
  | ok optimize =>
      cases properties.flag "symbolic_arrays" <;> simp

/-- A name that is not set is one that can be used. -/
theorem exists_validate_described_eq_error_iff {optimize symbolicArrays : Bool} :
    (∃ fault, (properties.described optimize symbolicArrays).validate = .error fault) ↔
      (∃ text, properties.text? "formatter" = some text ∧ Text.trim text = "") ∨
        (∃ text, properties.text? "formatter.class_name" = some text ∧
          Text.isIdentifier (Text.trim text) = false) ∨
          ∃ text, properties.text? "formatter.package" = some text ∧
            Text.trim text ≠ "" ∧ Text.isDottedIdentifier (Text.trim text) = false := by
  have formatter : (properties.described optimize symbolicArrays).formatter = "" ↔
      ∃ text, properties.text? "formatter" = some text ∧ Text.trim text = "" := by
    simp only [Properties.described, Properties.option?_eq]
    cases properties.text? "formatter" <;> simp
  have className :
      Text.isIdentifier (properties.described optimize symbolicArrays).className = false ↔
        ∃ text, properties.text? "formatter.class_name" = some text ∧
          Text.isIdentifier (Text.trim text) = false := by
    have usable : Text.isIdentifier "Testcases" = true := by decide +kernel
    simp only [Properties.described, Properties.option?_eq]
    cases properties.text? "formatter.class_name" <;> simp [usable]
  have package :
      (∃ package, (properties.described optimize symbolicArrays).package = some package ∧
          Text.isDottedIdentifier package = false) ↔
        ∃ text, properties.text? "formatter.package" = some text ∧
          Text.trim text ≠ "" ∧ Text.isDottedIdentifier (Text.trim text) = false := by
    simp only [Properties.described, Properties.package?, Properties.option?_eq]
    cases properties.text? "formatter.package" <;> simp [and_assoc]
  rw [exists_validate_eq_error_iff, formatter, className, package]

theorem exists_ofProperties_eq_error_iff_flawed :
    (∃ fault, (ofProperties properties).1 = .error fault) ↔ properties.Flawed := by
  rw [exists_ofProperties_eq_error_iff, exists_validate_described_eq_error_iff,
    Properties.exists_flag_eq_error_iff, Properties.exists_flag_eq_error_iff]
  constructor
  · rintro (⟨text, set, unknown⟩ | ⟨text, set, unknown⟩ | ⟨text, set, empty⟩ |
      ⟨text, set, unusable⟩ | ⟨text, set, nonempty, unusable⟩)
    · exact .flag (.inl rfl) set unknown
    · exact .flag (.inr rfl) set unknown
    · exact .formatter set empty
    · exact .className set unusable
    · exact .package set nonempty unusable
  · rintro (⟨rfl | rfl, set, unknown⟩ | ⟨set, empty⟩ | ⟨set, unusable⟩ |
      ⟨set, nonempty, unusable⟩)
    · exact .inl ⟨_, set, unknown⟩
    · exact .inr (.inl ⟨_, set, unknown⟩)
    · exact .inr (.inr (.inl ⟨_, set, empty⟩))
    · exact .inr (.inr (.inr (.inl ⟨_, set, unusable⟩)))
    · exact .inr (.inr (.inr (.inr ⟨_, set, nonempty, unusable⟩)))

/-- An option that is not set has its default. -/
structure DefaultsFor (properties : Properties) (config : Config) : Prop where
  formatter : properties.text? "formatter" = none → config.formatter = "junit5"
  package : properties.text? "formatter.package" = none → config.package = none
  className : properties.text? "formatter.class_name" = none →
    config.className = "Testcases"
  message : properties.text? "formatter.message" = none → config.message = .off
  optimize : properties.text? "optimize" = none → config.optimize = false
  symbolicArrays : properties.text? "symbolic_arrays" = none → config.symbolicArrays = false

theorem eq_false_of_flag {name : String} {value : Bool}
    (read : properties.flag name = .ok value) (unset : properties.text? name = none) :
    value = false := by
  unfold Properties.flag at read
  rw [Properties.option?_eq, unset] at read
  cases read
  rfl

theorem defaultsFor_of_eq_ok (described : (ofProperties properties).1 = .ok config) :
    config.DefaultsFor properties := by
  obtain ⟨optimizeRead, symbolicArraysRead, -, same⟩ := ofProperties_eq_ok_iff.mp described
  have options {name : String} (unset : properties.text? name = none) :
      properties.option? name = none := by
    rw [Properties.option?_eq, unset, Option.map_none]
  constructor
  case optimize => exact eq_false_of_flag optimizeRead
  case symbolicArrays => exact eq_false_of_flag symbolicArraysRead
  all_goals
    intro unset
    rw [← same]
    simp [Properties.described, Properties.package?, Properties.messageLevel, options unset]

/-- What is reported about the message level may differ, but not whether and why the
properties are refused. -/
theorem ofProperties_eq_error_congr
    (agree : left.AgreeOn (Properties.optionNames.erase "formatter.message") right) :
    (ofProperties left).1 = .error fault ↔ (ofProperties right).1 = .error fault := by
  have validates : ∀ optimize symbolicArrays,
      (left.described optimize symbolicArrays).validate =
        (right.described optimize symbolicArrays).validate := by
    intro optimize symbolicArrays
    apply validate_congr
    · simp only [Properties.described]
      rw [agree.option? (by decide)]
    · exact agree.package? (by decide)
    · simp only [Properties.described]
      rw [agree.option? (by decide)]
  rw [ofProperties_eq_error_iff, ofProperties_eq_error_iff, agree.flag (by decide),
    agree.flag (by decide)]
  simp only [validates]

theorem ofProperties_congr (agree : left.AgreeOn Properties.optionNames right) :
    ofProperties left = ofProperties right := by
  apply Prod.ext
  · rw [Properties.ofProperties_eq, Properties.ofProperties_eq, agree.flag (by decide),
      agree.flag (by decide)]
    simp only [agree.described]
  · show left.messageLevel.2 = right.messageLevel.2
    rw [agree.messageLevel (by decide)]

/-- Only the options of the chosen group matter; what they describe is valid, has its
default where nothing is set, and is refused for flaws of flags and names alone. -/
theorem ofProperties_selective :
    (∀ left right : Properties, left.AgreeOn Properties.optionNames right →
        ofProperties left = ofProperties right) ∧
      (∀ (properties : Properties) (config : Config),
        (ofProperties properties).1 = .ok config →
          config.validate = .ok () ∧ config.DefaultsFor properties) ∧
      (∀ properties : Properties,
        (∃ fault, (ofProperties properties).1 = .error fault) ↔ properties.Flawed) ∧
      ∀ left right : Properties,
        left.AgreeOn (Properties.optionNames.erase "formatter.message") right →
          ∀ fault, (ofProperties left).1 = .error fault ↔
            (ofProperties right).1 = .error fault := by
  refine ⟨fun _ _ agree => ofProperties_congr agree, ?_, ?_, ?_⟩
  · intro properties config described
    exact ⟨(ofProperties_eq_ok_iff.mp described).2.2.1, defaultsFor_of_eq_ok described⟩
  · exact fun _ => exists_ofProperties_eq_error_iff_flawed
  · exact fun _ _ agree _ => ofProperties_eq_error_congr agree

/-- Properties that choose the group `gen`, set a message level and a flag there, and set
another flag in the group that is not chosen. -/
def chosenProperties (level flag ignored : String) : Properties
  | "symtest.abbreviation" => some "gen"
  | "gen.formatter.message" => some level
  | "gen.optimize" => some flag
  | "symtest.optimize" => some ignored
  | _ => none

/-- What is set in the other group does not matter, an unknown level is no flaw, and an
unknown flag is one. -/
theorem ofProperties_selective_chosen :
    chosenProperties "full" " Yes " "maybe" ≠ chosenProperties "full" " Yes " "no" ∧
      ofProperties (chosenProperties "full" " Yes " "maybe") =
        ofProperties (chosenProperties "full" " Yes " "no") ∧
      (∃ config, (ofProperties (chosenProperties "full" " Yes " "no")).1 = .ok config ∧
        config.validate = .ok () ∧ config.optimize = true ∧
        config.className = "Testcases" ∧ config.symbolicArrays = false) ∧
      (∃ fault, (ofProperties (chosenProperties "full" "maybe" "no")).1 = .error fault ∧
        (ofProperties (chosenProperties "loud" "maybe" "no")).1 = .error fault) := by
  obtain ⟨congruent, sound, refused, unaffected⟩ := ofProperties_selective
  have described : (ofProperties (chosenProperties "full" " Yes " "no")).1 =
      .ok { message := .full, optimize := true } := by
    decide +kernel
  obtain ⟨valid, defaults⟩ := sound _ _ described
  have unknown : lowerCase (Text.trim "maybe") ∉ Properties.truthSpellings := by
    decide +kernel
  have flawed : (chosenProperties "full" "maybe" "no").Flawed :=
    .flag (.inl rfl) rfl unknown
  obtain ⟨fault, failed⟩ := (refused _).mpr flawed
  refine ⟨fun same => ?_, congruent _ _ ⟨rfl, by decide +kernel⟩,
    ⟨_, described, valid, rfl, defaults.className rfl, defaults.symbolicArrays rfl⟩,
    ⟨fault, failed, (unaffected _ _ ⟨rfl, by decide +kernel⟩ fault).mp failed⟩⟩
  have ignored := congrFun same "symtest.optimize"
  exact absurd ignored (by decide +kernel)

end Config

end TestSynth
