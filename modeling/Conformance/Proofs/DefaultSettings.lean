import Conformance.JsonForm.Settings
import Conformance.Proofs.DefaultEdits
import Conformance.Settings.Toml
import Conformance.Verdict

/-!
# Defaults of settings

All settings may be left out. What is left out has its default, and there are two places where
defaults come from: a section that is missing altogether has those of the type, and a section
that is there has those of its fields. They are the same, at every depth: a record of settings
reads as the default of its type if every field that it gives has its own default
(`ofValue?_eq_default_iff` of each type). So edits that defaults allow for do not touch what is
read (`ofValue?_preserved`), and a section that a document says nothing of is shown and fails
nothing, wherever the document stops saying anything.

JSON and TOML differ in what they permit besides the fields, which the laws of records leave
open. So both notations are treated at once.

Main statement: `SettingsFormat.defaults_agree`.
-/

namespace Conformance

open Json (Value)

/-- Only a truth value is read as one. -/
theorem Json.Value.toBool?_eq_some_iff (value : Value) (truth : Bool) :
    value.toBool? = some truth ↔ value = .truth truth := by
  cases value <;> simp [toBool?]

/-- Only the empty list is read as no texts. -/
theorem Json.Value.toItems?_eq_nil_iff (value : Value) :
    toItems? toText? value = some [] ↔ value = .list [] := by
  cases value with
  | list items => cases items <;> simp [toItems?, List.mapM_cons, Option.bind_eq_some_iff]
  | _ => simp [toItems?]

/-! ## The types of settings -/

namespace SectionSettings

/-- A section is shown and fails nothing. -/
def FieldDefault (name : String) (value : Value) : Prop :=
  (name = "report" ∧ value = .truth true) ∨ (name = "fail_on_error" ∧ value = .truth false)

abbrev HoldsDefaults (rules : RecordRules) : Value → Prop :=
  Conformance.HoldsDefaults ["report", "fail_on_error"] rules FieldDefault

abbrev DefaultEdit : Value → Value → Prop :=
  Conformance.DefaultEdit ["report", "fail_on_error"] FieldDefault fun _ => NoEdit

/-- The default of a report flag is true. -/
theorem fieldDefault_report_iff (value : Value) :
    FieldDefault "report" value ↔ value.toBool? = some true := by
  simp [FieldDefault, Value.toBool?_eq_some_iff]

/-- The default of a failure flag is false. -/
theorem fieldDefault_failOnError_iff (value : Value) :
    FieldDefault "fail_on_error" value ↔ value.toBool? = some false := by
  simp [FieldDefault, Value.toBool?_eq_some_iff]

variable (rules : RecordRules)

/-- A section reads as the default of its type if its fields have their defaults. -/
theorem ofValue?_eq_default_iff (value : Value) :
    ofValue? rules value = some {} ↔ HoldsDefaults rules value := by
  apply holdsDefaults_iff
  intro fields
  simp [Option.bind_eq_some_iff, Fields.orElse_eq_absent_iff, fieldDefault_report_iff,
    fieldDefault_failOnError_iff]

/-- Edits that defaults allow for preserve how the settings of a section are read. -/
theorem ofValue?_preserved : Preserves DefaultEdit (ofValue? rules) := by
  apply Preserves.record
  intro left right agree
  apply Kept.bind
  case first =>
    exact agree.orElse "report" (by simp) true
      (fun value => (fieldDefault_report_iff value).mp) .noEdit
  case rest =>
    intro report
    apply Kept.bind
    case first =>
      exact agree.orElse "fail_on_error" (by simp) false
        (fun value => (fieldDefault_failOnError_iff value).mp) .noEdit
    case rest => exact fun _ => .refl _

end SectionSettings

namespace ReportSettings

abbrev HoldsDefaults (rules : RecordRules) : Value → Prop :=
  Conformance.HoldsDefaults ["untested", "unimplemented", "errors"] rules
    fun _ => SectionSettings.HoldsDefaults rules

abbrev DefaultEdit (rules : RecordRules) : Value → Value → Prop :=
  Conformance.DefaultEdit ["untested", "unimplemented", "errors"]
    (fun _ => SectionSettings.HoldsDefaults rules) fun _ => SectionSettings.DefaultEdit

variable (rules : RecordRules)

/-- The settings of a section are the default ones exactly if only defaults are held. -/
theorem ofValue?_eq_default_iff (value : Value) :
    ofValue? rules value = some {} ↔ HoldsDefaults rules value := by
  apply holdsDefaults_iff
  intro fields
  simp [Option.bind_eq_some_iff, Fields.orElse_eq_absent_iff,
    SectionSettings.ofValue?_eq_default_iff]

/-- They preserve how the settings of all sections are read. -/
theorem ofValue?_preserved : Preserves (DefaultEdit rules) (ofValue? rules) := by
  apply Preserves.record
  intro left right agree
  have sections (name : String) (field : name ∈ ["untested", "unimplemented", "errors"]) :
      Kept (left.orElse name {} (SectionSettings.ofValue? rules))
        (right.orElse name {} (SectionSettings.ofValue? rules)) :=
    agree.orElse name field {}
      (fun value => (SectionSettings.ofValue?_eq_default_iff rules value).mpr)
      (SectionSettings.ofValue?_preserved rules)
  exact (sections "untested" (by simp)).bind fun _ => (sections "unimplemented" (by simp)).bind
    fun _ => (sections "errors" (by simp)).bind fun _ => .refl _

end ReportSettings

namespace DiscoverySettings

/-- Nothing is left out, and no packages are named. -/
def FieldDefault (name : String) (value : Value) : Prop :=
  name ∈ ["skip_classes", "packages"] ∧ value = .list []

abbrev HoldsDefaults (rules : RecordRules) : Value → Prop :=
  Conformance.HoldsDefaults ["skip_classes", "packages"] rules FieldDefault

abbrev DefaultEdit : Value → Value → Prop :=
  Conformance.DefaultEdit ["skip_classes", "packages"] FieldDefault fun _ => NoEdit

variable (rules : RecordRules)

/-- The settings of all sections are the default ones exactly if only defaults are held. -/
theorem ofValue?_eq_default_iff (value : Value) :
    ofValue? rules value = some {} ↔ HoldsDefaults rules value := by
  apply holdsDefaults_iff
  intro fields
  simp [Option.bind_eq_some_iff, Fields.orElse_eq_absent_iff, FieldDefault,
    Value.toItems?_eq_nil_iff]

/-- They preserve how the settings of discovery are read. -/
theorem ofValue?_preserved : Preserves DefaultEdit (ofValue? rules) := by
  apply Preserves.record
  intro left right agree
  have lists (name : String) (field : name ∈ ["skip_classes", "packages"]) :
      Kept (left.orElse name [] (Value.toItems? Value.toText?))
        (right.orElse name [] (Value.toItems? Value.toText?)) :=
    agree.orElse name field [] (fun value holds => (Value.toItems?_eq_nil_iff value).mpr holds.2)
      .noEdit
  exact (lists "skip_classes" (by simp)).bind fun _ => (lists "packages" (by simp)).bind
    fun _ => .refl _

end DiscoverySettings

namespace Settings

def FieldDefault (rules : RecordRules) (name : String) (value : Value) : Prop :=
  (name = "discovery" ∧ DiscoverySettings.HoldsDefaults rules value) ∨
    (name = "reports" ∧ ReportSettings.HoldsDefaults rules value)

def FieldEdit (rules : RecordRules) (name : String) (before after : Value) : Prop :=
  (name = "discovery" ∧ DiscoverySettings.DefaultEdit before after) ∨
    (name = "reports" ∧ ReportSettings.DefaultEdit rules before after)

abbrev HoldsDefaults (rules : RecordRules) : Value → Prop :=
  Conformance.HoldsDefaults ["discovery", "reports"] rules (FieldDefault rules)

/-- One change of settings that defaults allow for, at any depth. -/
abbrev DefaultEdit (rules : RecordRules) : Value → Value → Prop :=
  Conformance.DefaultEdit ["discovery", "reports"] (FieldDefault rules) (FieldEdit rules)

variable (rules : RecordRules)

/-- The settings of discovery are the default ones exactly if only defaults are held. -/
theorem ofValue?_eq_default_iff (value : Value) :
    ofValue? rules value = some {} ↔ HoldsDefaults rules value := by
  apply holdsDefaults_iff
  intro fields
  simp [Option.bind_eq_some_iff, Fields.orElse_eq_absent_iff, FieldDefault,
    DiscoverySettings.ofValue?_eq_default_iff, ReportSettings.ofValue?_eq_default_iff]

/-- They preserve how settings are read, at any depth. -/
theorem ofValue?_preserved : Preserves (DefaultEdit rules) (ofValue? rules) := by
  apply Preserves.record
  intro left right agree
  have discovery : Kept (left.orElse "discovery" {} (DiscoverySettings.ofValue? rules))
      (right.orElse "discovery" {} (DiscoverySettings.ofValue? rules)) := by
    refine agree.orElse "discovery" (by simp) _ ?_ ?_
    · intro value holds
      simp only [FieldDefault, String.reduceEq, true_and, false_and, or_false] at holds
      exact (DiscoverySettings.ofValue?_eq_default_iff rules value).mpr holds
    · intro before after edited
      simp only [FieldEdit, String.reduceEq, true_and, false_and, or_false] at edited
      exact DiscoverySettings.ofValue?_preserved rules before after edited
  have reports : Kept (left.orElse "reports" {} (ReportSettings.ofValue? rules))
      (right.orElse "reports" {} (ReportSettings.ofValue? rules)) := by
    refine agree.orElse "reports" (by simp) _ ?_ ?_
    · intro value holds
      simp only [FieldDefault, String.reduceEq, true_and, false_and, false_or] at holds
      exact (ReportSettings.ofValue?_eq_default_iff rules value).mpr holds
    · intro before after edited
      simp only [FieldEdit, String.reduceEq, true_and, false_and, false_or] at edited
      exact ReportSettings.ofValue?_preserved rules before after edited
  exact discovery.bind fun _ => reports.bind fun _ => .refl _

end Settings

/-! ## Sections that nothing is said of -/

/-- A document may stop saying anything of a section at four points. -/
inductive Settings.SilentOn (kind : SectionKind) (settings : Value) : Prop where
  | noReports (missing : ∀ value, ¬ settings.Holds ["discovery", "reports"] "reports" value)
  | emptyReports (reports : Value)
      (given : settings.Holds ["discovery", "reports"] "reports" reports)
      (nothing : reports.IsEmpty)
  | noSection (reports : Value) (given : settings.Holds ["discovery", "reports"] "reports" reports)
      (missing : ∀ value, ¬ reports.Holds ["untested", "unimplemented", "errors"] kind.name value)
  | emptySection (reports own : Value)
      (given : settings.Holds ["discovery", "reports"] "reports" reports)
      (givenOwn : reports.Holds ["untested", "unimplemented", "errors"] kind.name own)
      (nothing : own.IsEmpty)

/-- Every section has one of three names. -/
theorem SectionKind.name_mem (kind : SectionKind) :
    kind.name ∈ ["untested", "unimplemented", "errors"] := by
  cases kind <;> simp [name]

/-- By default a section is shown and fails nothing. -/
theorem SectionKind.settings_default (kind : SectionKind) : kind.settings {} = ⟨true, false⟩ := by
  cases kind <;> rfl

section

variable {rules : RecordRules} {value : Value}

/-- The settings of each section are read from its field. -/
theorem ReportSettings.section_of_ofValue? {reports : ReportSettings}
    (read : ofValue? rules value = some reports) (kind : SectionKind) :
    ∃ fields, value.fields? ["untested", "unimplemented", "errors"] rules = some fields ∧
      fields.orElse kind.name {} (SectionSettings.ofValue? rules) =
        some (kind.settings reports) := by
  obtain ⟨fields, found, read⟩ := Option.bind_eq_some_iff.mp read
  refine ⟨fields, found, ?_⟩
  obtain ⟨untested, readUntested, read⟩ := Option.bind_eq_some_iff.mp read
  obtain ⟨unimplemented, readUnimplemented, read⟩ := Option.bind_eq_some_iff.mp read
  obtain ⟨errors, readErrors, read⟩ := Option.bind_eq_some_iff.mp read
  obtain rfl := Option.some.inj read
  cases kind with
  | untested => exact readUntested
  | unimplemented => exact readUnimplemented
  | errors => exact readErrors

/-- The settings of all sections are read from the field that holds them. -/
theorem Settings.reports_of_ofValue? {settings : Settings}
    (read : ofValue? rules value = some settings) :
    ∃ fields, value.fields? ["discovery", "reports"] rules = some fields ∧
      fields.orElse "reports" {} (ReportSettings.ofValue? rules) = some settings.reports := by
  obtain ⟨fields, found, read⟩ := Option.bind_eq_some_iff.mp read
  obtain ⟨discovery, _, read⟩ := Option.bind_eq_some_iff.mp read
  obtain ⟨reports, readReports, read⟩ := Option.bind_eq_some_iff.mp read
  obtain rfl := Option.some.inj read
  exact ⟨fields, found, readReports⟩

/-- A section that nothing is said of is shown and fails nothing. -/
theorem Settings.settings_of_silentOn {settings : Settings}
    (read : ofValue? rules value = some settings) (kind : SectionKind)
    (silent : SilentOn kind value) : kind.settings settings.reports = ⟨true, false⟩ := by
  obtain ⟨fields, found, readReports⟩ := reports_of_ofValue? read
  have field : "reports" ∈ ["discovery", "reports"] := by simp
  cases silent with
  | noReports missing =>
    rw [Value.orElse_of_missing found field missing] at readReports
    rw [← Option.some.inj readReports, kind.settings_default]
  | emptyReports reports given nothing =>
    rw [Value.orElse_of_given found field reports given,
      (ReportSettings.ofValue?_eq_default_iff rules reports).mpr (.of_isEmpty nothing)]
      at readReports
    rw [← Option.some.inj readReports, kind.settings_default]
  | noSection reports given missing =>
    rw [Value.orElse_of_given found field reports given] at readReports
    obtain ⟨sections, foundSections, readOwn⟩ := ReportSettings.section_of_ofValue? readReports kind
    rw [Value.orElse_of_missing foundSections kind.name_mem missing] at readOwn
    exact (Option.some.inj readOwn).symm
  | emptySection reports own given givenOwn nothing =>
    rw [Value.orElse_of_given found field reports given] at readReports
    obtain ⟨sections, foundSections, readOwn⟩ := ReportSettings.section_of_ofValue? readReports kind
    rw [Value.orElse_of_given foundSections kind.name_mem own givenOwn,
      (SectionSettings.ofValue?_eq_default_iff rules own).mpr (.of_isEmpty nothing)] at readOwn
    exact (Option.some.inj readOwn).symm

end

/-! ## Documents -/

/-- The formats of documents that settings are read from. -/
inductive SettingsFormat where
  | json
  | toml

namespace SettingsFormat

/-- How records are read. -/
def rules : SettingsFormat → RecordRules
  | .json => .strict
  | .toml => .toml

/-- The value of a document. -/
def value? (document : String) : SettingsFormat → Option Value
  | .json => Value.parse? document
  | .toml => (Toml.Value.parse? document).map Toml.Value.toJson

/-- Reads settings from a document. -/
def read? (document : String) : SettingsFormat → Option Settings
  | .json => JsonForm.read? document
  | .toml => Settings.ofToml? document

/-- The shortest document without any settings. -/
def blank : SettingsFormat → String
  | .json => "\x7b\x7d"
  | .toml => ""

variable (format : SettingsFormat)

/-- Both formats read settings from the value of a document, each by its own rules for records. -/
theorem read?_eq (document : String) : format.read? document =
    (format.value? document).bind (Settings.ofValue? format.rules) := by
  cases format with
  | json => rfl
  | toml => rw [value?, Option.bind_map]; rfl

/-- The shortest document holds a record without members. -/
theorem value?_blank : format.value? format.blank = some (.object []) := by
  cases format with
  | json => cbv
  | toml => rfl

/-- What is guaranteed of the defaults of settings. -/
structure DefaultsAgree : Prop where
  /-- Edits that defaults allow for leave settings as they are, however many there are and however
  deep they go. -/
  edits : ∀ (document edited : String) (before after : Value) (settings : Settings),
    format.value? document = some before → format.value? edited = some after →
      Relation.ReflTransGen (Settings.DefaultEdit format.rules) before after →
      format.read? document = some settings → format.read? edited = some settings
  /-- The tables that count as defaults in such edits are all that are read like them. -/
  tables : ∀ table : Value,
    (SectionSettings.ofValue? format.rules table = some {} ↔
      SectionSettings.HoldsDefaults format.rules table) ∧
    (ReportSettings.ofValue? format.rules table = some {} ↔
      ReportSettings.HoldsDefaults format.rules table) ∧
    (DiscoverySettings.ofValue? format.rules table = some {} ↔
      DiscoverySettings.HoldsDefaults format.rules table)
  /-- A section that a document says nothing of is shown and fails nothing. -/
  silent : ∀ (document : String) (value : Value) (settings : Settings) (kind : SectionKind),
    format.value? document = some value → Settings.SilentOn kind value →
      format.read? document = some settings → kind.settings settings.reports = ⟨true, false⟩
  /-- Whatever an empty document is read as is the default of its type. -/
  empty : ∀ (document : String) (value : Value),
    format.value? document = some value → value.IsEmpty →
      format.read? document = some {} ∧
        SectionSettings.ofValue? format.rules value = some {} ∧
        ReportSettings.ofValue? format.rules value = some {} ∧
        DiscoverySettings.ofValue? format.rules value = some {}
  blank : format.value? format.blank = some (.object []) ∧ format.read? format.blank = some {}
  /-- The default of settings, written out. -/
  written : ({} : Settings) = ⟨⟨[], []⟩, ⟨⟨true, false⟩, ⟨true, false⟩, ⟨true, false⟩⟩⟩

/-- Defaults agree at every depth and in both formats. A table that is missing and the fields that
are missing from a table that is there have the same defaults, so it does not matter which of them
are written out. -/
theorem defaults_agree : format.DefaultsAgree := by
  have empty (document : String) (value : Value) (parsed : format.value? document = some value)
      (nothing : value.IsEmpty) : format.read? document = some {} := by
    rw [format.read?_eq, parsed, Option.bind_some]
    exact (Settings.ofValue?_eq_default_iff format.rules value).mpr (.of_isEmpty nothing)
  constructor
  case edits =>
    intro document edited before after settings parsed parsedAfter edits read
    rw [format.read?_eq, parsed] at read
    rw [format.read?_eq, parsedAfter]
    exact (Settings.ofValue?_preserved format.rules).closure before after edits settings read
  case tables =>
    intro table
    exact ⟨SectionSettings.ofValue?_eq_default_iff format.rules table,
      ReportSettings.ofValue?_eq_default_iff format.rules table,
      DiscoverySettings.ofValue?_eq_default_iff format.rules table⟩
  case silent =>
    intro document value settings kind parsed silent read
    rw [format.read?_eq, parsed, Option.bind_some] at read
    exact Settings.settings_of_silentOn read kind silent
  case empty =>
    intro document value parsed nothing
    exact ⟨empty document value parsed nothing,
      (SectionSettings.ofValue?_eq_default_iff format.rules value).mpr (.of_isEmpty nothing),
      (ReportSettings.ofValue?_eq_default_iff format.rules value).mpr (.of_isEmpty nothing),
      (DiscoverySettings.ofValue?_eq_default_iff format.rules value).mpr (.of_isEmpty nothing)⟩
  case blank => exact ⟨format.value?_blank, empty format.blank _ format.value?_blank .object⟩
  case written => rfl

end SettingsFormat

end Conformance
