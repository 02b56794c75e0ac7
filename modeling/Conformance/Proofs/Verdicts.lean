import Conformance.Proofs.CleanReports
import Conformance.Proofs.SkipMerges
import Mathlib.Data.List.Forall2
import Mathlib.Data.List.Perm.Basic

/-!
# What a verdict says

A verdict has a line for every capability in scope. A section with findings is shown if its
settings say so, one line for each finding, and its message is among the failures if its
settings say so. `Verdict.Reflects` says this of any verdict, and exactly one verdict is like
that (`Verdict.reflects_iff`): sections and failures both come in the order of all sections,
so knowing which are there is knowing the lists.

Both lists select sections by a flag, and whether a section is selected is read off its own
settings and its own findings. So if two runs differ in one section only, leaving that one out
makes the two selections the same (`SectionKind.selected_without`).

The messages hold no line break, so cutting the text of a refusal at line breaks gives the
failures back.

Main statement: `ReportSettings.verdict_exact`.
-/

namespace Conformance

/-- Cutting a joined text gives back what was joined, if the separator occurs in none of it. -/
theorem Text.split_intercalate (separator : Char) (texts : List String) (some : texts ≠ [])
    (solid : ∀ text ∈ texts, separator ∉ text.toList) :
    split separator (String.intercalate (String.singleton separator) texts) = texts := by
  have uncut : ∀ chars ∈ texts.map String.toList, separator ∉ chars := by
    rintro _ member
    obtain ⟨text, listed, rfl⟩ := List.mem_map.mp member
    exact solid text listed
  have present : texts.map String.toList ≠ [] := fun none => some (List.map_eq_nil_iff.mp none)
  rw [split, segments_eq_splitOn, String.toList_intercalate, String.toList_singleton,
    List.splitOn_intercalate separator uncut present, List.map_map]
  exact (List.map_congr_left fun text _ => String.ofList_toList).trans (List.map_id texts)

/-! ## Findings and their lines -/

/-- One line for each item, in the order of the items. -/
theorem forall₂_eq_iff {α : Type} (line : α → String) (items : List α) (lines : List String) :
    List.Forall₂ (fun item text => text = line item) items lines ↔ lines = items.map line := by
  have mapped := @List.forall₂_map_left_iff _ _ _ (· = ·) line items lines
  rw [List.forall₂_eq_eq_eq] at mapped
  simp only [@eq_comm _ _ (line _)]
  exact mapped.symm.trans eq_comm

namespace SectionKind

/-- What a section lists. -/
def Finding : SectionKind → Type
  | .untested => Name
  | .unimplemented => Name
  | .errors => Diagnostic

/-- The findings of a report that belong to a section. -/
def findings (report : Report) : (kind : SectionKind) → List kind.Finding
  | .untested => report.untested
  | .unimplemented => report.unimplemented
  | .errors => report.errors

/-- The wording of a finding. -/
def line : (kind : SectionKind) → kind.Finding → String
  | .untested => Name.text
  | .unimplemented => Name.text
  | .errors => Diagnostic.message

/-- There is one line for each finding of a section, in the order of the findings. -/
def Lists (kind : SectionKind) (report : Report) (lines : List String) : Prop :=
  List.Forall₂ (fun finding line => line = kind.line finding) (kind.findings report) lines

variable (kind : SectionKind) (report : Report)

/-- The lines of a section are the wordings of its findings. -/
theorem lines_eq_map : kind.lines report = (kind.findings report).map kind.line := by
  cases kind <;> rfl

/-- There is one way to list the findings of a section. -/
theorem lists_iff (lines : List String) : kind.Lists report lines ↔ lines = kind.lines report := by
  rw [lines_eq_map]
  exact forall₂_eq_iff kind.line (kind.findings report) lines

/-! ## Selected sections -/

/-- The sections with findings for which a flag is set, in the order of all sections. -/
def selected (flag : SectionKind → Bool) : List SectionKind :=
  all.filter fun kind => !(kind.lines report).isEmpty && flag kind

variable {report} (flag : SectionKind → Bool)

/-- Selected are the sections that have findings and the flag. -/
theorem mem_selected (kind : SectionKind) :
    kind ∈ selected report flag ↔ kind.findings report ≠ [] ∧ flag kind = true := by
  simp [selected, kind.mem_all, lines_eq_map]

/-- The selected sections stand in the order of all sections. -/
theorem selected_sublist : (selected report flag).Sublist all := List.filter_sublist

/-- In the order of all sections there is one way to list the selected ones. -/
theorem eq_selected (kinds : List SectionKind) (ordered : kinds.Sublist all)
    (members : ∀ kind, kind ∈ kinds ↔ kind.findings report ≠ [] ∧ flag kind = true) :
    kinds = selected report flag := by
  have distinct : all.Nodup := by decide
  apply (distinct.perm_iff_eq_of_sublist ordered (selected_sublist flag)).mp
  apply (List.perm_ext_iff_of_nodup (distinct.sublist ordered)
    (distinct.sublist (selected_sublist flag))).mpr
  intro kind
  rw [members, mem_selected]

/-- What is told of the selected sections but one is the same for two reports if all other sections
have the same findings and the same flag in both, and the same is told of them. -/
theorem selected_without {α : Type} (changed : SectionKind) (other : Report)
    (otherFlag : SectionKind → Bool) (told otherTold : SectionKind → α)
    (findings : ∀ kind, kind ≠ changed → kind.findings report = kind.findings other)
    (flags : ∀ kind, kind ≠ changed → flag kind = otherFlag kind)
    (tells : ∀ kind, kind ≠ changed → told kind = otherTold kind) :
    ((selected report flag).filter (· ≠ changed)).map told =
      ((selected other otherFlag).filter (· ≠ changed)).map otherTold := by
  have kinds : (selected report flag).filter (· ≠ changed) =
      (selected other otherFlag).filter (· ≠ changed) := by
    rw [selected, selected, List.filter_filter, List.filter_filter]
    apply List.filter_congr
    intro kind _
    by_cases same : kind = changed
    · simp [same]
    · rw [lines_eq_map, lines_eq_map, findings kind same, flags kind same]
  rw [kinds]
  apply List.map_congr_left
  intro kind member
  exact tells kind (of_decide_eq_true (List.mem_filter.mp member).2)

/-- Every section says something else when it fails the run. -/
theorem failureMessage_injective : Function.Injective failureMessage := by
  intro kind other same
  cases kind <;> cases other <;> first | rfl | exact absurd same (by decide)

/-- What a section says when it fails the run is one line. -/
theorem failureMessage_solid (kind : SectionKind) : '\n' ∉ kind.failureMessage.toList := by
  cases kind <;> decide

end SectionKind

/-! ## The verdict on a report -/

namespace Verdict

/-- What the verdict on a report under given settings says. -/
structure Reflects (verdict : Verdict) (reports : ReportSettings) (report : Report) : Prop where
  /-- Whatever the settings, every capability in scope has its line. -/
  interfaces : List.Forall₂
    (fun interface line => line =
      "Interface: " ++ interface.capability.text ++ " [" ++
        String.intercalate ", " (interface.tests.map Name.text) ++ "]")
    report.interfaces verdict.interfaces
  /-- A section is shown if it has findings and is set to be shown. -/
  sections : ∀ kind lines, ⟨kind, lines⟩ ∈ verdict.sections ↔
    kind.findings report ≠ [] ∧ (kind.settings reports).report = true ∧ kind.Lists report lines
  sectionOrder : (verdict.sections.map Section.kind).Sublist [.untested, .unimplemented, .errors]
  /-- A section fails the run if it has findings and is set to fail it, shown or not. -/
  failures : ∀ kind : SectionKind, kind.failureMessage ∈ verdict.failures ↔
    kind.findings report ≠ [] ∧ (kind.settings reports).failOnError = true
  failureOrder : verdict.failures.Sublist
    ["Untested Interfaces Exist", "Unimplemented Tests Exist", "Contract Test Errors Exist"]

variable (reports : ReportSettings) (report : Report)

/-- The sections of a verdict are those with findings that are set to be shown, each with its lines.
-/
theorem sections_ofReport : (ofReport reports report).sections =
    (SectionKind.selected report fun kind => (kind.settings reports).report).map
      fun kind => ⟨kind, kind.lines report⟩ := rfl

/-- The failures of a verdict are those of the sections with findings that are set to fail the run.
-/
theorem failures_ofReport : (ofReport reports report).failures =
    (SectionKind.selected report fun kind => (kind.settings reports).failOnError).map
      SectionKind.failureMessage := rfl

/-- The settings and the report leave one verdict. -/
theorem reflects_iff (verdict : Verdict) :
    verdict.Reflects reports report ↔ verdict = (reports.evaluate report).value := by
  rw [ReportSettings.value_evaluate]
  constructor
  · intro reflects
    have kinds : verdict.sections.map Section.kind =
        SectionKind.selected report fun kind => (kind.settings reports).report := by
      apply SectionKind.eq_selected _ _ reflects.sectionOrder
      intro kind
      constructor
      · intro member
        obtain ⟨shown, listed, rfl⟩ := List.mem_map.mp member
        obtain ⟨some, flag, _⟩ := (reflects.sections shown.kind shown.lines).mp listed
        exact ⟨some, flag⟩
      · rintro ⟨some, flag⟩
        have lines := (kind.lists_iff report _).mpr rfl
        exact List.mem_map_of_mem ((reflects.sections kind _).mpr ⟨some, flag, lines⟩)
    -- The lines of a section are told by its kind, so the kinds determine the sections.
    have own : ∀ shown ∈ verdict.sections,
        (⟨shown.kind, shown.kind.lines report⟩ : Section) = shown := by
      intro shown listed
      obtain ⟨_, _, lines⟩ := (reflects.sections shown.kind shown.lines).mp listed
      rw [← (shown.kind.lists_iff report shown.lines).mp lines]
    have sections : verdict.sections = (ofReport reports report).sections := by
      rw [sections_ofReport, ← kinds, List.map_map]
      exact ((List.map_congr_left own).trans (List.map_id _)).symm
    have failures : verdict.failures = (ofReport reports report).failures := by
      have ordered : verdict.failures.Sublist (SectionKind.all.map SectionKind.failureMessage) :=
        reflects.failureOrder
      obtain ⟨failing, ordered, messages⟩ := List.sublist_map_iff.mp ordered
      rw [failures_ofReport, messages]
      apply congrArg
      apply SectionKind.eq_selected _ _ ordered
      intro kind
      rw [← reflects.failures, messages,
        List.mem_map_of_injective SectionKind.failureMessage_injective]
    have interfaces := (forall₂_eq_iff InterfaceCoverage.line _ _).mp reflects.interfaces
    cases verdict
    exact Verdict.mk.injEq .. ▸ ⟨interfaces, sections, failures⟩
  · rintro rfl
    constructor
    case interfaces =>
      exact (forall₂_eq_iff InterfaceCoverage.line report.interfaces _).mpr rfl
    case sections =>
      intro kind lines
      simp only [sections_ofReport, List.mem_map, Section.mk.injEq, SectionKind.mem_selected,
        SectionKind.lists_iff]
      constructor
      · rintro ⟨_, ⟨some, shown⟩, rfl, rfl⟩
        exact ⟨some, shown, rfl⟩
      · rintro ⟨some, shown, rfl⟩
        exact ⟨kind, ⟨some, shown⟩, rfl, rfl⟩
    case sectionOrder =>
      rw [sections_ofReport, List.map_map]
      have kinds : (SectionKind.selected report fun kind => (kind.settings reports).report).Sublist
          SectionKind.all := SectionKind.selected_sublist _
      exact kinds.map id
    case failures =>
      intro kind
      rw [failures_ofReport, List.mem_map_of_injective SectionKind.failureMessage_injective,
        SectionKind.mem_selected]
    case failureOrder =>
      exact (SectionKind.selected_sublist _).map SectionKind.failureMessage

/-- A run fails if some section has findings and is set to fail it. -/
theorem failures_ne_nil_iff : (ofReport reports report).failures ≠ [] ↔
    ∃ kind : SectionKind,
      kind.findings report ≠ [] ∧ (kind.settings reports).failOnError = true := by
  rw [failures_ofReport, ne_eq, List.map_eq_nil_iff, List.eq_nil_iff_forall_not_mem]
  simp only [SectionKind.mem_selected, not_forall, not_not]

/-- Every failure of a verdict is one line. -/
theorem failures_solid : ∀ message ∈ (ofReport reports report).failures,
    '\n' ∉ message.toList := by
  intro message member
  obtain ⟨kind, _, rfl⟩ := List.mem_map.mp member
  exact kind.failureMessage_solid

/-- If two runs differ in one section only, nothing else in their verdicts does. -/
theorem ofReport_without (changed : SectionKind) (other : ReportSettings) (otherReport : Report)
    (unchanged : ∀ kind, kind ≠ changed →
      kind.settings reports = kind.settings other ∧
        kind.findings report = kind.findings otherReport) :
    (ofReport reports report).sections.filter (·.kind ≠ changed) =
        (ofReport other otherReport).sections.filter (·.kind ≠ changed) ∧
      (ofReport reports report).failures.filter (· ≠ changed.failureMessage) =
        (ofReport other otherReport).failures.filter (· ≠ changed.failureMessage) := by
  have findings (kind : SectionKind) (apart : kind ≠ changed) := (unchanged kind apart).2
  have settings (kind : SectionKind) (apart : kind ≠ changed) := (unchanged kind apart).1
  constructor
  · rw [sections_ofReport, sections_ofReport, List.filter_map, List.filter_map]
    apply SectionKind.selected_without _ changed otherReport _ _ _ findings
    · exact fun kind apart => congrArg SectionSettings.report (settings kind apart)
    · intro kind apart
      rw [kind.lines_eq_map, kind.lines_eq_map, findings kind apart]
  · have messages : (fun message => decide (message ≠ changed.failureMessage)) ∘
        SectionKind.failureMessage = fun kind => decide (kind ≠ changed) := by
      funext kind
      simp [SectionKind.failureMessage_injective.eq_iff]
    rw [failures_ofReport, failures_ofReport, List.filter_map, List.filter_map, messages]
    apply SectionKind.selected_without _ changed otherReport _ _ _ findings
    · exact fun kind apart => congrArg SectionSettings.failOnError (settings kind apart)
    · exact fun _ _ => rfl

/-- A verdict without failures stands as it is. -/
theorem toExcept_of_no_failures (verdict : Verdict) (none : verdict.failures = []) :
    verdict.toExcept = .ok verdict := by
  simp [toExcept, failureMessage?, none]

/-- A verdict with failures turns into an error, whose message has one line for each. -/
theorem toExcept_eq_error_iff (verdict : Verdict) (message : String) :
    verdict.toExcept = .error message ↔
      verdict.failures ≠ [] ∧ message = String.intercalate "\n" verdict.failures := by
  by_cases none : verdict.failures = []
  · simp [verdict.toExcept_of_no_failures none, none]
  · simp [toExcept, failureMessage?, none, @eq_comm _ message]

end Verdict

/-! ## What evaluation guarantees -/

namespace ReportSettings

/-- What is guaranteed of the verdict on a report under given settings. -/
structure VerdictExact (reports : ReportSettings) (report : Report) : Prop where
  /-- Settings and report leave one verdict. -/
  reflects : ∀ verdict : Verdict,
    verdict.Reflects reports report ↔ verdict = (reports.evaluate report).value
  /-- Other findings or settings of one section do not touch the rest of the verdict. -/
  independent : ∀ (changed : SectionKind) (other : ReportSettings) (otherReport : Report),
    (∀ kind : SectionKind, kind ≠ changed →
      kind.settings reports = kind.settings other ∧
        kind.findings report = kind.findings otherReport) →
    let verdict := (reports.evaluate report).value
    let otherVerdict := (other.evaluate otherReport).value
    verdict.sections.filter (·.kind ≠ changed) = otherVerdict.sections.filter (·.kind ≠ changed) ∧
      verdict.failures.filter (· ≠ changed.failureMessage) =
        otherVerdict.failures.filter (· ≠ changed.failureMessage)
  refused : (∃ message, (reports.evaluate report).value.toExcept = .error message) ↔
    ∃ kind : SectionKind, kind.findings report ≠ [] ∧ (kind.settings reports).failOnError = true
  /-- The text of a refusal holds the failures, one to a line. -/
  parts : ∀ message, (reports.evaluate report).value.toExcept = .error message →
    Text.split '\n' message = (reports.evaluate report).value.failures
  /-- A verdict that is not refused is handed on as it is. -/
  accepted : (¬ ∃ kind : SectionKind,
      kind.findings report ≠ [] ∧ (kind.settings reports).failOnError = true) →
    (reports.evaluate report).value.toExcept = .ok (reports.evaluate report).value

/-- Verdicts are exact and each section stands for itself. A section is shown if it has findings and
is set to be shown, and fails the run if it has findings and is set to fail it; neither depends on
the other, nor on other sections. -/
theorem verdict_exact (reports : ReportSettings) (report : Report) :
    reports.VerdictExact report := by
  have failures := Verdict.failures_ne_nil_iff reports report
  rw [← value_evaluate] at failures
  constructor
  case reflects => exact Verdict.reflects_iff reports report
  case independent =>
    intro changed other otherReport unchanged
    simp only [value_evaluate]
    exact Verdict.ofReport_without reports report changed other otherReport unchanged
  case refused =>
    simp only [Verdict.toExcept_eq_error_iff, exists_and_left, exists_eq, and_true]
    exact failures
  case parts =>
    intro message refused
    obtain ⟨some, rfl⟩ := (Verdict.toExcept_eq_error_iff _ message).mp refused
    have solid := Verdict.failures_solid reports report
    rw [← value_evaluate] at solid
    exact Text.split_intercalate '\n' _ some solid
  case accepted =>
    intro none
    rw [← failures, not_not] at none
    exact Verdict.toExcept_of_no_failures _ none

end ReportSettings

end Conformance
