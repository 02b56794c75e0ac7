import Conformance.Proofs.ReportedRefusals
import Conformance.Verdict
import Mathlib.Data.List.Flatten

/-!
# Strict verdicts tell clean reports from all others

A report has four lists of what is missing or wrong, and a verdict looks at three of them:
the entry points that have nothing to run have no section of their own. For reports at
large the two notions differ. But a report that was gathered lists no such entry point
without a refusal among its errors, so there a verdict misses nothing.

`noTests_gathered` is this invariant of gathering, proved entry point by entry point, and
`verdict_tells_clean` is the main statement.
-/

namespace Conformance

/-- There are no other sections. -/
theorem SectionKind.mem_all (kind : SectionKind) : kind ∈ all := by
  cases kind <;> decide

namespace Verdict

variable (reports : ReportSettings) (report : Report)

/-- No section is selected if all sections that qualify are empty. -/
theorem selected_eq_nil_iff (qualifies : SectionKind → Bool) :
    (SectionKind.all.filter fun kind => !(kind.lines report).isEmpty && qualifies kind) = [] ↔
      ∀ kind, qualifies kind = true → kind.lines report = [] := by
  rw [List.filter_eq_nil_iff]
  constructor
  · intro none kind qualified
    by_contra lines
    apply none kind kind.mem_all
    simp [lines, qualified]
  · intro empty kind _ selected
    obtain ⟨lines, qualified⟩ := Bool.and_eq_true_iff.mp selected
    simp [empty kind qualified] at lines

/-- A verdict is a success if all sections that are set to fail the run are empty. -/
theorem isSuccess_iff :
    (ofReport reports report).isSuccess = true ↔
      ∀ kind : SectionKind,
        (kind.settings reports).failOnError = true → kind.lines report = [] := by
  rw [isSuccess, ofReport, List.isEmpty_iff, List.map_eq_nil_iff]
  exact selected_eq_nil_iff report fun kind => (kind.settings reports).failOnError

/-- No section is shown if all sections that are set to be shown are empty. -/
theorem sections_eq_nil_iff :
    (ofReport reports report).sections = [] ↔
      ∀ kind : SectionKind, (kind.settings reports).report = true → kind.lines report = [] := by
  rw [ofReport, List.map_eq_nil_iff]
  exact selected_eq_nil_iff report fun kind => (kind.settings reports).report

end Verdict

namespace Report

variable (report : Report)

/-- All sections are empty if nothing is untested, unimplemented or wrong. -/
theorem lines_eq_nil_iff :
    (∀ kind : SectionKind, kind.lines report = []) ↔
      report.untested = [] ∧ report.unimplemented = [] ∧ report.errors = [] := by
  constructor
  · intro empty
    exact ⟨List.map_eq_nil_iff.mp (empty .untested), List.map_eq_nil_iff.mp (empty .unimplemented),
      List.map_eq_nil_iff.mp (empty .errors)⟩
  · rintro ⟨untested, unimplemented, errors⟩ kind
    cases kind with
    | untested => exact List.map_eq_nil_iff.mpr untested
    | unimplemented => exact List.map_eq_nil_iff.mpr unimplemented
    | errors => exact List.map_eq_nil_iff.mpr errors

/-- A report that lists every idle entry point among its errors is clean if its sections are
empty. -/
theorem isClean_iff (noticed : report.errors = [] → report.untestedImplementations = []) :
    report.isClean = true ↔ ∀ kind : SectionKind, kind.lines report = [] := by
  rw [report.lines_eq_nil_iff]
  simp only [isClean, Bool.and_eq_true, List.isEmpty_iff]
  constructor
  · rintro ⟨⟨⟨untested, unimplemented⟩, _⟩, errors⟩
    exact ⟨untested, unimplemented, errors⟩
  · rintro ⟨untested, unimplemented, errors⟩
    exact ⟨⟨⟨untested, unimplemented⟩, noticed errors⟩, errors⟩

end Report

namespace Context

variable (context : Context)

/-- Whoever is listed as having nothing to run contributes the refusal that says so. -/
theorem noTests_contributed (entry : Entry) :
    ((context.contribution entry).untested.map fun name =>
        Diagnostic.ofRefusal (.noTests name)).Sublist
      (context.contribution entry).errors := by
  rw [contribution]
  rcases entry.coverage_cases context.graph context.registry with
    ⟨refusal, refused⟩ | ⟨plan, busy | idle⟩
  · rw [refused]
    exact List.nil_sublist _
  · rw [busy]
    exact List.nil_sublist _
  · rw [idle]
    exact List.Sublist.refl _

/-- Every entry point that a report lists as having nothing to run has a refusal among the errors,
one for each time it is listed and in the same order. -/
theorem noTests_gathered (packages : List String) :
    ((context.gather packages).value.untestedImplementations.map fun name =>
        Diagnostic.ofRefusal (.noTests name)).Sublist
      (context.gather packages).value.errors := by
  rw [context.value_gather, errors_report, untestedImplementations_report, List.flatMap_map,
    List.flatMap_map, List.map_flatMap]
  refine List.Sublist.trans ?_ (List.sublist_append_right _ _)
  apply List.Sublist.flatMap_right
  intro entry _
  exact context.noTests_contributed entry

/-- A verdict tells clean reports from all others. If every section is set to fail the run, it is a
success exactly on clean reports, and if every section is set to be shown, it shows something
exactly on the others.

An idle entry point has no section of its own, but the refusal that goes with it stands among the
errors, so a report without errors lists none. -/
theorem verdict_tells_clean (packages : List String) (reports : ReportSettings) :
    let report := (context.gather packages).value
    let verdict := (reports.evaluate report).value
    (report.untestedImplementations.map fun name =>
        Diagnostic.refusal name (Refusal.noTests name).message).Sublist report.errors ∧
      (report.errors = [] → report.untestedImplementations = []) ∧
      ((∀ kind : SectionKind, (kind.settings reports).failOnError = true) →
        (verdict.isSuccess = true ↔ report.isClean = true)) ∧
      ((∀ kind : SectionKind, (kind.settings reports).report = true) →
        (verdict.sections ≠ [] ↔ report.isClean = false)) := by
  intro report verdict
  have matched := context.noTests_gathered packages
  -- every idle entry point has its refusal among the errors
  have noticed (none : report.errors = []) : report.untestedImplementations = [] := by
    rw [show (context.gather packages).value.errors = [] from none, List.sublist_nil,
      List.map_eq_nil_iff] at matched
    exact matched
  have clean := report.isClean_iff noticed
  have told : verdict = .ofReport reports report := reports.value_evaluate report
  refine ⟨matched, noticed, ?_, ?_⟩
  · intro strict
    rw [clean, told]
    apply (Verdict.isSuccess_iff reports report).trans
    exact ⟨fun empty kind => empty kind (strict kind), fun empty kind _ => empty kind⟩
  · intro shown
    rw [← Bool.not_eq_true, clean, told, ne_eq, not_iff_not]
    apply (Verdict.sections_eq_nil_iff reports report).trans
    exact ⟨fun empty kind => empty kind (shown kind), fun empty kind _ => empty kind⟩

/-- An entry point without tests whose target satisfies nothing is all that there is to report. The
strict verdict fails for the refusal that goes with it, and shows it. -/
theorem verdict_tells_clean_idle :
    let host : Host := ⟨⟨"E"⟩, true, .ok fun _ => none⟩
    let entry : Entry := ⟨⟨"E"⟩, some ⟨⟨"T"⟩, []⟩, host, [], none⟩
    let context : Context := ⟨Graph.ofList [TypeDecl.ofClass ⟨"T"⟩], ∅, [entry]⟩
    let report := (context.gather []).value
    let strict : ReportSettings := ⟨⟨true, true⟩, ⟨true, true⟩, ⟨true, true⟩⟩
    let verdict := (strict.evaluate report).value
    report.untested = [] ∧ report.unimplemented = [] ∧
      report.untestedImplementations = [⟨"E"⟩] ∧
      (∀ kind : SectionKind, (kind.settings strict).failOnError = true) ∧
      (∀ kind : SectionKind, (kind.settings strict).report = true) ∧
      verdict.isSuccess = false ∧ verdict.sections ≠ [] := by
  intro host entry context report strict verdict
  obtain ⟨_, _, success, sections⟩ := context.verdict_tells_clean [] strict
  have untested : report.untested = [] := rfl
  have unimplemented : report.unimplemented = [] := rfl
  have idle : report.untestedImplementations = [⟨"E"⟩] := by
    let subject := Subject.ofMarker entry ⟨⟨"T"⟩, []⟩
    have closure : context.graph.closure subject.target = .ok ∅ :=
      context.graph.closure_of_lone ⟨"T"⟩ (.ofClass ⟨"T"⟩) (by decide) rfl nofun nofun
    have planned : entry.planned? context.graph context.registry =
        some (Plan.ofClosure context.registry subject ∅) := by
      refine (entry.planned?_eq_some_iff _ _ _).mpr ⟨_, rfl, ?_⟩
      rw [Subject.value_resolve, closure]
    have coverage := entry.coverage_of_idle context.graph context.registry [] (fun _ => Iff.rfl) rfl
      _ planned ⟨rfl, fun _ member => absurd member List.not_mem_nil⟩
    rw [show report = _ from context.value_gather [], untestedImplementations_report,
      List.map_singleton, coverage]
    rfl
  have failing (kind : SectionKind) : (kind.settings strict).failOnError = true := by
    cases kind <;> rfl
  have shown (kind : SectionKind) : (kind.settings strict).report = true := by
    cases kind <;> rfl
  have dirty : report.isClean = false := by
    simp [Report.isClean, idle]
  refine ⟨untested, unimplemented, idle, failing, shown, ?_, (sections shown).mpr dirty⟩
  rw [← Bool.not_eq_true, success failing, Bool.not_eq_true]
  exact dirty

end Context

end Conformance
