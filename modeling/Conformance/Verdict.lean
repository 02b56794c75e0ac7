import Conformance.Coverage.Report
import Conformance.Settings.Basic

/-!
# Verdicts

A verdict applies settings to a report, section by section. Each section of the report
that is not empty is shown if its settings say so, and fails the run if its settings say
so; the two do not depend on each other. Empty sections do neither, so the verdict selects
sections twice (`ReportSettings.evaluate_eq`).
-/

namespace Conformance

/-- The sections of a report that settings speak of. -/
inductive SectionKind where
  | untested
  | unimplemented
  | errors
deriving DecidableEq

namespace SectionKind

/-- All sections in the order of a verdict. -/
def all : List SectionKind := [.untested, .unimplemented, .errors]

def name : SectionKind → String
  | .untested => "untested"
  | .unimplemented => "unimplemented"
  | .errors => "errors"

/-- What is said when the section fails the run. -/
def failureMessage : SectionKind → String
  | .untested => "Untested Interfaces Exist"
  | .unimplemented => "Unimplemented Tests Exist"
  | .errors => "Contract Test Errors Exist"

/-- The settings of the section. -/
def settings (reports : ReportSettings) : SectionKind → SectionSettings
  | .untested => reports.untested
  | .unimplemented => reports.unimplemented
  | .errors => reports.errors

/-- The lines of the section. -/
def lines (report : Report) : SectionKind → List String
  | .untested => report.untestedLines
  | .unimplemented => report.unimplementedLines
  | .errors => report.errorLines

end SectionKind

/-- A section that is shown. -/
structure Section where
  kind : SectionKind
  lines : List String
deriving DecidableEq

/-- What a report amounts to under given settings. -/
structure Verdict where
  /-- The lines of all capabilities in scope. -/
  interfaces : List String
  sections : List Section
  /-- What is said of the sections that fail the run. -/
  failures : List String
deriving DecidableEq

namespace Verdict

/-- Adds a section to a verdict: nothing if it has no lines, else its failure and then itself, if
its settings say so. The failure is logged. -/
def withSection (reports : ReportSettings) (report : Report) (verdict : Verdict)
    (kind : SectionKind) : Recorded Verdict := do
  let lines := kind.lines report
  let settings := kind.settings reports
  if lines.isEmpty then return verdict
  else
    let judged ← if settings.failOnError then do
        Recorded.logged .warn kind.failureMessage
        pure { verdict with failures := verdict.failures ++ [kind.failureMessage] }
      else pure verdict
    if settings.report then return { judged with sections := judged.sections ++ [⟨kind, lines⟩] }
    else return judged

end Verdict

/-- The verdict on a report: its sections are added one after another to the lines of all
capabilities. -/
def ReportSettings.evaluate (reports : ReportSettings) (report : Report) : Recorded Verdict :=
  SectionKind.all.foldlM (Verdict.withSection reports report) ⟨report.interfaceLines, [], []⟩

namespace Verdict

/-- Whether a section fails the run. -/
def fails (reports : ReportSettings) (report : Report) (kind : SectionKind) : Bool :=
  !(kind.lines report).isEmpty && (kind.settings reports).failOnError

/-- Whether a section is shown. -/
def shows (reports : ReportSettings) (report : Report) (kind : SectionKind) : Bool :=
  !(kind.lines report).isEmpty && (kind.settings reports).report

/-- The verdict on a report, told list by list. -/
def ofReport (reports : ReportSettings) (report : Report) : Verdict where
  interfaces := report.interfaceLines
  sections := (SectionKind.all.filter (shows reports report)).map fun kind =>
    ⟨kind, kind.lines report⟩
  failures := (SectionKind.all.filter (fails reports report)).map SectionKind.failureMessage

/-- Whether the run succeeds. -/
def isSuccess (verdict : Verdict) : Bool := verdict.failures.isEmpty

/-- The shown section of a kind. -/
def section? (verdict : Verdict) (kind : SectionKind) : Option Section :=
  verdict.sections.find? fun shown => shown.kind = kind

/-- All failures, one to a line. -/
def failureMessage? (verdict : Verdict) : Option String :=
  if verdict.failures.isEmpty then none else some (String.intercalate "\n" verdict.failures)

/-- The verdict of a run that succeeds, or what is said of its failures. -/
def toExcept (verdict : Verdict) : Except String Verdict :=
  match verdict.failureMessage? with
  | none => .ok verdict
  | some message => .error message

end Verdict

namespace ReportSettings

variable (reports : ReportSettings) (report : Report)

/-- What a section adds, told list by list. -/
theorem withSection_eq (verdict : Verdict) (kind : SectionKind) :
    verdict.withSection reports report kind =
      ⟨⟨verdict.interfaces,
        verdict.sections ++
          if Verdict.shows reports report kind then [⟨kind, kind.lines report⟩] else [],
        verdict.failures ++
          if Verdict.fails reports report kind then [kind.failureMessage] else []⟩,
        if Verdict.fails reports report kind then [⟨.warn, kind.failureMessage⟩] else [], []⟩ := by
  by_cases none : kind.lines report = []
  · simp [Verdict.withSection, Verdict.shows, Verdict.fails, none, pure, Recorded.silent]
  · cases fails : (kind.settings reports).failOnError <;>
      cases shown : (kind.settings reports).report <;>
      simp [Verdict.withSection, Verdict.shows, Verdict.fails, none, fails, shown, pure, bind,
        Recorded.silent, Recorded.andThen, Recorded.logged]

/-- What sections add one after another: those that are shown, and what is said of those that fail
the run. -/
theorem foldlM_withSection (verdict : Verdict) (kinds : List SectionKind) :
    kinds.foldlM (Verdict.withSection reports report) verdict =
      ⟨⟨verdict.interfaces,
        verdict.sections ++ (kinds.filter (Verdict.shows reports report)).map fun kind =>
          ⟨kind, kind.lines report⟩,
        verdict.failures ++
          (kinds.filter (Verdict.fails reports report)).map SectionKind.failureMessage⟩,
        (kinds.filter (Verdict.fails reports report)).map fun kind =>
          ⟨.warn, kind.failureMessage⟩, []⟩ := by
  -- each section is added to what those before it have left
  induction kinds generalizing verdict with
  | nil => simp [pure, Recorded.silent]
  | cons kind rest inductionHypothesis =>
    rw [List.foldlM_cons, withSection_eq]
    simp only [bind, Recorded.andThen, inductionHypothesis, List.filter_cons]
    cases Verdict.shows reports report kind <;> cases Verdict.fails reports report kind <;> simp

/-- The loop over sections selects those that are shown and those that fail the run, and logs every
failure. -/
theorem evaluate_eq : reports.evaluate report =
    ⟨.ofReport reports report,
      (Verdict.ofReport reports report).failures.map fun message => ⟨.warn, message⟩, []⟩ := by
  rw [evaluate, foldlM_withSection, Verdict.ofReport, List.map_map]
  rfl

/-- The verdict that the loop ends with. -/
@[simp]
theorem value_evaluate : (reports.evaluate report).value = .ofReport reports report := by
  rw [evaluate_eq]

end ReportSettings

end Conformance
