import Conformance.Battery
import Conformance.Coverage.Report

/-!
# Gathering coverage

A report is gathered from a context without calling hosts and without asking for
members. In scope are the capabilities whose names begin with one of the packages;
diagnostics are reported whatever the scope.
-/

namespace Conformance

/-- What one entry point adds to a report. -/
structure EntryCoverage where
  /-- The capabilities that the entry point reaches. -/
  reached : NameSet
  /-- The entry point itself, if it has nothing to run. -/
  untested : List Name
  errors : List Diagnostic

/-- What a refused entry point adds to a report. -/
def EntryCoverage.ofRefusal (refusal : Refusal) : EntryCoverage := ⟨∅, [], [.ofRefusal refusal]⟩

/-- What an entry point with a plan adds to a report. That it has nothing to run is held against
static entry points only. -/
def EntryCoverage.ofPlan (entry : Entry) (registry : Registry) (subject : Subject) (plan : Plan) :
    EntryCoverage :=
  if entry.isDynamic || subject.hasTests registry plan then ⟨plan.closure, [], []⟩
  else ⟨plan.closure, [entry.name], [.ofRefusal (.noTests entry.name)]⟩

/-- Resolves an entry point for a report. -/
def Entry.coverage (graph : Graph) (registry : Registry) (entry : Entry) : Recorded EntryCoverage :=
  match Subject.ofEntry entry with
  | .error refusal => return .ofRefusal refusal
  | .ok subject => do
    match ← subject.resolve graph registry with
    | .error refusal => return .ofRefusal refusal
    | .ok plan => return .ofPlan entry registry subject plan

/-- Whether a name is in scope. Without packages, every name is. -/
def inScope (packages : List String) (name : Name) : Bool :=
  packages.isEmpty || packages.any name.isWithin

namespace Context

/-- The capabilities that are declared or have suites, in order. -/
def capabilities (context : Context) : NameSet :=
  SortedSet.ofList (context.graph.capabilities.map TypeDecl.name ++ context.registry.capabilities)

/-- What is reported of a capability. -/
def interface (context : Context) (capability : Name) : InterfaceCoverage where
  capability
  tests := (context.registry.suitesFor capability).map Suite.declaringType
  implementations := (context.graph.implementors capability).toList

/-- The report of a context whose entry points are resolved. -/
def report (context : Context) (packages : List String) (coverages : List EntryCoverage) : Report :=
  let interfaces := (context.capabilities.filter (inScope packages)).toList.map context.interface
  let untested := interfaces.filter fun interface => interface.tests.isEmpty
  let unimplemented := interfaces.filter fun interface =>
    !interface.tests.isEmpty &&
      !coverages.any fun coverage => decide (interface.capability ∈ coverage.reached)
  { packages
    interfaces
    untested := untested.map InterfaceCoverage.capability
    unimplemented := unimplemented.map InterfaceCoverage.capability
    untestedImplementations := coverages.flatMap EntryCoverage.untested
    errors := context.registry.defects.map .defect ++ coverages.flatMap EntryCoverage.errors }

/-- Gathers the report of a context for the given packages. -/
def gather (context : Context) (packages : List String) : Recorded Report := do
  let _ ← Recorded.forEach packages fun package => Recorded.logged .debug ("PKG: " ++ package)
  let coverages ← Recorded.forEach context.entries (Entry.coverage context.graph context.registry)
  return context.report packages coverages

/-- A report is gathered entry point by entry point, in their order. -/
theorem value_gather (context : Context) (packages : List String) :
    (context.gather packages).value = context.report packages
      (context.entries.map fun entry =>
        (entry.coverage context.graph context.registry).value) := by
  simp only [gather, Recorded.value_bind, Recorded.value_forEach, Recorded.value_pure]

/-- The defects of suites come first, then what the entry points add. -/
theorem errors_report (context : Context) (packages : List String)
    (coverages : List EntryCoverage) :
    (context.report packages coverages).errors =
      context.registry.defects.map .defect ++ coverages.flatMap EntryCoverage.errors := rfl

/-- The entry points that have nothing to run are those that the coverages name. -/
theorem untestedImplementations_report (context : Context) (packages : List String)
    (coverages : List EntryCoverage) :
    (context.report packages coverages).untestedImplementations =
      coverages.flatMap EntryCoverage.untested := rfl

end Context

end Conformance
