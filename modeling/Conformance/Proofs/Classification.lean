import Conformance.Proofs.ReportedRefusals

/-!
# How a report classifies capabilities

A report lists the capabilities in scope, those that are declared together with those
that suites were registered for, and says of each which suites test it and which classes
have it. A listed capability is untested if it has no suite, and unimplemented if it has
one but no entry point reaches it; it is never both.

What an entry point reaches is what the target of its marker satisfies, provided that
the target is declared. Exclusions do not count, and neither does it matter whether
building the entry point succeeds.

`Report.Classifies` is the specification, told by the graph, the suites registered so far,
the entry points and the packages. Scope acts as a filter: the report for packages is the
report without packages, restricted to the names in scope.
-/

namespace Conformance

/-- A name is in scope if there are no packages, or if it begins with one of them. -/
theorem inScope_iff (packages : List String) (name : Name) :
    inScope packages name = true ↔
      packages = [] ∨ ∃ package ∈ packages, ∃ rest, name.text = package ++ rest := by
  simp only [inScope, Bool.or_eq_true, List.isEmpty_iff, List.any_eq_true, Name.isWithin_iff]

namespace Registry

/-- The declaring types that registered a suite for a capability, each once, in the order of the
first registrations. -/
def typesFor (history : List Suite) (capability : Name) : List Name :=
  ((history.filter fun suite => decide (suite.target = capability)).map
    Suite.declaringType).eraseDups

/-- Suites of one capability are told apart by their declaring types. -/
theorem declaringTypes_keysFor (history : List Suite) (capability : Name) :
    (keysFor history capability).map SuiteKey.declaringType = typesFor history capability := by
  rw [keysFor, typesFor, map_eraseDups_of_injective_on, List.map_map]
  · rfl
  · intro left leftListed right rightListed sameType
    have target (key : SuiteKey) (listed : key ∈ (history.filter fun suite =>
        decide (suite.target = capability)).map Suite.key) : key.target = capability := by
      obtain ⟨suite, member, rfl⟩ := List.mem_map.mp listed
      exact of_decide_eq_true (List.mem_filter.mp member).2
    have sameTarget := (target left leftListed).trans (target right rightListed).symm
    cases left
    cases right
    cases sameType
    cases sameTarget
    rfl

/-- The declaring types of a capability are those of the suites that the history holds for it. -/
theorem Tells.declaringTypes_suitesFor {registry : Registry} {history : List Suite}
    (tells : registry.Tells history) (capability : Name) :
    (registry.suitesFor capability).map Suite.declaringType = typesFor history capability := by
  rw [← declaringTypes_keysFor, ← tells.keys, List.map_map]
  rfl

end Registry

/-- An entry point with a plan reaches what is in the closure of its plan. -/
theorem EntryCoverage.reached_ofPlan (entry : Entry) (registry : Registry) (subject : Subject)
    (plan : Plan) : (ofPlan entry registry subject plan).reached = plan.closure := by
  unfold ofPlan
  split <;> rfl

namespace Context

variable (context : Context)

/-- What an entry point contributes to the reached capabilities is what the target of its marker
satisfies, whether it is static or dynamic and whatever it leaves out. -/
theorem mem_reached_iff (entry : Entry) (capability : Name) :
    capability ∈ (context.contribution entry).reached ↔
      ∃ marker, entry.marker = some marker ∧ context.graph.Satisfies marker.target capability := by
  rw [contribution]
  cases marked : entry.marker with
  | none =>
    rw [entry.coverage_of_unmarked _ _ marked]
    simp [EntryCoverage.ofRefusal, SortedSet.not_mem_empty]
  | some marker =>
    rw [entry.coverage_of_marked _ _ marker marked, Subject.value_resolve]
    have target : (Subject.ofMarker entry marker).target = marker.target := rfl
    simp only [target, Option.some.injEq, exists_eq_left']
    cases computed : context.graph.closure marker.target with
    | error unknown =>
      obtain ⟨undeclared, _⟩ := (context.graph.closure_eq_error_iff _ unknown).mp computed
      have unsatisfied : ¬ context.graph.Satisfies marker.target capability :=
        fun satisfied => satisfied.declared undeclared
      exact iff_of_false (SortedSet.not_mem_empty capability) unsatisfied
    | ok closure =>
      rw [EntryCoverage.reached_ofPlan]
      exact context.graph.mem_closure_iff marker.target capability closure computed

/-- The capabilities that are declared or have suites are those that a report is about. -/
theorem mem_capabilities_iff {history : List Suite} (tells : context.registry.Tells history)
    (name : Name) :
    name ∈ context.capabilities ↔
      (∃ decl, context.graph.get? name = some decl ∧ decl.isCapability = true) ∨
        ∃ suite ∈ history, suite.target = name := by
  rw [capabilities, SortedSet.mem_ofList, List.mem_append, Graph.capabilities,
    context.graph.mem_names_filter_iff, tells.targets]

/-- The names that a report lists, in order. -/
def listed (packages : List String) : List Name :=
  context.capabilities.toList.filter (inScope packages)

/-- The capabilities that a report lists stand in the order of their names. -/
theorem listed_increasing (packages : List String) :
    (context.listed packages).Pairwise fun left right => compare left right = .lt :=
  context.capabilities.increasing.filter _

/-- A report lists the capabilities that are in scope. -/
theorem mem_listed_iff (packages : List String) (name : Name) :
    name ∈ context.listed packages ↔ name ∈ context.capabilities ∧ inScope packages name = true :=
  List.mem_filter

/-- Which capabilities are selected can be asked of their names. -/
theorem capabilities_filter_interface (names : List Name) (test : InterfaceCoverage → Bool) :
    ((names.map context.interface).filter test).map InterfaceCoverage.capability =
      names.filter fun name => test (context.interface name) := by
  rw [List.filter_map, List.map_map]
  exact List.map_id _

section Sections

variable (packages : List String) (coverages : List EntryCoverage)

/-- A report covers the capabilities that it lists, one by one. -/
theorem interfaces_report :
    (context.report packages coverages).interfaces =
      (context.listed packages).map context.interface := rfl

/-- The untested capabilities are those that no suite tests. -/
theorem untested_report :
    (context.report packages coverages).untested =
      (context.listed packages).filter fun name => (context.interface name).tests.isEmpty :=
  context.capabilities_filter_interface (context.listed packages) _

/-- The unimplemented capabilities are those that suites test and no entry point reaches. -/
theorem unimplemented_report :
    (context.report packages coverages).unimplemented =
      (context.listed packages).filter fun name => !(context.interface name).tests.isEmpty &&
        !coverages.any fun coverage => decide (name ∈ coverage.reached) :=
  context.capabilities_filter_interface (context.listed packages) _

/-- Scope is a filter: it selects the capabilities that are reported and changes nothing about
them. -/
theorem report_scoped :
    context.report packages coverages =
      { context.report [] coverages with
        packages
        interfaces := (context.report [] coverages).interfaces.filter fun interface =>
          inScope packages interface.capability
        untested := (context.report [] coverages).untested.filter (inScope packages)
        unimplemented :=
          (context.report [] coverages).unimplemented.filter (inScope packages) } := by
  have everything : context.listed [] = context.capabilities.toList := List.filter_true _
  have interfaces : (context.report packages coverages).interfaces =
      (context.report [] coverages).interfaces.filter fun interface =>
        inScope packages interface.capability := by
    rw [interfaces_report, interfaces_report, everything, List.filter_map]
    rfl
  have untested : (context.report packages coverages).untested =
      (context.report [] coverages).untested.filter (inScope packages) := by
    rw [untested_report, untested_report, everything, List.filter_comm]
    rfl
  have unimplemented : (context.report packages coverages).unimplemented =
      (context.report [] coverages).unimplemented.filter (inScope packages) := by
    rw [unimplemented_report, unimplemented_report, everything, List.filter_comm]
    rfl
  rw [← interfaces, ← untested, ← unimplemented]
  rfl

end Sections

end Context

namespace Report

/-- The names of the capabilities that a report is about, in order. -/
def names (report : Report) : List Name := report.interfaces.map InterfaceCoverage.capability

/-- What a report has to say of the capabilities in scope, told by the graph, by the suites
registered so far, by the entry points and by the packages. -/
structure Classifies (report : Report) (graph : Graph) (history : List Suite)
    (entries : List Entry) (packages : List String) : Prop where
  increasing : report.names.Pairwise fun left right => compare left right = .lt
  /-- Listed are the declared capabilities and those that a suite was registered for, if their names
  begin with a package; without packages all of them are. -/
  names : ∀ name, name ∈ report.names ↔
    ((∃ decl, graph.get? name = some decl ∧ decl.isCapability = true) ∨
      ∃ suite ∈ history, suite.target = name) ∧
    (packages = [] ∨ ∃ package ∈ packages, ∃ rest, name.text = package ++ rest)
  /-- The suites of a capability are shown by their declaring types, in the order of the first
  registrations. -/
  tests : ∀ interface ∈ report.interfaces, interface.tests =
    ((history.filter fun suite => decide (suite.target = interface.capability)).map
      Suite.declaringType).eraseDups
  /-- The implementations are the declared concrete classes that satisfy the capability. -/
  implementations : ∀ interface ∈ report.interfaces,
    interface.implementations.Pairwise (fun left right => compare left right = .lt) ∧
      ∀ name, name ∈ interface.implementations ↔
        (∃ decl, graph.get? name = some decl ∧ decl.isConcrete = true) ∧
          graph.Satisfies name interface.capability
  untestedOrder : report.untested.Sublist report.names
  unimplementedOrder : report.unimplemented.Sublist report.names
  /-- No name is in both lists. -/
  apart : ∀ name ∈ report.untested, name ∉ report.unimplemented
  untested : ∀ name, name ∈ report.untested ↔
    name ∈ report.names ∧ ∀ suite ∈ history, suite.target ≠ name
  /-- A capability with suites is unimplemented if no entry point with a declared target reaches
  it. -/
  unimplemented : ∀ name, name ∈ report.unimplemented ↔
    name ∈ report.names ∧ (∃ suite ∈ history, suite.target = name) ∧
      ∀ entry ∈ entries, ∀ marker, entry.marker = some marker →
        graph.get? marker.target ≠ none → ¬ graph.Satisfies marker.target name

end Report

namespace Context

variable (context : Context)

/-- Reports classify the capabilities in every context whose registry tells a history. -/
theorem report_classifies {history : List Suite} (tells : context.registry.Tells history)
    (packages : List String) :
    (context.report packages (context.entries.map context.contribution)).Classifies context.graph
      history context.entries packages := by
  have names : (context.report packages (context.entries.map context.contribution)).names =
      context.listed packages := by
    rw [Report.names, interfaces_report, List.map_map]
    exact List.map_id _
  have suiteless (name : Name) : (context.interface name).tests.isEmpty = true ↔
      ∀ suite ∈ history, suite.target ≠ name := by
    rw [interface, List.isEmpty_map, List.isEmpty_iff, tells.suitesFor_eq_nil_iff]
  have tested (name : Name) : (!(context.interface name).tests.isEmpty) = true ↔
      ∃ suite ∈ history, suite.target = name := by
    rw [Bool.not_eq_true', ← Bool.not_eq_true, suiteless]
    simp
  have unreached (name : Name) :
      (!(context.entries.map context.contribution).any fun coverage =>
          decide (name ∈ coverage.reached)) = true ↔
        ∀ entry ∈ context.entries, ∀ marker, entry.marker = some marker →
          context.graph.get? marker.target ≠ none →
            ¬ context.graph.Satisfies marker.target name := by
    simp only [List.any_map, Bool.not_eq_true', List.any_eq_false, Function.comp_apply,
      decide_eq_true_eq, context.mem_reached_iff, not_exists, not_and]
    constructor
    · intro none entry member marker marked _
      exact none entry member marker marked
    · intro none entry member marker marked satisfied
      exact none entry member marker marked satisfied.declared satisfied
  constructor
  case increasing =>
    rw [names]
    exact context.listed_increasing packages
  case names =>
    intro name
    rw [names, context.mem_listed_iff, context.mem_capabilities_iff tells, inScope_iff]
  case tests =>
    intro interface reported
    obtain ⟨name, _, rfl⟩ := List.mem_map.mp reported
    exact tells.declaringTypes_suitesFor name
  case implementations =>
    intro interface reported
    obtain ⟨name, _, rfl⟩ := List.mem_map.mp reported
    exact ⟨(context.graph.implementors name).increasing, context.graph.mem_implementors_iff name⟩
  case untestedOrder =>
    rw [names, untested_report]
    exact List.filter_sublist
  case unimplementedOrder =>
    rw [names, unimplemented_report]
    exact List.filter_sublist
  case apart =>
    intro name withoutSuite withSuite
    rw [untested_report, List.mem_filter, suiteless] at withoutSuite
    rw [unimplemented_report, List.mem_filter, Bool.and_eq_true, tested] at withSuite
    obtain ⟨suite, registered, same⟩ := withSuite.2.1
    exact withoutSuite.2 suite registered same
  case untested =>
    intro name
    rw [names, untested_report, List.mem_filter, suiteless]
  case unimplemented =>
    intro name
    rw [names, unimplemented_report, List.mem_filter, Bool.and_eq_true, tested, unreached]

/-- A report classifies the capabilities of its context, whichever operations made the registry, and
the report for packages is the report without packages, restricted to what is in scope.

What is reported of a capability does not depend on the packages: neither its suites and classes
nor whether an entry point reaches it. So each list is a filter of the names in scope, and scope is
one more filter. Diagnostics are gathered before the scope is looked at. -/
theorem gather_classifies (graph : Graph) (operations : List Registry.Operation)
    (entries : List Entry) (packages : List String) :
    let context : Context := ⟨graph, Registry.after operations, entries⟩
    let report := (context.gather packages).value
    let whole := (context.gather []).value
    report.Classifies graph (Registry.history operations) entries packages ∧
      report = { whole with
        packages
        interfaces := whole.interfaces.filter fun interface =>
          inScope packages interface.capability
        untested := whole.untested.filter (inScope packages)
        unimplemented := whole.unimplemented.filter (inScope packages) } := by
  intro context report whole
  rw [show report = _ from context.value_gather packages,
    show whole = _ from context.value_gather []]
  exact ⟨context.report_classifies (Registry.tells_after operations) packages,
    context.report_scoped packages _⟩

end Context

end Conformance
