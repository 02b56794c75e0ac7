import Conformance.Proofs.Classification

/-!
# Capabilities without suites, on plans and in reports

A plan and a report both say which capabilities have no suite, and they look in different
places. A plan looks at the closure of a target, where undeclared names occur as leaves. A
report looks at the capabilities that are declared and at those that suites were registered
for.

They agree on the declared capabilities of a closure. What a plan lists and what is not
declared as a capability is nowhere in the report: having no suite, it is not one of the
names that the report is about. In a graph whose interface edges all end at declared
capabilities no such name comes up, and the list of the plan is part of that of the report.

Main statement: `Context.untested_of_plan`.
-/

namespace Conformance

namespace Graph

/-- Whether a name is declared as a capability. -/
def DeclaresCapability (graph : Graph) (name : Name) : Prop :=
  ∃ decl, graph.get? name = some decl ∧ decl.isCapability = true

/-- Every interface edge ends at a declared capability. -/
def IsComplete (graph : Graph) : Prop :=
  ∀ lower upper, graph.Extends lower upper → graph.DeclaresCapability upper

/-- In a complete graph all that is satisfied is declared. A path either is empty, and then it
starts at a declared capability, or has a last edge. -/
theorem IsComplete.declared {graph : Graph} (complete : graph.IsComplete) {name capability : Name}
    (satisfied : graph.Satisfies name capability) : graph.DeclaresCapability capability := by
  rcases satisfied with ⟨decl, declared, kind, path⟩ | ⟨_, _, _, ancestor, _, path⟩
  · rcases Relation.ReflTransGen.cases_tail path with same | ⟨lower, _, last⟩
    · exact same ▸ ⟨decl, declared, kind⟩
    · exact complete lower capability last
  · obtain ⟨lower, _, last⟩ := Relation.TransGen.tail'_iff.mp path
    exact complete lower capability last

end Graph

/-- What a report has to say of the capabilities that a plan lists as untested. -/
structure Report.ShowsUntested (report : Report) (graph : Graph) (packages : List String)
    (plan : Plan) : Prop where
  /-- In scope, those are listed that are declared as capabilities, and no others. -/
  listed : ∀ capability ∈ plan.untested, inScope packages capability = true →
    (capability ∈ report.untested ↔ graph.DeclaresCapability capability)
  /-- The others are nowhere in the report. -/
  lost : ∀ capability ∈ plan.untested, ¬ graph.DeclaresCapability capability →
    capability ∉ report.names ∧ capability ∉ report.untested ∧ capability ∉ report.unimplemented
  /-- Conversely, what is reported of a closure is on the plan, unless it is left out there. -/
  planned : ∀ capability ∈ report.untested, capability ∈ plan.closure →
    capability ∈ plan.skipped ∨ capability ∈ plan.untested
  /-- In a complete graph the list of the plan, restricted to the scope, is part of the report. -/
  complete : graph.IsComplete →
    (plan.untested.toList.filter (inScope packages)).Sublist report.untested

/-- Without suites, the plan of a class lists what the class implements itself as untested. -/
theorem Entry.untested_of_implemented (entry : Entry) (graph : Graph) (marker : Marker)
    (marked : entry.marker = some marker) (inclusive : marker.skip = []) (decl : TypeDecl)
    (declared : graph.get? marker.target = some decl) (kind : decl.isCapability = false) :
    ∃ plan, entry.planned? graph (Registry.after []) = some plan ∧
      ∀ capability ∈ decl.interfaces, capability ∈ plan.untested := by
  let subject := Subject.ofMarker entry marker
  obtain ⟨plan, resolved⟩ := subject.resolved_of_declared graph (Registry.after [])
    (Option.ne_none_iff_exists'.mpr ⟨decl, declared⟩)
  have exactly := subject.exact_of_resolve graph (Registry.tells_after []) plan resolved
  refine ⟨plan, (entry.planned?_eq_some_iff graph _ plan).mpr ⟨marker, marked, resolved⟩, ?_⟩
  intro capability implemented
  have satisfied : graph.Satisfies marker.target capability :=
    .ofInterface declared kind implemented
  refine (exactly.untested capability).mpr ⟨(exactly.closure capability).mpr satisfied, ?_, nofun⟩
  simp [subject, Subject.ofMarker, inclusive, SortedSet.mem_ofList]

namespace Context

/-- Reports and plans agree on which declared capabilities have no suites, in every context whose
registry tells a history. -/
theorem showsUntested_of_exact (context : Context) {history : List Suite}
    (tells : context.registry.Tells history) (packages : List String) (subject : Subject)
    (plan : Plan) (exactly : plan.Exact context.graph history subject) :
    (context.report packages (context.entries.map context.contribution)).ShowsUntested
      context.graph packages plan := by
  have classifies := context.report_classifies tells packages
  have listed (capability : Name) (untested : capability ∈ plan.untested)
      (within : inScope packages capability = true) :
      capability ∈ (context.report packages (context.entries.map context.contribution)).untested ↔
        context.graph.DeclaresCapability capability := by
    have suiteless := ((exactly.untested capability).mp untested).2.2
    rw [classifies.untested, and_iff_left suiteless, classifies.names,
      and_iff_left ((inScope_iff packages capability).mp within)]
    refine or_iff_left ?_
    rintro ⟨suite, registered, same⟩
    exact suiteless suite registered same
  constructor
  case listed => exact listed
  case lost =>
    intro capability untested undeclared
    have unnamed : capability ∉
        (context.report packages (context.entries.map context.contribution)).names := by
      intro named
      rcases ((classifies.names capability).mp named).1 with declared | ⟨suite, registered, same⟩
      · exact undeclared declared
      · exact ((exactly.untested capability).mp untested).2.2 suite registered same
    exact ⟨unnamed, fun member => unnamed (classifies.untestedOrder.subset member),
      fun member => unnamed (classifies.unimplementedOrder.subset member)⟩
  case planned =>
    intro capability reported inside
    rw [exactly.skipped, exactly.untested, and_iff_right inside, and_iff_right inside,
      and_iff_left ((classifies.untested capability).mp reported).2]
    exact Classical.em _
  case complete =>
    intro complete
    rw [untested_report]
    -- both lists increase, so it is enough that one has the members of the other
    refine SortedSet.sublist_of_subset (plan.untested.filter (inScope packages))
      ((context.capabilities.filter (inScope packages)).filter fun name =>
        (context.interface name).tests.isEmpty) ?_
    intro capability member
    obtain ⟨untested, within⟩ := (SortedSet.mem_filter _ _ _).mp member
    have inside := ((exactly.untested capability).mp untested).1
    have satisfied := (exactly.closure capability).mp inside
    have reported := (listed capability untested within).mpr (complete.declared satisfied)
    rwa [untested_report] at reported

/-- A capability that the plan of an entry point lists as untested is in the section of untested
capabilities, provided that it is in scope, if and only if it is declared as a capability,
whichever operations made the registry; else the report does not mention it.

Both computations look for registered suites and come to the same result for each name. What
differs are the names that they look at. -/
theorem untested_of_plan (graph : Graph) (operations : List Registry.Operation)
    (entries : List Entry) (packages : List String) (entry : Entry) (plan : Plan)
    (planned : entry.planned? graph (Registry.after operations) = some plan) :
    let context : Context := ⟨graph, Registry.after operations, entries⟩
    (context.gather packages).value.ShowsUntested graph packages plan := by
  intro context
  have tells : context.registry.Tells (Registry.history operations) :=
    Registry.tells_after operations
  obtain ⟨marker, _, resolved⟩ := (entry.planned?_eq_some_iff graph _ plan).mp planned
  have exactly := Subject.exact_of_resolve (.ofMarker entry marker) graph tells plan resolved
  rw [context.value_gather packages]
  exact context.showsUntested_of_exact tells packages _ plan exactly

/-- Of two capabilities without suites the declared one is reported. -/
theorem untested_of_plan_declared :
    let cart := ((TypeDecl.ofClass ⟨"Cart"⟩).extending ⟨"Keeps"⟩).extending ⟨"Opens"⟩
    let entry : Entry := ⟨⟨"CartTests"⟩, some ⟨⟨"Cart"⟩, []⟩,
      ⟨⟨"CartTests"⟩, false, .ok fun _ => none⟩, [], none⟩
    let graph := Graph.ofList [.capability ⟨"Keeps"⟩, cart]
    let context : Context := ⟨graph, Registry.after [], [entry]⟩
    ∃ plan, entry.planned? graph (Registry.after []) = some plan ∧
      ⟨"Keeps"⟩ ∈ plan.untested ∧ ⟨"Opens"⟩ ∈ plan.untested ∧
      ⟨"Keeps"⟩ ∈ (context.gather []).value.untested ∧
      ⟨"Opens"⟩ ∉ (context.gather []).value.names := by
  intro cart entry graph context
  obtain ⟨plan, planned, untested⟩ :=
    entry.untested_of_implemented graph ⟨⟨"Cart"⟩, []⟩ rfl rfl cart (by decide) rfl
  have keeps := untested ⟨"Keeps"⟩ (by decide)
  have opens := untested ⟨"Opens"⟩ (by decide)
  have unknown : graph.get? ⟨"Opens"⟩ = none := by decide
  have undeclared : ¬ graph.DeclaresCapability ⟨"Opens"⟩ := by
    rintro ⟨decl, found, _⟩
    rw [unknown] at found
    cases found
  have shows := untested_of_plan graph [] [entry] [] entry plan planned
  exact ⟨plan, planned, keeps, opens,
    (shows.listed _ keeps rfl).mpr ⟨.capability ⟨"Keeps"⟩, by decide, rfl⟩,
    (shows.lost _ opens undeclared).1⟩

/-- A class implements a capability that nobody declares. The plan lists it as untested, and the
report of everything does not. -/
theorem untested_of_plan_lost :
    let cart := (TypeDecl.ofClass ⟨"Cart"⟩).extending ⟨"Opens"⟩
    let entry : Entry := ⟨⟨"CartTests"⟩, some ⟨⟨"Cart"⟩, []⟩,
      ⟨⟨"CartTests"⟩, false, .ok fun _ => none⟩, [], none⟩
    let context : Context := ⟨Graph.ofList [cart], Registry.after [], [entry]⟩
    (∃ plan, entry.planned? context.graph context.registry = some plan ∧
        ⟨"Opens"⟩ ∈ plan.untested) ∧
      (context.gather []).value.untested = [] := by
  intro cart entry context
  obtain ⟨plan, planned, untested⟩ :=
    entry.untested_of_implemented context.graph ⟨⟨"Cart"⟩, []⟩ rfl rfl cart (by decide) rfl
  refine ⟨⟨plan, planned, untested ⟨"Opens"⟩ (by decide)⟩, ?_⟩
  rw [context.value_gather, untested_report]
  rfl

end Context

end Conformance
