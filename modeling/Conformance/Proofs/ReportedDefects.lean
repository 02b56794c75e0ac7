import Conformance.Proofs.ReportedRefusals

/-!
# A report carries the defects that runs would show

A run shows the defects of a suite where a plan has put the suite: in the battery of an
entry point, or in the block of a member that no report ever asks for. A report takes
the defects from the registry, without plans and without batteries. Nothing is missing
from it all the same: what stands on a plan stands in the registry, and both routes word
a defect alike.

`Report.Reveals` is the specification, and `gather_reveals_defects` says that the reports
of a context meet it, whatever is in scope.
-/

namespace Conformance

/-- The defects of a listed suite stand together among the defects of the registry, in order. -/
theorem Registry.Tells.defects_infix {registry : Registry} {history : List Suite}
    (tells : registry.Tells history) (capability : Name) (suite : Suite)
    (listed : suite ∈ registry.suitesFor capability) : suite.defects <:+: registry.defects := by
  have named : capability ∈ registry.capabilities :=
    (tells.mem_capabilities_iff capability).mpr (List.ne_nil_of_mem listed)
  have amongOwn : suite.defects <:+: (registry.suitesFor capability).flatMap Suite.defects := by
    rw [List.flatMap_def]
    exact List.infix_of_mem_flatten (List.mem_map_of_mem listed)
  have amongAll : (registry.suitesFor capability).flatMap Suite.defects <:+: registry.defects := by
    rw [registry.defects_by_capability, List.flatMap_def]
    exact List.infix_of_mem_flatten (List.mem_map_of_mem named)
  exact amongOwn.trans amongAll

namespace Subject

/-- A suite on a plan is listed by the registry under its own capability. -/
theorem listed_of_planned (subject : Subject) (graph : Graph) {registry : Registry}
    {history : List Suite} (tells : registry.Tells history) (plan : Plan)
    (resolved : (subject.resolve graph registry).value = .ok plan) (suite : Suite)
    (planned : suite ∈ plan.suites) : suite ∈ registry.suitesFor suite.target := by
  obtain ⟨closure, _, rfl⟩ := (subject.resolve_eq_ok_iff graph registry plan).mp resolved
  rw [Plan.suites_ofClosure tells, List.mem_flatMap] at planned
  obtain ⟨capability, _, listed⟩ := planned
  rw [tells.target_of_mem capability suite listed]
  exact listed

end Subject

/-- A failing unit with defects stands for a suite that the registry lists, whoever is tested. -/
theorem Battery.suite_of_malformed (context : Context) {history : List Suite}
    (tells : context.registry.Tells history) (entry : Entry) (battery : Battery)
    (built : (build entry context).value = .ok battery) (unit : ErrorUnit)
    (listed : .error unit ∈ battery.units) (name : Name) (messages : List String)
    (shown : unit.failure = .malformed name messages) :
    ∃ suite ∈ context.registry.suitesFor suite.target,
      messages = suite.defects.map Defect.message := by
  rcases unit_of_built entry context battery built (.error unit) listed with
    ⟨subject, _, units, assembled, own⟩ | ⟨refusal, report⟩ | ⟨plain, external⟩
  · obtain ⟨plan, source, resolved, _, rfl⟩ :=
      subject.planned_of_units context.graph context.registry units assembled
    obtain ⟨suite, planned, _, rfl⟩ :=
      subject.suite_of_error context.registry source plan.suites unit own
    refine ⟨suite, subject.listed_of_planned context.graph tells plan resolved suite planned, ?_⟩
    exact (Failure.malformed.inj shown).2.symm
  · obtain rfl := RunUnit.error.inj report
    cases shown
  · cases external

/-- What a report has to carry of the defects of suites. -/
structure Report.Reveals (report : Report) (context : Context) : Prop where
  /-- The defects of all listed suites come first, by capability and then in the order of
  registration; what follows are refusals of entry points. -/
  divided : ∃ refusals, report.errors =
      (context.registry.capabilities.flatMap fun capability =>
        (context.registry.suitesFor capability).flatMap Suite.defects).map .defect ++ refusals ∧
    ∀ diagnostic ∈ refusals, ∃ entry message, diagnostic = .refusal entry message
  /-- The defects of every listed suite stand together, in order. -/
  listed : ∀ capability, ∀ suite ∈ context.registry.suitesFor capability,
    suite.defects.map Diagnostic.defect <:+: report.errors
  declared : ∀ declaringType suite, context.registry.suiteOf? declaringType = some suite →
    suite.defects.map Diagnostic.defect <:+: report.errors
  /-- So do the messages of every failing unit that reports defects, in the battery of any entry
  point. -/
  shown : ∀ entry battery, (Battery.build entry context).value = .ok battery →
    ∀ unit, .error unit ∈ battery.units →
      ∀ suite messages, unit.failure = .malformed suite messages →
        messages <:+: report.errorLines

namespace Context

variable (context : Context)

/-- All that entry points contribute to the errors of a report are refusals. -/
theorem refusal_of_contribution (entry : Entry) (diagnostic : Diagnostic)
    (contributed : diagnostic ∈ (context.contribution entry).errors) :
    ∃ refusal, diagnostic = .ofRefusal refusal := by
  rw [contribution] at contributed
  rcases entry.coverage_cases context.graph context.registry with
    ⟨refusal, refused⟩ | ⟨plan, busy | idle⟩
  · rw [refused] at contributed
    exact ⟨refusal, List.mem_singleton.mp contributed⟩
  · rw [busy] at contributed
    exact absurd contributed List.not_mem_nil
  · rw [idle] at contributed
    exact ⟨_, List.mem_singleton.mp contributed⟩

/-- A report begins with the defects of the registry. -/
theorem errors_gather (packages : List String) :
    (context.gather packages).value.errors = context.registry.defects.map .defect ++
      context.entries.flatMap fun entry => (context.contribution entry).errors := by
  rw [context.value_gather, errors_report, List.flatMap_map]
  rfl

/-- The defects of a suite that the registry lists stand together in every report. -/
theorem defects_gathered {history : List Suite} (tells : context.registry.Tells history)
    (packages : List String) (capability : Name) (suite : Suite)
    (listed : suite ∈ context.registry.suitesFor capability) :
    suite.defects.map Diagnostic.defect <:+: (context.gather packages).value.errors := by
  rw [context.errors_gather]
  have leading : (context.registry.defects.map Diagnostic.defect) <:+:
      context.registry.defects.map .defect ++
        context.entries.flatMap fun entry => (context.contribution entry).errors :=
    (List.prefix_append _ _).isInfix
  exact ((tells.defects_infix capability suite listed).map _).trans leading

/-- Reports reveal all defects, whatever is in scope and whoever is tested.

A report takes the defects from the index by capability. A suite held by type is listed there too,
and so is every suite on a plan; the units that report defects come from plans alone, whether these
belong to the entry point or to one of its members. -/
theorem gather_reveals_defects (graph : Graph) (operations : List Registry.Operation)
    (entries : List Entry) (packages : List String) :
    let context : Context := ⟨graph, Registry.after operations, entries⟩
    (context.gather packages).value.Reveals context := by
  intro context
  have tells : context.registry.Tells (Registry.history operations) :=
    Registry.tells_after operations
  constructor
  case divided =>
    rw [← context.registry.defects_by_capability]
    refine ⟨_, context.errors_gather packages, ?_⟩
    intro diagnostic added
    obtain ⟨entry, _, contributed⟩ := List.mem_flatMap.mp added
    obtain ⟨refusal, rfl⟩ := context.refusal_of_contribution entry diagnostic contributed
    exact ⟨refusal.entry, refusal.message, rfl⟩
  case listed => exact context.defects_gathered tells packages
  case declared =>
    intro declaringType suite found
    exact context.defects_gathered tells packages suite.target suite
      (tells.listed_of_suiteOf? declaringType suite found)
  case shown =>
    intro entry battery built unit listed name messages reported
    obtain ⟨suite, registered, rfl⟩ :=
      Battery.suite_of_malformed context tells entry battery built unit listed name messages
        reported
    have gathered := (context.defects_gathered tells packages suite.target suite registered).map
      Diagnostic.message
    rw [List.map_map] at gathered
    exact gathered

/-- The member of a dynamic entry point reports an abstract suite without a setter. Both defects
stand in a report that has no such capability in scope. -/
theorem gather_reveals_defects_out_of_scope :
    let suite := (Suite.new ⟨"k"⟩ ⟨"K"⟩).asAbstract
    let host : Host := ⟨⟨"P"⟩, true, .ok fun _ => none⟩
    let bare : Entry := ⟨⟨"B"⟩, none, host, [], none⟩
    let entry : Entry := ⟨⟨"P"⟩, some ⟨⟨"T"⟩, []⟩, host, [], some [.contract bare]⟩
    let graph := Graph.ofList [(TypeDecl.ofClass ⟨"T"⟩).extending ⟨"K"⟩]
    let context : Context := ⟨graph, Registry.after [.register suite], [entry]⟩
    let report := (context.gather ["z"]).value
    report.interfaces = [] ∧ ∃ battery, (Battery.build entry context).value = .ok battery ∧
      .error (.ofSuite suite) ∈ battery.units ∧
      [(Defect.abstractType ⟨"k"⟩).message, (Defect.missingSetter ⟨"k"⟩).message] <:+:
        report.errorLines := by
  intro suite host bare entry graph context report
  let subject := Subject.ofMember bare (Subject.ofMarker entry ⟨⟨"T"⟩, []⟩)
  have tested : subject ∈ entry.subjects := List.mem_singleton.mpr rfl
  have closure : context.graph.closure subject.target = .ok (SortedSet.ofList [⟨"K"⟩]) :=
    context.graph.closure_of_lone ⟨"T"⟩ (.extending (.ofClass ⟨"T"⟩) ⟨"K"⟩) (by decide) rfl nofun
      (List.forall_mem_singleton.mpr (by decide))
  let plan := Plan.ofClosure context.registry subject (SortedSet.ofList [⟨"K"⟩])
  have resolved : (subject.resolve context.graph context.registry).value = .ok plan := by
    rw [subject.value_resolve, closure]
  have suites : plan.suites = [suite] := by cbv
  have something : subject.hasTests context.registry plan = true :=
    (subject.hasTests_iff context.registry plan).mpr (.inl (suites ▸ List.cons_ne_nil _ _))
  have assembled : subject.units context.graph context.registry =
      .ok [.error (.ofSuite suite)] := by
    rw [subject.units_of_resolved _ _ plan resolved, subject.value_assemble, if_pos something,
      suites]
    rfl
  obtain ⟨battery, built, _, together⟩ :=
    Battery.block_of_subject entry context subject tested _ assembled
  have listed : .error (.ofSuite suite) ∈ battery.units :=
    together.subset (List.mem_singleton_self _)
  have reveals := gather_reveals_defects graph [.register suite] [entry] ["z"]
  refine ⟨by decide, battery, built, listed, ?_⟩
  exact reveals.shown entry battery built _ listed ⟨"k"⟩ _ rfl

end Context

end Conformance
