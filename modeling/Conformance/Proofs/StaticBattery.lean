import Conformance.Proofs.Batteries
import Conformance.Proofs.Plans

/-!
# How building a static entry point ends

A static entry point is built in steps that may refuse it: its marker is read, its
target is looked up, its plan and its own tests are checked for something to run, and
its host is called. The first step that refuses decides, and only the last one reaches
the host.

`StaticEnd` lists the five ends with what the host notices of each, `build_static` says
that every build comes to one of them, and `StaticBuild` is the specification that the
ends imply. The tests of declaring types that were left out do not come back through
inheritance, since the registry remembers these types.
-/

namespace Conformance

/-- The subject of an entry point with a marker. -/
def Subject.ofMarker (entry : Entry) (marker : Marker) : Subject where
  entry := entry.name
  target := marker.target
  skip := SortedSet.ofList marker.skip
  host := entry.host
  tests := entry.tests
  parent := none

/-- An entry point with a marker has a subject. -/
theorem Subject.ofEntry_of_marked (entry : Entry) (marker : Marker)
    (marked : entry.marker = some marker) :
    Subject.ofEntry entry = .ok (Subject.ofMarker entry marker) := by
  rw [ofEntry, marked]
  rfl

/-- The subject of an entry point is made from its marker. -/
theorem Subject.ofEntry_eq_ok_iff (entry : Entry) (subject : Subject) :
    ofEntry entry = .ok subject ↔
      ∃ marker, entry.marker = some marker ∧ subject = .ofMarker entry marker := by
  cases marked : entry.marker with
  | none => simp [ofEntry, marked]
  | some marker => simp [ofEntry_of_marked entry marker marked, eq_comm]

namespace Entry

/-- The plan of an entry point that is marked with a declared target. -/
def planned? (entry : Entry) (graph : Graph) (registry : Registry) : Option Plan :=
  match Subject.ofEntry entry with
  | .error _ => none
  | .ok subject => (subject.resolve graph registry).value.toOption

/-- The tests of an entry point that none of the given types declares. -/
def ownTests (entry : Entry) (types : List Name) : List TestCase :=
  entry.tests.filter fun test => decide (¬ test.declaredIn ∈ types)

/-- Whether an entry point has nothing to run: no suite is planned for it, and all its tests are
inherited from the given types. -/
def Idle (entry : Entry) (types : List Name) (plan : Plan) : Prop :=
  plan.suites = [] ∧ ∀ test ∈ entry.tests, test.declaredIn ∈ types

/-- The plan of an entry point is what the subject of its marker resolves to. -/
theorem planned?_eq_some_iff (entry : Entry) (graph : Graph) (registry : Registry) (plan : Plan) :
    entry.planned? graph registry = some plan ↔
      ∃ marker, entry.marker = some marker ∧
        ((Subject.ofMarker entry marker).resolve graph registry).value = .ok plan := by
  unfold planned?
  cases marked : entry.marker with
  | none => simp [Subject.ofEntry, marked]
  | some marker =>
    rw [Subject.ofEntry_of_marked entry marker marked]
    cases resolved : ((Subject.ofMarker entry marker).resolve graph registry).value <;>
      simp [Except.toOption, resolved]

/-- Whoever has a plan is marked with a declared target. -/
theorem marked_of_planned (entry : Entry) (graph : Graph) (registry : Registry) (plan : Plan)
    (planned : entry.planned? graph registry = some plan) :
    ∃ marker, entry.marker = some marker ∧ graph.get? marker.target ≠ none := by
  obtain ⟨marker, marked, resolved⟩ := (entry.planned?_eq_some_iff graph registry plan).mp planned
  exact ⟨marker, marked,
    (Subject.ofMarker entry marker).declared_of_resolve graph registry plan resolved⟩

/-- An entry point has no tests of its own if all that it has are inherited from the given types. -/
theorem ownTests_eq_nil_iff (entry : Entry) (types : List Name) :
    entry.ownTests types = [] ↔ ∀ test ∈ entry.tests, test.declaredIn ∈ types := by
  simp [ownTests, List.filter_eq_nil_iff]

/-- The units of an entry point with a plan: its own tests first, then the suites of the plan. -/
def plannedUnits (entry : Entry) (target : Name) (types : List Name) (plan : Plan)
    (source : Source) : List RunUnit :=
  (if entry.ownTests types = [] then []
    else [.direct entry.name target (entry.ownTests types) source]) ++
  plan.suites.map fun suite =>
    if suite.isWellFormed then .contract entry.name suite source else .error (.ofSuite suite)

section Remembered

variable (entry : Entry) (marker : Marker) (registry : Registry) (types : List Name)
variable (remembered : ∀ name, name ∈ registry.declaringTypes ↔ name ∈ types)

include remembered in
/-- The tests that a subject runs itself are those that its entry point does not inherit. -/
theorem directTests_ofMarker :
    (Subject.ofMarker entry marker).directTests registry = entry.ownTests types := by
  simp only [Subject.directTests, Registry.isDeclaringType, remembered, ← decide_not]
  rfl

include remembered in
/-- Whoever is not idle has something to run. -/
theorem hasTests_ofMarker_iff (plan : Plan) :
    (Subject.ofMarker entry marker).hasTests registry plan = true ↔ ¬ entry.Idle types plan := by
  rw [Subject.hasTests_iff, entry.directTests_ofMarker marker registry types remembered,
    Entry.Idle, ← entry.ownTests_eq_nil_iff, not_and_or]

include remembered in
/-- The units of the plan are those that are assembled, if the registry remembers the types. -/
theorem unitsFor_ofMarker (plan : Plan) (source : Source) :
    (Subject.ofMarker entry marker).unitsFor registry source plan.suites =
      entry.plannedUnits marker.target types plan source := by
  rw [Subject.unitsFor, Subject.directUnits_eq,
    entry.directTests_ofMarker marker registry types remembered]
  rfl

end Remembered

/-- Whoever is not idle has a unit: one for its own tests, or one for each suite of its plan. -/
theorem plannedUnits_ne_nil (entry : Entry) (target : Name) (types : List Name) (plan : Plan)
    (source : Source) (busy : ¬ entry.Idle types plan) :
    entry.plannedUnits target types plan source ≠ [] := by
  intro empty
  obtain ⟨direct, suites⟩ := List.append_eq_nil_iff.mp empty
  refine busy ⟨List.map_eq_nil_iff.mp suites, (entry.ownTests_eq_nil_iff types).mp ?_⟩
  by_contra own
  simp [own] at direct

end Entry

/-- How building a static entry point ends, and which contacts took place on the way. -/
inductive StaticEnd (context : Context) (types : List Name) (entry : Entry) :
    Except Refusal Battery → List Observation → Prop where
  | missingMarker (unmarked : entry.marker = none) :
    StaticEnd context types entry (.error (.missingMarker entry.name)) []
  | unknownTarget (marker : Marker) (marked : entry.marker = some marker)
      (undeclared : context.graph.get? marker.target = none) :
    StaticEnd context types entry (.error (.unknownTarget entry.name ⟨marker.target⟩)) []
  | noTests (marker : Marker) (marked : entry.marker = some marker)
      (declared : context.graph.get? marker.target ≠ none)
      (plan : Plan) (planned : entry.planned? context.graph context.registry = some plan)
      (idle : entry.Idle types plan) :
    StaticEnd context types entry (.error (.noTests entry.name)) []
  | instantiation (marker : Marker) (marked : entry.marker = some marker)
      (declared : context.graph.get? marker.target ≠ none)
      (plan : Plan) (planned : entry.planned? context.graph context.registry = some plan)
      (busy : ¬ entry.Idle types plan)
      (reason : String) (failed : entry.host.source = .error reason) :
    StaticEnd context types entry (.error (.instantiation entry.name reason))
      [.host entry.host.owner entry.host.shown]
  | built (marker : Marker) (marked : entry.marker = some marker)
      (declared : context.graph.get? marker.target ≠ none)
      (plan : Plan) (planned : entry.planned? context.graph context.registry = some plan)
      (busy : ¬ entry.Idle types plan)
      (source : Source) (supplied : entry.host.source = .ok source) :
    StaticEnd context types entry
      (.ok ⟨entry.name, entry.plannedUnits marker.target types plan source⟩)
      [.host entry.host.owner entry.host.shown]

namespace Battery

/-- Every build of a static entry point comes to one of the five ends. -/
theorem build_static (entry : Entry) (context : Context) (types : List Name)
    (remembered : ∀ name, name ∈ context.registry.declaringTypes ↔ name ∈ types)
    (static : entry.isDynamic = false) :
    StaticEnd context types entry (build entry context).value (build entry context).trace := by
  obtain ⟨value, trace⟩ := build_of_static entry context static
  rw [value, trace, value_staticUnits, trace_staticUnits]
  cases marked : entry.marker with
  | none =>
    have refused : Subject.ofEntry entry = .error (.missingMarker entry.name) := by
      rw [Subject.ofEntry, marked]
    rw [refused]
    exact .missingMarker marked
  | some marker =>
    let subject := Subject.ofMarker entry marker
    have accepted : Subject.ofEntry entry = .ok subject :=
      Subject.ofEntry_of_marked entry marker marked
    rw [accepted]
    cases resolved : (subject.resolve context.graph context.registry).value with
    | error refusal =>
      obtain ⟨undeclared, rfl⟩ := (subject.resolve_eq_error_iff _ _ refusal).mp resolved
      simp only [Subject.units, Subject.contacts, resolved]
      exact .unknownTarget marker marked undeclared
    | ok plan =>
      have declared : context.graph.get? marker.target ≠ none :=
        subject.declared_of_resolve _ _ plan resolved
      have planned : entry.planned? context.graph context.registry = some plan :=
        (entry.planned?_eq_some_iff _ _ plan).mpr ⟨marker, marked, resolved⟩
      have hasTests : subject.hasTests context.registry plan = true ↔ ¬ entry.Idle types plan :=
        entry.hasTests_ofMarker_iff marker context.registry types remembered plan
      simp only [subject.units_of_resolved _ _ plan resolved,
        subject.contacts_of_resolved _ _ plan resolved, subject.value_assemble,
        subject.trace_assemble]
      by_cases idle : entry.Idle types plan
      · have nothing : ¬ subject.hasTests context.registry plan = true :=
          fun something => hasTests.mp something idle
        rw [if_neg nothing, if_neg nothing]
        exact .noTests marker marked declared plan planned idle
      · rw [if_pos (hasTests.mpr idle), if_pos (hasTests.mpr idle)]
        cases host : subject.host.source with
        | error reason => exact .instantiation marker marked declared plan planned idle reason host
        | ok source =>
          have built := StaticEnd.built marker marked declared plan planned idle source host
          rw [← entry.unitsFor_ofMarker marker context.registry types remembered] at built
          exact built

end Battery

namespace StaticEnd

variable {context : Context} {types : List Name} {entry : Entry}
variable {outcome : Except Refusal Battery} {trace : List Observation}

/-- A build ends in one way only: the conditions of the five ends exclude each other. -/
theorem unique (ended : StaticEnd context types entry outcome trace)
    {other : Except Refusal Battery} {otherTrace : List Observation}
    (otherEnded : StaticEnd context types entry other otherTrace) :
    outcome = other ∧ trace = otherTrace := by
  cases ended <;> cases otherEnded <;> simp_all

/-- A build is refused for a missing marker if the entry point has none. -/
theorem missingMarker_iff (ended : StaticEnd context types entry outcome trace) (name : Name) :
    outcome = .error (.missingMarker name) ↔ name = entry.name ∧ entry.marker = none := by
  constructor
  · rintro rfl
    cases ended with
    | missingMarker unmarked => exact ⟨rfl, unmarked⟩
  · rintro ⟨rfl, unmarked⟩
    exact (ended.unique (.missingMarker unmarked)).1

/-- A build is refused for an unknown target if the marker names a type that is not declared. -/
theorem unknownTarget_iff (ended : StaticEnd context types entry outcome trace) (name : Name)
    (unknown : Graph.UnknownType) :
    outcome = .error (.unknownTarget name unknown) ↔
      name = entry.name ∧ ∃ marker, entry.marker = some marker ∧
        context.graph.get? marker.target = none ∧ unknown = ⟨marker.target⟩ := by
  constructor
  · rintro rfl
    cases ended with
    | unknownTarget marker marked undeclared => exact ⟨rfl, marker, marked, undeclared, rfl⟩
  · rintro ⟨rfl, marker, marked, undeclared, rfl⟩
    exact (ended.unique (.unknownTarget marker marked undeclared)).1

/-- A build is refused for want of tests if the plan is there and the entry point is idle under it.
-/
theorem noTests_iff (ended : StaticEnd context types entry outcome trace) (name : Name) :
    outcome = .error (.noTests name) ↔
      name = entry.name ∧ ∃ plan,
        entry.planned? context.graph context.registry = some plan ∧ entry.Idle types plan := by
  constructor
  · rintro rfl
    cases ended with
    | noTests marker marked declared plan planned idle => exact ⟨rfl, plan, planned, idle⟩
  · rintro ⟨rfl, plan, planned, idle⟩
    obtain ⟨marker, marked, declared⟩ := entry.marked_of_planned _ _ plan planned
    exact (ended.unique (.noTests marker marked declared plan planned idle)).1

/-- A build is refused for its host if there is something to run and the host fails. -/
theorem instantiation_iff (ended : StaticEnd context types entry outcome trace) (name : Name)
    (reason : String) :
    outcome = .error (.instantiation name reason) ↔
      name = entry.name ∧ entry.host.source = .error reason ∧ ∃ plan,
        entry.planned? context.graph context.registry = some plan ∧ ¬ entry.Idle types plan := by
  constructor
  · rintro rfl
    cases ended with
    | instantiation marker marked declared plan planned busy reason failed =>
      exact ⟨rfl, failed, plan, planned, busy⟩
  · rintro ⟨rfl, failed, plan, planned, busy⟩
    obtain ⟨marker, marked, declared⟩ := entry.marked_of_planned _ _ plan planned
    exact (ended.unique (.instantiation marker marked declared plan planned busy reason failed)).1

/-- A build succeeds if there is something to run and the host supplies a source. -/
theorem built_iff (ended : StaticEnd context types entry outcome trace) (battery : Battery) :
    outcome = .ok battery ↔
      ∃ marker plan source, entry.marker = some marker ∧
        entry.planned? context.graph context.registry = some plan ∧ ¬ entry.Idle types plan ∧
        entry.host.source = .ok source ∧
        battery = ⟨entry.name, entry.plannedUnits marker.target types plan source⟩ := by
  constructor
  · rintro rfl
    cases ended with
    | built marker marked declared plan planned busy source supplied =>
      exact ⟨marker, plan, source, marked, planned, busy, supplied, rfl⟩
  · rintro ⟨marker, plan, source, marked, planned, busy, supplied, rfl⟩
    obtain ⟨_, markedAgain, declared⟩ := entry.marked_of_planned _ _ plan planned
    obtain rfl := Option.some.inj (marked.symm.trans markedAgain)
    exact (ended.unique (.built marker marked declared plan planned busy source supplied)).1

/-- The host is called once, unless one of the three earlier refusals applies. -/
theorem host_called (ended : StaticEnd context types entry outcome trace) :
    let early := outcome = .error (.missingMarker entry.name) ∨
      (∃ unknown, outcome = .error (.unknownTarget entry.name unknown)) ∨
      outcome = .error (.noTests entry.name)
    (early → trace = []) ∧ (¬ early → trace = [.host entry.host.owner entry.host.shown]) := by
  intro early
  cases ended with
  | missingMarker => exact ⟨fun _ => rfl, fun late => absurd (.inl rfl) late⟩
  | unknownTarget marker =>
    exact ⟨fun _ => rfl, fun late => absurd (.inr (.inl ⟨⟨marker.target⟩, rfl⟩)) late⟩
  | noTests => exact ⟨fun _ => rfl, fun late => absurd (.inr (.inr rfl)) late⟩
  | instantiation => simp [early]
  | built => simp [early]

end StaticEnd

/-- What building a static entry point has to come to, told by the graph, by the operations that
made the registry and by the entry point itself. -/
structure StaticBuild (graph : Graph) (operations : List Registry.Operation) (entry : Entry)
    (outcome : Except Refusal Battery) (trace : List Observation) : Prop where
  missingMarker : ∀ name, outcome = .error (.missingMarker name) ↔
    name = entry.name ∧ entry.marker = none
  unknownTarget : ∀ name unknown, outcome = .error (.unknownTarget name unknown) ↔
    name = entry.name ∧ ∃ marker, entry.marker = some marker ∧
      graph.get? marker.target = none ∧ unknown = ⟨marker.target⟩
  /-- Whoever is marked with a declared target has a plan, and it is exact. -/
  planned : ∀ marker, entry.marker = some marker → graph.get? marker.target ≠ none →
    ∃ plan, entry.planned? graph (Registry.after operations) = some plan ∧
      plan.Exact graph (Registry.history operations) (.ofMarker entry marker)
  noTests : ∀ name, outcome = .error (.noTests name) ↔
    name = entry.name ∧ ∃ plan, entry.planned? graph (Registry.after operations) = some plan ∧
      entry.Idle (Registry.shownTypes operations) plan
  instantiation : ∀ name reason, outcome = .error (.instantiation name reason) ↔
    name = entry.name ∧ entry.host.source = .error reason ∧
      ∃ plan, entry.planned? graph (Registry.after operations) = some plan ∧
        ¬ entry.Idle (Registry.shownTypes operations) plan
  /-- Every other entry point has a battery, with these units. -/
  built : ∀ battery, outcome = .ok battery ↔
    ∃ marker plan source, entry.marker = some marker ∧
      entry.planned? graph (Registry.after operations) = some plan ∧
      ¬ entry.Idle (Registry.shownTypes operations) plan ∧ entry.host.source = .ok source ∧
      battery = ⟨entry.name,
        entry.plannedUnits marker.target (Registry.shownTypes operations) plan source⟩
  nonempty : ∀ battery, outcome = .ok battery → battery.units ≠ []
  host :
    let early := outcome = .error (.missingMarker entry.name) ∨
      (∃ unknown, outcome = .error (.unknownTarget entry.name unknown)) ∨
      outcome = .error (.noTests entry.name)
    (early → trace = []) ∧ (¬ early → trace = [.host entry.host.owner entry.host.shown])
  /-- Tests of a type that was shown to the registry are left to its suites, even if these were
  left out. -/
  ownOnly : ∀ battery, outcome = .ok battery →
    ∀ name target tests source, .direct name target tests source ∈ battery.units →
      ∀ test ∈ tests, ¬ test.declaredIn ∈ Registry.shownTypes operations

/-- Building a static entry point is exact in every context whose registry was made by operations.

The build comes to one of five ends. Their conditions exclude each other, so each refusal is
reported exactly if its condition holds; what the host notices and what the units are is read off
the end. -/
theorem Battery.build_static_exact (graph : Graph) (operations : List Registry.Operation)
    (entries : List Entry) (entry : Entry) (static : entry.isDynamic = false) :
    let built := Battery.build entry ⟨graph, Registry.after operations, entries⟩
    StaticBuild graph operations entry built.value built.trace := by
  intro built
  have remembered := Registry.mem_declaringTypes_after operations
  have ended := build_static entry ⟨graph, Registry.after operations, entries⟩
    (Registry.shownTypes operations) remembered static
  constructor
  case missingMarker => exact ended.missingMarker_iff
  case unknownTarget => exact ended.unknownTarget_iff
  case planned =>
    intro marker marked declared
    obtain ⟨plan, resolved⟩ := Subject.resolved_of_declared (.ofMarker entry marker) graph
      (Registry.after operations) declared
    exact ⟨plan, (entry.planned?_eq_some_iff _ _ plan).mpr ⟨marker, marked, resolved⟩,
      Subject.exact_of_resolve _ graph (Registry.tells_after operations) plan resolved⟩
  case noTests => exact ended.noTests_iff
  case instantiation => exact ended.instantiation_iff
  case built => exact ended.built_iff
  case nonempty =>
    intro battery succeeded
    obtain ⟨marker, plan, source, _, _, busy, _, rfl⟩ := (ended.built_iff battery).mp succeeded
    exact entry.plannedUnits_ne_nil marker.target _ plan source busy
  case host => exact ended.host_called
  case ownOnly =>
    intro battery succeeded name target tests asked listed test own
    obtain ⟨marker, plan, source, _, _, _, _, rfl⟩ := (ended.built_iff battery).mp succeeded
    rw [← entry.unitsFor_ofMarker marker (Registry.after operations) _ remembered] at listed
    obtain rfl := Subject.tests_of_unitsFor _ _ source plan.suites name target tests asked listed
    rw [← remembered]
    exact ((Subject.mem_directTests_iff _ _ test).mp own).2

/-- A test that is inherited from a suite on the skip list is not run: what remains is the own test,
in one direct unit. -/
theorem Battery.build_static_exact_left_out :
    let own : TestCase := ⟨"adds", ⟨"CartTests"⟩, .done⟩
    let inherited : TestCase := ⟨"empties", ⟨"KeepsTests"⟩, .done⟩
    let source : Source := fun _ => none
    let entry : Entry := ⟨⟨"CartTests"⟩, some ⟨⟨"Cart"⟩, []⟩, ⟨⟨"CartTests"⟩, true, .ok source⟩,
      [inherited, own], none⟩
    let graph := Graph.ofList [(TypeDecl.ofClass ⟨"Cart"⟩).extending ⟨"Keeps"⟩]
    let scan := Registry.Operation.scan [.new ⟨"KeepsTests"⟩ ⟨"Keeps"⟩]
      (SortedSet.ofList [⟨"KeepsTests"⟩])
    let built := Battery.build entry ⟨graph, Registry.after [scan], []⟩
    entry.isDynamic = false ∧
      built.value = .ok ⟨⟨"CartTests"⟩, [.direct ⟨"CartTests"⟩ ⟨"Cart"⟩ [own] source]⟩ ∧
      built.trace = [.host ⟨"CartTests"⟩ true] := by
  intro own inherited source entry graph scan built
  have exactly := Battery.build_static_exact graph [scan] [] entry rfl
  have shown : Registry.shownTypes [scan] = [⟨"KeepsTests"⟩] := rfl
  have declared : graph.get? ⟨"Cart"⟩ ≠ none := by decide
  obtain ⟨plan, planned, meets⟩ := exactly.planned ⟨⟨"Cart"⟩, []⟩ rfl declared
  have noSuites : plan.suites = [] := by
    have history : Registry.history [scan] = [] := by decide
    rw [meets.suites, history, List.flatMap_eq_nil_iff]
    intro capability _
    rfl
  have busy : ¬ entry.Idle (Registry.shownTypes [scan]) plan := by
    intro idle
    have inheritedOnly := idle.2 own (by simp [entry])
    rw [shown] at inheritedOnly
    revert inheritedOnly
    decide
  have units : entry.plannedUnits ⟨"Cart"⟩ (Registry.shownTypes [scan]) plan source =
      [.direct ⟨"CartTests"⟩ ⟨"Cart"⟩ [own] source] := by
    rw [Entry.plannedUnits, noSuites, shown]
    rfl
  have succeeded := (exactly.built _).mpr
    ⟨⟨⟨"Cart"⟩, []⟩, plan, source, rfl, planned, busy, rfl, rfl⟩
  rw [units] at succeeded
  refine ⟨rfl, succeeded, exactly.host.2 ?_⟩
  simp [succeeded]

end Conformance
