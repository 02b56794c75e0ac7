import Conformance.Proofs.DynamicBattery

/-!
# What members inherit from their parent

A member of a dynamic entry point is tested like a static entry point of the same name
and with the same tests. Its marker may name another target and add exclusions; what it
does not say comes from the parent. Exclusions add up: what the parent leaves out stays
left out, whatever the marker of the member says. The host is always that of the parent.

The two routes differ. A static entry point is read off its own marker, while a member
is made from the subject of its parent. `Entry.StandsFor` says which static entry points
a member amounts to, and `StandsFor.build_eq` compares the two routes: units and contacts
are the same for every such entry point.

`Entry.Inherits` is the specification of one member, and `members_inherit` says that all
members of a dynamic entry point meet it.
-/

namespace Conformance

namespace Entry

/-- What a member tests under the marker of its parent. -/
def targetUnder (member : Entry) (marker : Marker) : Name :=
  member.marker.elim marker.target Marker.target

/-- Whether a member leaves a capability out: its parent does, or the member does itself. -/
def LeavesOut (member : Entry) (marker : Marker) (capability : Name) : Prop :=
  capability ∈ marker.skip ∨ ∃ own, member.marker = some own ∧ capability ∈ own.skip

/-- The static entry points that a member of a dynamic one amounts to. Name and tests are those of
the member and the host is that of the parent; the exclusions of both markers add up, in any order
and with any repetitions. -/
structure StandsFor (stand member parent : Entry) (marker : Marker) : Prop where
  name : stand.name = member.name
  tests : stand.tests = member.tests
  host : stand.host = parent.host
  static : stand.members = none
  marked : ∃ own, stand.marker = some own ∧ own.target = member.targetUnder marker ∧
    ∀ capability, capability ∈ own.skip ↔ member.LeavesOut marker capability

/-- The plan of a member, if its target is declared. -/
def planUnder? (member : Entry) (parent : Subject) (graph : Graph) (registry : Registry) :
    Option Plan :=
  ((Subject.ofMember member parent).resolve graph registry).value.toOption

/-- Whether a member reaches assembly with something to run: it has a plan, and either there is a
suite on it or the member has a test that no given type declares. -/
def ReadyUnder (member : Entry) (parent : Subject) (graph : Graph) (registry : Registry)
    (types : List Name) : Prop :=
  ∃ plan, member.planUnder? parent graph registry = some plan ∧
    (plan.suites ≠ [] ∨ ∃ test ∈ member.tests, ¬ test.declaredIn ∈ types)

/-- The plan of a member under its parent is what its own subject resolves to. -/
theorem planUnder?_eq_some_iff (member : Entry) (parent : Subject) (graph : Graph)
    (registry : Registry) (plan : Plan) :
    member.planUnder? parent graph registry = some plan ↔
      ((Subject.ofMember member parent).resolve graph registry).value = .ok plan := by
  unfold planUnder?
  cases ((Subject.ofMember member parent).resolve graph registry).value <;> simp [Except.toOption]

end Entry

/-- A member leaves out what either marker leaves out. -/
theorem Subject.mem_skip_ofMember (member parent : Entry) (marker : Marker) (capability : Name) :
    capability ∈ (ofMember member (ofMarker parent marker)).skip ↔
      member.LeavesOut marker capability := by
  unfold Entry.LeavesOut ofMember ofMarker
  cases member.marker <;> simp [SortedSet.mem_union, SortedSet.mem_ofList]

namespace Member

/-- The contacts that a member takes. -/
def contacts (parent : Subject) (graph : Graph) (registry : Registry) :
    Member Entry → List Observation
  | .plain _ => []
  | .contract member => (Subject.ofMember member parent).contacts graph registry

/-- Assembling what resolving leaves of a member takes its contacts. -/
theorem trace_assemble_resolve (parent : Subject) (graph : Graph) (registry : Registry)
    (name : Name) (member : Member Entry) :
    (MemberResolution.assemble name registry (member.resolve parent graph registry).value).trace =
      member.contacts parent graph registry := by
  cases member with
  | plain unit => rfl
  | contract entry =>
    rw [value_resolve_contract, contacts, Subject.contacts]
    cases ((Subject.ofMember entry parent).resolve graph registry).value with
    | error refusal => rfl
    | ok plan => exact MemberResolution.trace_assemble_resolved name registry _ plan

end Member

namespace Subject

variable (subject : Subject) (graph : Graph) (registry : Registry)

/-- A subject that has something to run calls its host, and only once. -/
theorem contacts_of_something (plan : Plan)
    (resolved : (subject.resolve graph registry).value = .ok plan)
    (something : plan.suites ≠ [] ∨ subject.directTests registry ≠ []) :
    subject.contacts graph registry = [.host subject.host.owner subject.host.shown] := by
  rw [subject.contacts_of_resolved graph registry plan resolved, subject.trace_assemble,
    if_pos ((subject.hasTests_iff registry plan).mpr something)]

/-- Every other subject calls nobody, whether it is refused or has nothing to run. -/
theorem contacts_of_nothing
    (nothing : ∀ plan, (subject.resolve graph registry).value = .ok plan →
      ¬ (plan.suites ≠ [] ∨ subject.directTests registry ≠ [])) :
    subject.contacts graph registry = [] := by
  cases resolved : (subject.resolve graph registry).value with
  | error refusal => rw [contacts, resolved]
  | ok plan =>
    rw [subject.contacts_of_resolved graph registry plan resolved, subject.trace_assemble,
      if_neg fun something =>
        nothing plan resolved ((subject.hasTests_iff registry plan).mp something)]

end Subject

namespace Entry.StandsFor

variable {stand member parent : Entry} {marker : Marker}

/-- As a subject, a member differs from the static entry points it amounts to only in that it
belongs to a parent. -/
theorem subject_eq (stands : stand.StandsFor member parent marker) :
    Subject.ofEntry stand =
      .ok { Subject.ofMember member (Subject.ofMarker parent marker) with parent := none } := by
  obtain ⟨own, marked, target, skip⟩ := stands.marked
  have exclusions : SortedSet.ofList own.skip =
      (Subject.ofMember member (Subject.ofMarker parent marker)).skip := by
    refine SortedSet.ext ?_
    intro capability
    rw [SortedSet.mem_ofList, Subject.mem_skip_ofMember, skip]
  rw [Subject.ofEntry_of_marked stand own marked, Subject.ofMarker, stands.name, stands.tests,
    stands.host, target, exclusions]
  rfl

/-- Building such an entry point comes to the units and the contacts of the member. -/
theorem build_eq (stands : stand.StandsFor member parent marker) (context : Context) :
    let subject := Subject.ofMember member (Subject.ofMarker parent marker)
    (Battery.build stand context).value =
        (subject.units context.graph context.registry).map (fun units => ⟨member.name, units⟩) ∧
      (Battery.build stand context).trace = subject.contacts context.graph context.registry := by
  intro subject
  obtain ⟨value, trace⟩ :=
    Battery.build_of_static stand context (Entry.isDynamic_of_none stands.static)
  rw [value, trace, Battery.value_staticUnits, Battery.trace_staticUnits, stands.subject_eq,
    stands.name]
  exact ⟨rfl, rfl⟩

/-- The block of a member is what any entry point builds that the member amounts to, or the report
of its refusal. -/
theorem block_eq (stands : stand.StandsFor member parent marker) (context : Context) :
    Member.block (.ofMarker parent marker) context.graph context.registry (.contract member) =
      match (Battery.build stand context).value with
      | .ok battery => battery.units
      | .error refusal => [.error (.ofRefusal refusal)] := by
  rw [(stands.build_eq context).1, Member.block]
  cases (Subject.ofMember member (.ofMarker parent marker)).units context.graph
    context.registry <;> rfl

/-- What refuses such an entry point names the member. -/
theorem entry_of_refused (stands : stand.StandsFor member parent marker) (context : Context)
    (refusal : Refusal) (refused : (Battery.build stand context).value = .error refusal) :
    refusal.entry = member.name := by
  rw [(stands.build_eq context).1] at refused
  cases outcome : (Subject.ofMember member (.ofMarker parent marker)).units context.graph
    context.registry with
  | error own =>
    rw [outcome] at refused
    obtain rfl : own = refusal := Except.error.inj refused
    exact Subject.entry_of_refusal _ context.graph context.registry own outcome
  | ok units =>
    rw [outcome] at refused
    cases refused

end Entry.StandsFor

/-- The stand-in of a member stands for it. -/
theorem Entry.standsFor_standIn (member parent : Entry) (marker : Marker) :
    (member.standIn marker parent.host).StandsFor member parent marker where
  name := rfl
  tests := rfl
  host := rfl
  static := rfl
  marked := by
    refine ⟨_, rfl, rfl, ?_⟩
    intro capability
    unfold LeavesOut
    cases member.marker <;> simp

/-- What a member of a dynamic entry point has to come to under the marker of its parent, and which
contacts it may take. -/
structure Entry.Inherits (member parent : Entry) (marker : Marker) (context : Context)
    (types : List Name) (units : List RunUnit) (contacts : List Observation) : Prop where
  /-- There is a static entry point that the member amounts to. -/
  stoodFor : ∃ stand, Entry.StandsFor stand member parent marker
  /-- The units are those that any such entry point builds. -/
  assembled : ∀ stand, stand.StandsFor member parent marker → ∀ battery,
    (Battery.build stand context).value = .ok battery → units = battery.units
  /-- Where such an entry point is refused, one failing unit has the wording of its refusal. -/
  failed : ∀ stand, stand.StandsFor member parent marker → ∀ refusal,
    (Battery.build stand context).value = .error refusal →
    units = [.error ⟨member.name.text, "initialization of " ++ member.name.text,
      .initialization refusal.message⟩]
  /-- The contacts are those that building such an entry point takes. -/
  called : ∀ stand, stand.StandsFor member parent marker →
    contacts = (Battery.build stand context).trace
  /-- Unless the member is refused, its units are made from its own tests and from the suites of its
  plan, with the source that the host of the parent supplies. -/
  made : (∃ refusal, units = [.error (.ofRefusal refusal)]) ∨ ∃ plan source own,
    member.planUnder? (.ofMarker parent marker) context.graph context.registry = some plan ∧
    parent.host.source = .ok source ∧
    units = own ++ plan.suites.map (RunUnit.ofSuite member.name source) ∧
    ∀ unit ∈ own, ∃ tests, unit = .direct member.name (member.targetUnder marker) tests source
  /-- No suite of a capability that either marker leaves out is on the plan. -/
  unskipped : ∀ plan,
    member.planUnder? (.ofMarker parent marker) context.graph context.registry = some plan →
    ∀ suite ∈ plan.suites, ¬ member.LeavesOut marker suite.target
  /-- Without a marker of its own, a member has the plan of its parent's marker under its name. -/
  unmarked : member.marker = none →
    member.planUnder? (.ofMarker parent marker) context.graph context.registry =
      (parent.planned? context.graph context.registry).map fun plan =>
        { plan with implementation := member.name }
  /-- The host of the parent is called once if there is something to run, and nobody else is. -/
  hosted :
    member.ReadyUnder (.ofMarker parent marker) context.graph context.registry types →
    contacts = [.host parent.host.owner parent.host.shown]
  unhosted :
    ¬ member.ReadyUnder (.ofMarker parent marker) context.graph context.registry types →
    contacts = []

/-- As a subject, a member without a marker differs from its parent only in name, tests and
place. -/
theorem Subject.ofMember_of_unmarked (member : Entry) (parent : Subject)
    (unmarked : member.marker = none) :
    ofMember member parent =
      { parent with
        entry := member.name
        tests := member.tests
        parent := some ⟨parent.entry, parent.target⟩ } := by
  rw [ofMember, unmarked]
  rfl

namespace Entry

/-- The plan of a member without a marker is the one that the marker of its parent resolves to. -/
theorem planUnder?_of_unmarked (member parent : Entry) (marker : Marker) (graph : Graph)
    (registry : Registry) (marked : parent.marker = some marker) (unmarked : member.marker = none) :
    member.planUnder? (.ofMarker parent marker) graph registry =
      (parent.planned? graph registry).map fun plan =>
        { plan with implementation := member.name } := by
  rw [planUnder?, planned?, Subject.ofMember_of_unmarked member _ unmarked,
    Subject.ofEntry_of_marked parent marker marked]
  simp only [Subject.value_resolve]
  cases graph.closure (Subject.ofMarker parent marker).target <;> rfl

/-- The plan of a member holds no suite of a capability that the member leaves out. -/
theorem not_leavesOut_of_planned (member parent : Entry) (marker : Marker) (graph : Graph)
    {registry : Registry} {history : List Suite} (tells : registry.Tells history) (plan : Plan)
    (planned : member.planUnder? (.ofMarker parent marker) graph registry = some plan)
    (suite : Suite) (listed : suite ∈ plan.suites) : ¬ member.LeavesOut marker suite.target := by
  have resolved := (member.planUnder?_eq_some_iff _ graph registry plan).mp planned
  have exactly := Subject.exact_of_resolve _ graph tells plan resolved
  intro leftOut
  have skipped : suite.target ∈ plan.skipped := by
    refine (exactly.skipped suite.target).mpr ⟨?_, ?_⟩
    · exact (exactly.covered suite.target).mpr (.inr (.inr (List.mem_map_of_mem listed)))
    · exact (Subject.mem_skip_ofMember member parent marker suite.target).mpr leftOut
  exact (exactly.apart suite.target).2.1 ⟨skipped, List.mem_map_of_mem listed⟩

end Entry

namespace Member

variable (member parent : Entry) (marker : Marker) (graph : Graph) (registry : Registry)

/-- The block of a member is the report of its refusal, or its own tests and the suites of its plan
with the source of the parent's host. -/
theorem block_of_contract :
    let block := Member.block (.ofMarker parent marker) graph registry (.contract member)
    (∃ refusal, block = [.error (.ofRefusal refusal)]) ∨ ∃ plan source own,
      member.planUnder? (.ofMarker parent marker) graph registry = some plan ∧
      parent.host.source = .ok source ∧
      block = own ++ plan.suites.map (RunUnit.ofSuite member.name source) ∧
      ∀ unit ∈ own, ∃ tests,
        unit = .direct member.name (member.targetUnder marker) tests source := by
  intro block
  let subject := Subject.ofMember member (.ofMarker parent marker)
  cases outcome : subject.units graph registry with
  | error refusal =>
    refine .inl ⟨refusal, ?_⟩
    simp only [block, Member.block, subject, outcome]
  | ok units =>
    obtain ⟨plan, source, resolved, supplied, made⟩ :=
      subject.planned_of_units graph registry units outcome
    have planned := (member.planUnder?_eq_some_iff _ graph registry plan).mpr resolved
    refine .inr ⟨plan, source, subject.directUnits registry source, planned, supplied, ?_, ?_⟩
    · simp only [block, Member.block, subject, outcome]
      exact made
    · intro unit own
      obtain ⟨_, rfl⟩ := (subject.mem_directUnits_iff registry source unit).mp own
      exact ⟨_, rfl⟩

/-- A member that is ready calls the host of its parent, and every other member calls nobody. -/
theorem contacts_of_contract (types : List Name)
    (remembered : ∀ name, name ∈ registry.declaringTypes ↔ name ∈ types) :
    let contacts := Member.contacts (.ofMarker parent marker) graph registry (.contract member)
    let ready := member.ReadyUnder (.ofMarker parent marker) graph registry types
    (ready → contacts = [.host parent.host.owner parent.host.shown]) ∧
      (¬ ready → contacts = []) := by
  intro contacts ready
  let subject := Subject.ofMember member (.ofMarker parent marker)
  have own : subject.directTests registry ≠ [] ↔
      ∃ test ∈ member.tests, ¬ test.declaredIn ∈ types := by
    simp only [ne_eq, List.eq_nil_iff_forall_not_mem, not_forall, not_not,
      subject.mem_directTests_iff, remembered, ← exists_prop]
    exact Iff.rfl
  constructor
  · rintro ⟨plan, planned, something⟩
    rw [← own] at something
    exact subject.contacts_of_something graph registry plan
      ((member.planUnder?_eq_some_iff _ graph registry plan).mp planned) something
  · intro unready
    refine subject.contacts_of_nothing graph registry ?_
    intro plan resolved something
    rw [own] at something
    exact unready
      ⟨plan, (member.planUnder?_eq_some_iff _ graph registry plan).mpr resolved, something⟩

end Member

/-- A member takes from its parent what it has to, in every context whose registry was made by
operations. -/
theorem Entry.inherits (member parent : Entry) (marker : Marker)
    (marked : parent.marker = some marker) (graph : Graph)
    (operations : List Registry.Operation) (entries : List Entry) :
    let registry := Registry.after operations
    member.Inherits parent marker ⟨graph, registry, entries⟩ (Registry.shownTypes operations)
      (Member.block (.ofMarker parent marker) graph registry (.contract member))
      (Member.contacts (.ofMarker parent marker) graph registry (.contract member)) := by
  intro registry
  have hosting := Member.contacts_of_contract member parent marker graph registry _
    (Registry.mem_declaringTypes_after operations)
  constructor
  case stoodFor => exact ⟨_, member.standsFor_standIn parent marker⟩
  case assembled =>
    intro stand stands battery built
    rw [stands.block_eq ⟨graph, registry, entries⟩, built]
  case failed =>
    intro stand stands refusal refused
    rw [stands.block_eq ⟨graph, registry, entries⟩, refused]
    simp only [ErrorUnit.ofRefusal, stands.entry_of_refused _ refusal refused]
  case called =>
    intro stand stands
    exact (stands.build_eq ⟨graph, registry, entries⟩).2.symm
  case made => exact Member.block_of_contract member parent marker graph registry
  case unskipped =>
    intro plan planned suite listed
    exact member.not_leavesOut_of_planned parent marker graph (Registry.tells_after operations) plan
      planned suite listed
  case unmarked => exact member.planUnder?_of_unmarked parent marker graph registry marked
  case hosted => exact hosting.1
  case unhosted => exact hosting.2

/-- What is built depends on what the members resolve to, and on nothing else about them. -/
theorem Battery.build_of_same_resolutions (entry : Entry) (context : Context)
    (members others : List (Member Entry)) (dynamic : entry.members = some members)
    (same : ∀ parent,
      others.map (Member.resolve parent context.graph context.registry) =
        members.map (Member.resolve parent context.graph context.registry)) :
    build { entry with members := some others } context = build entry context := by
  have resolutions : { entry with members := some others }.resolveMembers context.graph
      context.registry = entry.resolveMembers context.graph context.registry := by
    have accepted : Subject.ofEntry { entry with members := some others } = Subject.ofEntry entry :=
      rfl
    simp only [Entry.resolveMembers, dynamic, accepted]
    cases Subject.ofEntry entry with
    | error refusal => rfl
    | ok parent =>
      have count : others.length = members.length := by
        simpa using congrArg List.length (same parent)
      have empty : others.isEmpty = members.isEmpty := by
        simpa using congrArg List.isEmpty (same parent)
      simp only [Recorded.forEach, same parent, count, empty]
  simp only [build, Entry.isDynamic, dynamic, Option.isSome_some, if_true, dynamicUnits,
    resolutions]

/-- The members of a dynamic entry point inherit from its marker and its host, whatever the graph
and the registry hold.

Every member has a block of units and contacts of its own, and the build consists of these, one
after the other. For a member to be tested its name, its marker and its tests are read and nothing
else, so another member that agrees in them leaves the same build, log included. A static entry
point that the member amounts to has the same subject but for the parent, and neither resolving nor
assembling looks at the parent. -/
theorem Battery.members_inherit (graph : Graph) (operations : List Registry.Operation)
    (entries : List Entry) (entry : Entry) (members : List (Member Entry))
    (dynamic : entry.members = some members) (marker : Marker)
    (marked : entry.marker = some marker) :
    let context : Context := ⟨graph, Registry.after operations, entries⟩
    let types := Registry.shownTypes operations
    let block := Member.block (.ofMarker entry marker) graph context.registry
    let contacts := Member.contacts (.ofMarker entry marker) graph context.registry
    let built := build entry context
    (members ≠ [] → built.value = .ok ⟨entry.name, members.flatMap block⟩) ∧
    built.trace = .members members.length :: members.flatMap contacts ∧
    (∀ unit, block (.plain unit) = [.external unit] ∧ contacts (.plain unit) = []) ∧
    (∀ member : Entry, member.Inherits entry marker context types (block (.contract member))
      (contacts (.contract member))) ∧
    ∀ front member other back, members = front ++ .contract member :: back →
      other.name = member.name → other.marker = member.marker → other.tests = member.tests →
      build { entry with members := some (front ++ .contract other :: back) } context = built := by
  intro context types block contacts built
  refine ⟨?_, ?_, fun unit => ⟨rfl, rfl⟩, ?_, ?_⟩
  · intro present
    rw [show built.value = _ from value_build_of_some entry context members dynamic,
      Subject.ofEntry_of_marked entry marker marked]
    simp only [present, if_false]
    rfl
  · have trace : built.trace = (dynamicUnits entry context).trace :=
      (build_of_dynamic entry context (Entry.isDynamic_of_some dynamic)).2.2
    rw [trace, trace_dynamicUnits entry context members dynamic,
      Subject.ofEntry_of_marked entry marker marked]
    simp only [Member.trace_assemble_resolve]
    rfl
  · intro member
    exact member.inherits entry marker marked graph operations entries
  · intro front member other back divided name mark tests
    refine build_of_same_resolutions entry context members _ dynamic ?_
    intro parent
    -- the subject of a member is made from its name, its marker and its tests alone
    have subject : Subject.ofMember other parent = Subject.ofMember member parent := by
      simp only [Subject.ofMember, name, mark, tests]
    have resolved : Member.resolve parent graph context.registry (.contract other) =
        Member.resolve parent graph context.registry (.contract member) := by
      simp only [Member.resolve, subject, name]
    rw [divided, List.map_append, List.map_cons, resolved, List.map_append, List.map_cons]

/-- Of three members one has no marker, one adds an exclusion and brings a host and members of its
own, and one names an undeclared target. The host of the parent is called for the first two, and
neither of them has the suite that the parent leaves out. -/
theorem Battery.members_inherit_overlapping :
    let keeps := (Suite.new ⟨"k"⟩ ⟨"K"⟩).withProducerSetter
    let counts := (Suite.new ⟨"c"⟩ ⟨"C"⟩).withProducerSetter
    let sorts := (Suite.new ⟨"s"⟩ ⟨"S"⟩).withProducerSetter
    let graph := Graph.ofList
      [(((TypeDecl.ofClass ⟨"T"⟩).extending ⟨"K"⟩).extending ⟨"C"⟩).extending ⟨"S"⟩]
    let operations := [Registry.Operation.register keeps, .register counts, .register sorts]
    let host : Host := ⟨⟨"P"⟩, true, .ok fun _ => none⟩
    let broken : Host := ⟨⟨"M"⟩, true, .error "no source"⟩
    let bare : Entry := ⟨⟨"B"⟩, none, broken, [], none⟩
    let picky : Entry := ⟨⟨"M"⟩, some ⟨⟨"T"⟩, [⟨"S"⟩, ⟨"C"⟩]⟩, broken, [], some []⟩
    let lost : Entry := ⟨⟨"L"⟩, some ⟨⟨"X"⟩, []⟩, host, [], none⟩
    let members := [Member.contract bare, .contract picky, .contract lost]
    let marker : Marker := ⟨⟨"T"⟩, [⟨"C"⟩]⟩
    let entry : Entry := ⟨⟨"P"⟩, some marker, host, [], some members⟩
    let parent := Subject.ofMarker entry marker
    let registry := Registry.after operations
    entry.members = some members ∧ entry.marker = some marker ∧
      (build entry ⟨graph, registry, []⟩).trace =
        [.members 3, .host ⟨"P"⟩ true, .host ⟨"P"⟩ true] ∧
      (bare.planUnder? parent graph registry).map Plan.keys = some [keeps.key, sorts.key] ∧
      (picky.planUnder? parent graph registry).map Plan.keys = some [keeps.key] ∧
      lost.planUnder? parent graph registry = none := by
  intro keeps counts sorts graph operations host broken bare picky lost members marker entry
    parent registry
  obtain ⟨_, called, _, inherits, _⟩ :=
    Battery.members_inherit graph operations [] entry members rfl marker rfl
  let closure : NameSet := SortedSet.ofList [⟨"C"⟩, ⟨"K"⟩, ⟨"S"⟩]
  have computed : graph.closure ⟨"T"⟩ = .ok closure := by cbv
  have planned (member : Entry) (target : member.targetUnder marker = ⟨"T"⟩) :
      member.planUnder? parent graph registry =
        some (Plan.ofClosure registry (Subject.ofMember member parent) closure) := by
    have sameTarget : (Subject.ofMember member parent).target = ⟨"T"⟩ := target
    rw [Entry.planUnder?, Subject.value_resolve, sameTarget, computed]
    rfl
  have bareKeys : (bare.planUnder? parent graph registry).map Plan.keys =
      some [keeps.key, sorts.key] := by
    rw [planned bare rfl]
    cbv
  have pickyKeys : (picky.planUnder? parent graph registry).map Plan.keys = some [keeps.key] := by
    rw [planned picky rfl]
    cbv
  have lostPlan : lost.planUnder? parent graph registry = none := by
    have undeclared : graph.get? ⟨"X"⟩ = none := by decide
    rw [Entry.planUnder?, (Subject.resolve_eq_error_iff _ _ _ _).mpr ⟨undeclared, rfl⟩]
    rfl
  have hosted (member : Entry) (keys : List SuiteKey) (some : keys ≠ [])
      (listed : (member.planUnder? parent graph registry).map Plan.keys = .some keys) :
      Member.contacts parent graph registry (.contract member) = [.host ⟨"P"⟩ true] := by
    obtain ⟨plan, planned, rfl⟩ := Option.map_eq_some_iff.mp listed
    refine (inherits member).hosted ⟨plan, planned, .inl ?_⟩
    intro none
    rw [Plan.keys, none] at some
    exact some rfl
  have unhosted : Member.contacts parent graph registry (.contract lost) = [] := by
    refine (inherits lost).unhosted ?_
    rintro ⟨plan, planned, _⟩
    rw [show lost.planUnder? _ _ _ = none from lostPlan] at planned
    cases planned
  refine ⟨rfl, rfl, ?_, bareKeys, pickyKeys, lostPlan⟩
  rw [called]
  simp only [members, List.flatMap_cons, List.flatMap_nil]
  rw [hosted bare _ (List.cons_ne_nil _ _) bareKeys,
    hosted picky _ (List.cons_ne_nil _ _) pickyKeys, unhosted]
  rfl

end Conformance
