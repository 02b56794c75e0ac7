import Conformance.Proofs.Classification
import Conformance.Proofs.Inheritance

/-!
# Unimplemented capabilities and what runs

A report calls a capability unimplemented if it has suites and no entry point reaches it.
For that it reads the marker of each entry point and nothing else of it. What runs is
decided by the subjects: a suite runs if a subject satisfies its target and does not leave
it out.

So the two come apart in both directions. A marker reaches what it leaves out, and a member
with a target of its own is tested for what the marker of its parent may not reach.

A unit is traced back to its suite by the subject that it was assembled for, and not by its
content: reports of suites with similar names may be equal. Main statement:
`Context.unimplemented_by_markers`.
-/

namespace Conformance

/-- A subject is tested for what its target satisfies, unless the subject leaves it out. -/
def Subject.IsTestedFor (subject : Subject) (graph : Graph) (capability : Name) : Prop :=
  graph.Satisfies subject.target capability ∧ ¬ capability ∈ subject.skip

namespace Entry

/-- An entry point reaches what the target of its marker satisfies. -/
def Reaches (entry : Entry) (graph : Graph) (capability : Name) : Prop :=
  ∃ marker, entry.marker = some marker ∧ graph.Satisfies marker.target capability

/-- An entry point covers a capability if one of its subjects is tested for it. -/
def Covers (entry : Entry) (graph : Graph) (capability : Name) : Prop :=
  ∃ subject ∈ entry.subjects, subject.IsTestedFor graph capability

/-- Building an entry point yields the unit of a suite: the suite is on the plan of one of its
subjects, and the unit made from it stands with the other units of the subject in the battery. -/
def Yields (entry : Entry) (context : Context) (suite : Suite) : Prop :=
  ∃ battery subject plan source units,
    (Battery.build entry context).value = .ok battery ∧ subject ∈ entry.subjects ∧
    (subject.resolve context.graph context.registry).value = .ok plan ∧ suite ∈ plan.suites ∧
    subject.host.source = .ok source ∧
    (subject.assemble context.registry plan).value = .ok units ∧ units <:+: battery.units ∧
    RunUnit.ofSuite subject.entry source suite ∈ units

/-- Where a unit in the battery of an entry point comes from. -/
inductive Origin (entry : Entry) (context : Context) : RunUnit → Prop
  | suite (suite : Suite) (implementation : Name) (source : Source)
    (yields : entry.Yields context suite) :
    Origin entry context (.ofSuite implementation source suite)
  | ownTests (name target : Name) (tests : List TestCase) (source : Source) :
    Origin entry context (.direct name target tests source)
  | refusal (refusal : Refusal) : Origin entry context (.error (.ofRefusal refusal))
  | plain (unit : PlainUnit) : Origin entry context (.external unit)

/-- An entry point covers a capability as it is marked if its marker does not leave the capability
out and, should it be dynamic, there is a member and none has a marker of its own. -/
def CoversAsMarked (entry : Entry) (capability : Name) : Prop :=
  ∀ marker, entry.marker = some marker → capability ∉ marker.skip ∧
    ∀ members, entry.members = some members → (∃ member, .contract member ∈ members) ∧
      ∀ member, .contract member ∈ members → member.marker = none

/-! ## What an entry point covers, told by markers -/

/-- Members are supplied by the host of their parent, so all subjects of an entry point have the
same host. -/
theorem host_of_mem_subjects (entry : Entry) (subject : Subject)
    (among : subject ∈ entry.subjects) : subject.host = entry.host := by
  rcases (entry.mem_subjects_iff subject).mp among with
    ⟨_, accepted⟩ | ⟨parent, _, _, accepted, _, _, rfl⟩
  · obtain ⟨marker, _, rfl⟩ := (Subject.ofEntry_eq_ok_iff entry subject).mp accepted
    rfl
  · obtain ⟨marker, _, rfl⟩ := (Subject.ofEntry_eq_ok_iff entry parent).mp accepted
    rfl

/-- An entry point is tested for what its target satisfies and its marker does not skip. -/
theorem isTestedFor_ofMarker_iff (entry : Entry) (marker : Marker) (graph : Graph)
    (capability : Name) :
    (Subject.ofMarker entry marker).IsTestedFor graph capability ↔
      graph.Satisfies marker.target capability ∧ capability ∉ marker.skip := by
  rw [Subject.IsTestedFor, Subject.ofMarker, SortedSet.mem_ofList]

/-- A member is tested for what its own target satisfies, unless it or its parent leaves it out. -/
theorem isTestedFor_ofMember_iff (member parent : Entry) (marker : Marker) (graph : Graph)
    (capability : Name) :
    (Subject.ofMember member (.ofMarker parent marker)).IsTestedFor graph capability ↔
      graph.Satisfies (member.targetUnder marker) capability ∧
        ¬ member.LeavesOut marker capability := by
  rw [Subject.IsTestedFor, Subject.mem_skip_ofMember]
  rfl

/-- A static entry point covers what its marker reaches and does not leave out, and a dynamic one
what its members do. -/
theorem covers_iff (entry : Entry) (graph : Graph) (capability : Name) :
    entry.Covers graph capability ↔ ∃ marker, entry.marker = some marker ∧
      ((entry.members = none ∧ graph.Satisfies marker.target capability ∧
          capability ∉ marker.skip) ∨
        ∃ members member, entry.members = some members ∧ .contract member ∈ members ∧
          graph.Satisfies (member.targetUnder marker) capability ∧
          ¬ member.LeavesOut marker capability) := by
  simp only [Covers, entry.mem_subjects_iff, Subject.ofEntry_eq_ok_iff]
  constructor
  · rintro ⟨subject, ⟨static, marker, marked, rfl⟩ |
      ⟨parent, members, member, ⟨marker, marked, rfl⟩, dynamic, among, rfl⟩, tested⟩
    · exact ⟨marker, marked, .inl ⟨static, (isTestedFor_ofMarker_iff _ _ _ _).mp tested⟩⟩
    · exact ⟨marker, marked, .inr ⟨members, member, dynamic, among,
        (isTestedFor_ofMember_iff _ _ _ _ _).mp tested⟩⟩
  · rintro ⟨marker, marked, ⟨static, tested⟩ | ⟨members, member, dynamic, among, tested⟩⟩
    · exact ⟨_, .inl ⟨static, marker, marked, rfl⟩, (isTestedFor_ofMarker_iff _ _ _ _).mpr tested⟩
    · exact ⟨_, .inr ⟨_, members, member, ⟨marker, marked, rfl⟩, dynamic, among, rfl⟩,
        (isTestedFor_ofMember_iff _ _ _ _ _).mpr tested⟩

/-- Who is covered but not reached is covered by a member with a target of its own. -/
theorem own_target_of_covers (entry : Entry) (graph : Graph) (capability : Name)
    (covers : entry.Covers graph capability) (unreached : ¬ entry.Reaches graph capability) :
    ∃ marker members member own, entry.marker = some marker ∧ entry.members = some members ∧
      .contract member ∈ members ∧ member.marker = some own ∧
      graph.Satisfies own.target capability ∧ ¬ member.LeavesOut marker capability := by
  obtain ⟨marker, marked, ⟨_, satisfied, _⟩ | ⟨members, member, dynamic, among, satisfied, kept⟩⟩ :=
    (entry.covers_iff graph capability).mp covers
  · exact absurd ⟨marker, marked, satisfied⟩ unreached
  · cases marks : member.marker with
    | none =>
      rw [targetUnder, marks] at satisfied
      exact absurd ⟨marker, marked, satisfied⟩ unreached
    | some own =>
      rw [targetUnder, marks] at satisfied
      exact ⟨marker, members, member, own, marked, dynamic, among, marks, satisfied, kept⟩

/-- Who is reached but not covered is left out, or belongs to no target of a member. -/
theorem left_out_of_not_covers (entry : Entry) (graph : Graph) (capability : Name)
    (marker : Marker) (marked : entry.marker = some marker)
    (reached : graph.Satisfies marker.target capability)
    (uncovered : ¬ entry.Covers graph capability) :
    (entry.members = none ∧ capability ∈ marker.skip) ∨
      ∃ members, entry.members = some members ∧ ∀ member, .contract member ∈ members →
        member.LeavesOut marker capability ∨
          ∃ own, member.marker = some own ∧ ¬ graph.Satisfies own.target capability := by
  rw [covers_iff] at uncovered
  cases shape : entry.members with
  | none =>
    refine .inl ⟨rfl, ?_⟩
    by_contra kept
    exact uncovered ⟨marker, marked, .inl ⟨shape, reached, kept⟩⟩
  | some members =>
    refine .inr ⟨members, rfl, ?_⟩
    intro member among
    by_contra! kept
    have satisfied : graph.Satisfies (member.targetUnder marker) capability := by
      cases marks : member.marker with
      | none => rwa [targetUnder, marks]
      | some own =>
        rw [targetUnder, marks]
        exact kept.2 own marks
    exact uncovered ⟨marker, marked, .inr ⟨members, member, shape, among, satisfied, kept.1⟩⟩

/-- Who covers as it is marked covers what it reaches. -/
theorem covers_iff_reaches (entry : Entry) (graph : Graph) (capability : Name)
    (asMarked : entry.CoversAsMarked capability) :
    entry.Covers graph capability ↔ entry.Reaches graph capability := by
  constructor
  · intro covers
    by_contra unreached
    obtain ⟨marker, members, member, own, marked, dynamic, among, ownMarker, _⟩ :=
      entry.own_target_of_covers graph capability covers unreached
    have plain := ((asMarked marker marked).2 members dynamic).2 member among
    simp [plain] at ownMarker
  · rintro ⟨marker, marked, reached⟩
    obtain ⟨kept, inherited⟩ := asMarked marker marked
    by_contra uncovered
    rcases entry.left_out_of_not_covers graph capability marker marked reached uncovered with
      ⟨_, skipped⟩ | ⟨members, dynamic, leftOut⟩
    · exact kept skipped
    · obtain ⟨⟨member, among⟩, plain⟩ := inherited members dynamic
      have unmarked := plain member among
      rcases leftOut member among with (skipped | ⟨own, ownMarker, _⟩) | ⟨own, ownMarker, _⟩
      · exact kept skipped
      · simp [unmarked] at ownMarker
      · simp [unmarked] at ownMarker

end Entry

/-! ## What a build yields -/

namespace Entry

variable (entry : Entry) (context : Context)

/-- A suite that is yielded tests a capability that the entry point covers. -/
theorem covers_of_yields {history : List Suite} (tells : context.registry.Tells history)
    (suite : Suite) (yields : entry.Yields context suite) :
    entry.Covers context.graph suite.target := by
  obtain ⟨_, subject, plan, _, _, _, among, resolved, planned, _⟩ := yields
  have exactly := subject.exact_of_resolve context.graph tells plan resolved
  have target : suite.target ∈ plan.suites.map Suite.target := List.mem_map_of_mem planned
  have inside := (exactly.covered suite.target).mpr (.inr (.inr target))
  refine ⟨subject, among, (exactly.closure suite.target).mp inside, ?_⟩
  intro leftOut
  have skipped := (exactly.skipped suite.target).mpr ⟨inside, leftOut⟩
  exact (exactly.apart suite.target).2.1 ⟨skipped, target⟩

/-- What is covered is yielded, if there are suites for it and the host supplies a source. -/
theorem yields_of_covers {history : List Suite} (tells : context.registry.Tells history)
    (source : Source) (supplied : entry.host.source = .ok source) (capability : Name)
    (registered : ∃ suite ∈ history, suite.target = capability)
    (covers : entry.Covers context.graph capability) :
    ∃ suite, suite.target = capability ∧ entry.Yields context suite := by
  obtain ⟨subject, among, satisfied, kept⟩ := covers
  obtain ⟨plan, resolved⟩ :=
    subject.resolved_of_declared context.graph context.registry satisfied.declared
  have exactly := subject.exact_of_resolve context.graph tells plan resolved
  have inside := (exactly.closure capability).mpr satisfied
  obtain ⟨suite, planned, rfl⟩ : ∃ suite ∈ plan.suites, suite.target = capability := by
    rcases (exactly.covered capability).mp inside with skipped | untested | planned
    · exact absurd ((exactly.skipped capability).mp skipped).2 kept
    · obtain ⟨suite, member, same⟩ := registered
      exact absurd same (((exactly.untested capability).mp untested).2.2 suite member)
    · exact List.mem_map.mp planned
  have hosted : subject.host.source = .ok source :=
    (congrArg Host.source (entry.host_of_mem_subjects subject among)).trans supplied
  let units := subject.unitsFor context.registry source plan.suites
  have made : RunUnit.ofSuite subject.entry source suite ∈ units :=
    List.mem_append_right _ (List.mem_map_of_mem planned)
  have assembled : (subject.assemble context.registry plan).value = .ok units :=
    subject.assembled_of_source context.registry plan source hosted (List.ne_nil_of_mem made)
  have together : subject.units context.graph context.registry = .ok units :=
    (subject.units_of_resolved context.graph context.registry plan resolved).trans assembled
  obtain ⟨battery, built, _, block⟩ :=
    Battery.block_of_subject entry context subject among units together
  exact ⟨suite, rfl, battery, subject, plan, source, units, built, among, resolved, planned,
    hosted, assembled, block, made⟩

/-- A unit of a battery that is made from a suite is one that is yielded. -/
theorem origin_of_built (battery : Battery)
    (built : (Battery.build entry context).value = .ok battery) (unit : RunUnit)
    (listed : unit ∈ battery.units) : entry.Origin context unit := by
  rcases Battery.unit_of_built entry context battery built unit listed with
    ⟨subject, among, units, together, member⟩ | ⟨refusal, rfl⟩ | ⟨plain, rfl⟩
  · obtain ⟨plan, source, resolved, hosted, rfl⟩ :=
      subject.planned_of_units context.graph context.registry units together
    rcases List.mem_append.mp member with direct | planned
    · obtain ⟨_, rfl⟩ := (subject.mem_directUnits_iff context.registry source unit).mp direct
      exact .ownTests _ _ _ _
    · obtain ⟨suite, onPlan, rfl⟩ := List.mem_map.mp planned
      have assembled := subject.units_of_resolved context.graph context.registry plan resolved
      rw [together] at assembled
      obtain ⟨same, sameBuilt, _, block⟩ :=
        Battery.block_of_subject entry context subject among _ together
      exact .suite suite subject.entry source ⟨same, subject, plan, source, _, sameBuilt, among,
        resolved, onPlan, hosted, assembled.symm, block, member⟩
  · exact .refusal refusal
  · exact .plain plain

end Entry

/-- A capability in scope that has suites is listed if no entry point reaches it. -/
theorem Context.mem_unimplemented_iff (context : Context) {history : List Suite}
    (tells : context.registry.Tells history) (packages : List String) (capability : Name)
    (within : packages = [] ∨ ∃ package ∈ packages, ∃ rest, capability.text = package ++ rest)
    (registered : ∃ suite ∈ history, suite.target = capability) :
    capability ∈ (context.gather packages).value.unimplemented ↔
      ∀ entry ∈ context.entries, ¬ entry.Reaches context.graph capability := by
  rw [context.value_gather packages]
  have classifies := context.report_classifies tells packages
  have named := (classifies.names capability).mpr ⟨.inr registered, within⟩
  refine (classifies.unimplemented capability).trans ?_
  rw [and_iff_right named, and_iff_right registered]
  refine forall₂_congr fun entry _ => ?_
  constructor
  · rintro unreached ⟨marker, marked, reached⟩
    exact unreached marker marked reached.declared reached
  · intro unreached marker marked _ reached
    exact unreached ⟨marker, marked, reached⟩

/-- What the section of unimplemented capabilities has to say of a capability with suites, and what
it has not. -/
structure Report.AccountsFor (report : Report) (context : Context) (capability : Name) : Prop where
  /-- The section is about markers: whom no marker reaches is listed. -/
  listed : capability ∈ report.unimplemented ↔
    ∀ entry ∈ context.entries, ¬ entry.Reaches context.graph capability
  /-- What runs is about subjects: suites are yielded for what is covered. -/
  yielded : ∀ entry ∈ context.entries,
    (∃ suite, suite.target = capability ∧ entry.Yields context suite) ↔
      entry.Covers context.graph capability
  /-- No other unit is made from a suite. -/
  origins : ∀ entry ∈ context.entries, ∀ battery,
    (Battery.build entry context).value = .ok battery →
      ∀ unit ∈ battery.units, entry.Origin context unit
  /-- Suites run in spite of the section in members that name a target of their own. -/
  listedYetRun : capability ∈ report.unimplemented → ∀ entry ∈ context.entries,
    entry.Covers context.graph capability →
      ∃ marker members member own, entry.marker = some marker ∧ entry.members = some members ∧
        .contract member ∈ members ∧ member.marker = some own ∧
        context.graph.Satisfies own.target capability ∧ ¬ member.LeavesOut marker capability
  /-- An entry point that keeps a capability from the section without running its suites leaves it
  out; or it is dynamic, and each member leaves it out or names another target. -/
  reachedYetIdle : ∀ entry ∈ context.entries, ∀ marker, entry.marker = some marker →
    context.graph.Satisfies marker.target capability → ¬ entry.Covers context.graph capability →
      (entry.members = none ∧ capability ∈ marker.skip) ∨
        ∃ members, entry.members = some members ∧ ∀ member, .contract member ∈ members →
          member.LeavesOut marker capability ∨
            ∃ own, member.marker = some own ∧ ¬ context.graph.Satisfies own.target capability
  /-- Where all cover the capability as they are marked, it is listed if no suite of it runs. -/
  agrees : (∀ entry ∈ context.entries, entry.CoversAsMarked capability) →
    (capability ∈ report.unimplemented ↔
      ∀ entry ∈ context.entries, ∀ suite, entry.Yields context suite → suite.target ≠ capability)

/-- A capability in scope that has suites is unimplemented if and only if no marker of an entry
point has a target that satisfies it, whichever operations made the registry, provided that all
hosts supply sources. Its suites run in the entry points that cover it, and only there.

Both answers are told by the graph. The closure of a marker's target decides what is reached; the
plan of a subject, which is exact, decides what is covered, and since the host supplies a source
the units of the plan stand in the battery. -/
theorem Context.unimplemented_by_markers (graph : Graph) (operations : List Registry.Operation)
    (entries : List Entry) (packages : List String)
    (supplied : ∀ entry ∈ entries, ∃ source, entry.host.source = .ok source) (capability : Name)
    (within : packages = [] ∨ ∃ package ∈ packages, ∃ rest, capability.text = package ++ rest)
    (registered : ∃ suite ∈ Registry.history operations, suite.target = capability) :
    let context : Context := ⟨graph, Registry.after operations, entries⟩
    (context.gather packages).value.AccountsFor context capability := by
  intro context
  have tells : context.registry.Tells (Registry.history operations) :=
    Registry.tells_after operations
  have listed := context.mem_unimplemented_iff tells packages capability within registered
  have yielded (entry : Entry) (member : entry ∈ entries) :
      (∃ suite, suite.target = capability ∧ entry.Yields context suite) ↔
        entry.Covers graph capability := by
    constructor
    · rintro ⟨suite, rfl, yields⟩
      exact entry.covers_of_yields context tells suite yields
    · intro covers
      obtain ⟨source, hosted⟩ := supplied entry member
      exact entry.yields_of_covers context tells source hosted capability registered covers
  constructor
  case listed => exact listed
  case yielded => exact yielded
  case origins => exact fun entry _ => entry.origin_of_built context
  case listedYetRun =>
    intro unimplemented entry member covers
    exact entry.own_target_of_covers graph capability covers (listed.mp unimplemented entry member)
  case reachedYetIdle => exact fun entry _ => entry.left_out_of_not_covers graph capability
  case agrees =>
    intro asMarked
    rw [listed]
    refine forall₂_congr fun entry member => ?_
    rw [← entry.covers_iff_reaches graph capability (asMarked entry member),
      ← yielded entry member]
    simp only [not_exists, not_and, ne_eq]
    exact forall_congr' fun suite => imp_not_comm

/-- One entry point reaches a capability and leaves it out, and a member of another is tested for it
though no marker of theirs says so: the suite runs, and the capability is not listed. -/
theorem Context.unimplemented_by_markers_mixed :
    let suite := (Suite.new ⟨"KeepsTests"⟩ ⟨"Keeps"⟩).withProducerSetter
    let host : Host := ⟨⟨"CartTests"⟩, false, .ok fun _ => none⟩
    let skipping : Entry := ⟨⟨"CartTests"⟩, some ⟨⟨"Cart"⟩, [⟨"Keeps"⟩]⟩, host, [], none⟩
    let member : Entry := ⟨⟨"CartMember"⟩, some ⟨⟨"Cart"⟩, []⟩, host, [], none⟩
    let parent : Entry := ⟨⟨"BoxTests"⟩, some ⟨⟨"Box"⟩, []⟩, host, [], some [.contract member]⟩
    let cart := (TypeDecl.ofClass ⟨"Cart"⟩).extending ⟨"Keeps"⟩
    let graph := Graph.ofList [.ofClass ⟨"Box"⟩, cart]
    let context : Context := ⟨graph, Registry.after [.register suite], [skipping, parent]⟩
    ⟨"Keeps"⟩ ∉ (context.gather ["Ke"]).value.unimplemented ∧
      (∃ other, other.target = ⟨"Keeps"⟩ ∧ parent.Yields context other) ∧
      ¬ ∃ other, other.target = ⟨"Keeps"⟩ ∧ skipping.Yields context other := by
  intro suite host skipping member parent cart graph context
  have supplied : ∀ entry ∈ [skipping, parent], ∃ source, entry.host.source = .ok source :=
    List.forall_mem_cons.mpr ⟨⟨_, rfl⟩, List.forall_mem_singleton.mpr ⟨_, rfl⟩⟩
  have accounts := unimplemented_by_markers graph [.register suite] [skipping, parent] ["Ke"]
    supplied ⟨"Keeps"⟩ (.inr ⟨"Ke", List.mem_singleton_self _, "eps", by decide⟩)
    ⟨suite, List.mem_singleton_self suite, rfl⟩
  have declared : graph.get? ⟨"Cart"⟩ = some cart := by decide
  have satisfied : graph.Satisfies ⟨"Cart"⟩ ⟨"Keeps"⟩ :=
    .ofInterface declared rfl (List.mem_singleton_self _)
  have first : skipping ∈ context.entries := List.mem_cons_self
  have second : parent ∈ context.entries := List.mem_cons_of_mem _ (List.mem_singleton_self _)
  refine ⟨?listed, ?run, ?idle⟩
  case listed => exact fun listed => accounts.listed.mp listed skipping first ⟨_, rfl, satisfied⟩
  case run =>
    refine (accounts.yielded parent second).mpr ((parent.covers_iff graph _).mpr ?_)
    exact ⟨_, rfl, .inr ⟨_, member, rfl, List.mem_singleton_self _, satisfied,
      by simp [Entry.LeavesOut, member]⟩⟩
  case idle =>
    rw [accounts.yielded skipping first, skipping.covers_iff]
    rintro ⟨_, ⟨⟩, ⟨_, _, kept⟩ | ⟨_, _, ⟨⟩, _⟩⟩
    exact kept (List.mem_singleton_self _)

/-- The section and the runs differ. A static entry point that leaves out what its marker reaches
keeps it from the section, although its suite never runs; and a member with a target of its own runs
the suite of a capability that is listed. -/
theorem Context.unimplemented_is_not_idle :
    let own : TestCase := ⟨"adds", ⟨"CartTests"⟩, .done⟩
    let suite := (Suite.new ⟨"KeepsTests"⟩ ⟨"Keeps"⟩).withProducerSetter
    let host : Host := ⟨⟨"CartTests"⟩, false, .ok fun _ => none⟩
    let skipping : Entry := ⟨⟨"CartTests"⟩, some ⟨⟨"Cart"⟩, [⟨"Keeps"⟩]⟩, host, [own], none⟩
    let member : Entry := ⟨⟨"CartMember"⟩, some ⟨⟨"Cart"⟩, []⟩, host, [], none⟩
    let parent : Entry := ⟨⟨"CartTests"⟩, some ⟨⟨"Box"⟩, []⟩, host, [], some [.contract member]⟩
    let cart := (TypeDecl.ofClass ⟨"Cart"⟩).extending ⟨"Keeps"⟩
    let graph := Graph.ofList [.ofClass ⟨"Box"⟩, cart]
    let context (entry : Entry) : Context := ⟨graph, Registry.after [.register suite], [entry]⟩
    (⟨"Keeps"⟩ ∉ ((context skipping).gather []).value.unimplemented ∧
        ∀ other, skipping.Yields (context skipping) other → other.target ≠ ⟨"Keeps"⟩) ∧
      ⟨"Keeps"⟩ ∈ ((context parent).gather []).value.unimplemented ∧
        ∃ other, other.target = ⟨"Keeps"⟩ ∧ parent.Yields (context parent) other := by
  intro own suite host skipping member parent cart graph context
  have tells : (Registry.after [.register suite]).Tells [suite] :=
    Registry.tells_after [.register suite]
  have registered : ∃ other ∈ [suite], other.target = ⟨"Keeps"⟩ :=
    ⟨suite, List.mem_singleton_self suite, rfl⟩
  have declared : graph.get? ⟨"Cart"⟩ = some cart := by decide
  have satisfied : graph.Satisfies ⟨"Cart"⟩ ⟨"Keeps"⟩ :=
    .ofInterface declared rfl (List.mem_singleton_self _)
  have boxDeclared : graph.get? ⟨"Box"⟩ = some (.ofClass ⟨"Box"⟩) := by decide
  have unsatisfied : ¬ graph.Satisfies ⟨"Box"⟩ ⟨"Keeps"⟩ := by
    rw [graph.satisfies_iff_of_lone ⟨"Box"⟩ ⟨"Keeps"⟩ _ boxDeclared rfl nofun nofun]
    exact List.not_mem_nil
  refine ⟨⟨?reached, ?idle⟩, ?listed, ?run⟩
  case reached =>
    rw [(context skipping).mem_unimplemented_iff tells [] _ (.inl rfl) registered]
    exact fun unreached => unreached skipping (List.mem_singleton_self _) ⟨_, rfl, satisfied⟩
  case idle =>
    intro other yields same
    have covers := skipping.covers_of_yields (context skipping) tells other yields
    rw [same] at covers
    obtain ⟨_, ⟨⟩, ⟨_, _, kept⟩ | ⟨_, _, ⟨⟩, _⟩⟩ := (skipping.covers_iff graph _).mp covers
    exact kept (List.mem_singleton_self _)
  case listed =>
    rw [(context parent).mem_unimplemented_iff tells [] _ (.inl rfl) registered]
    refine List.forall_mem_singleton.mpr ?_
    rintro ⟨_, ⟨⟩, reached⟩
    exact unsatisfied reached
  case run =>
    refine parent.yields_of_covers (context parent) tells _ rfl _ registered ?_
    refine (parent.covers_iff graph _).mpr ⟨_, rfl, .inr ⟨_, member, rfl,
      List.mem_singleton_self _, satisfied, ?_⟩⟩
    simp [Entry.LeavesOut, member]

end Conformance
