import Conformance.Proofs.StaticBattery
import Mathlib.Data.List.Perm.Basic

/-!
# How building a dynamic entry point ends

A dynamic entry point is refused if it has no marker, and then its members are not even
asked for, or if it supplies none. Nothing else refuses it: what goes wrong with a
member stays with this member.

Each member stands for a static entry point, which inherits the host and the exclusions
of its parent. `Member.share` is what this static entry point builds, or one failing
unit if it is refused. It is told by the context, the marker, the host and the member
alone, so no member can change what another one contributes.

`DynamicBuild` is the specification, and `build_dynamic_isolates` says that every build of
a dynamic entry point meets it. The members are resolved before the first of them is
assembled, so a member may fail in either phase; the warnings of both phases together
are one for each member that is refused.
-/

namespace Conformance

/-- The static entry point that a member stands for. It tests its own target if it has one and that
of the parent's marker otherwise, leaves out what either of them leaves out, and is hosted by the
host of the parent. -/
def Entry.standIn (member : Entry) (marker : Marker) (host : Host) : Entry where
  name := member.name
  marker := some {
    target := member.marker.elim marker.target Marker.target
    skip := marker.skip ++ member.marker.elim [] Marker.skip }
  host
  tests := member.tests
  members := none

namespace Member

/-- Why a member is refused, if it is. A plain unit never is. -/
def refusal? (context : Context) (marker : Marker) (host : Host) : Member Entry → Option Refusal
  | .plain _ => none
  | .contract member =>
    match (Battery.build (member.standIn marker host) context).value with
    | .ok _ => none
    | .error refusal => some refusal

/-- What a member contributes to a battery: a plain unit itself, any other member what it builds on
its own, or the report of its refusal. -/
def share (context : Context) (marker : Marker) (host : Host) : Member Entry → List RunUnit
  | .plain unit => [.external unit]
  | .contract member =>
    match (Battery.build (member.standIn marker host) context).value with
    | .ok battery => battery.units
    | .error refusal => [.error (.ofRefusal refusal)]

end Member

/-- A stand-in builds what the member comes to as a subject of its parent, whoever the parent is,
provided that the host supplies the same source. -/
theorem Battery.value_build_standIn (parent member : Entry) (marker : Marker) (host : Host)
    (context : Context) (source : host.source = parent.host.source) :
    (build (member.standIn marker host) context).value =
      ((Subject.ofMember member (Subject.ofMarker parent marker)).units context.graph
        context.registry).map fun units => ⟨member.name, units⟩ := by
  have skip : SortedSet.ofList (marker.skip ++ member.marker.elim [] Marker.skip) =
      SortedSet.ofList marker.skip ∪ SortedSet.ofList (member.marker.elim [] Marker.skip) := by
    refine SortedSet.ext ?_
    intro capability
    simp only [SortedSet.mem_union, SortedSet.mem_ofList, List.mem_append]
  have accepted := Subject.ofEntry_of_marked (member.standIn marker host) _ rfl
  rw [(build_of_static _ context rfl).1, value_staticUnits, accepted]
  refine congrArg (Except.map _) ?_
  exact Subject.units_congr _ context.graph context.registry
    (Subject.ofMember member (Subject.ofMarker parent marker)) rfl rfl skip source rfl

namespace Member

section Parent

variable (parent : Entry) (marker : Marker) (host : Host) (context : Context)
variable (source : host.source = parent.host.source)

include source in
/-- The share of a member is the block that it contributes for its parent. -/
theorem share_eq_block :
    share context marker host =
      block (Subject.ofMarker parent marker) context.graph context.registry := by
  funext member
  cases member with
  | plain unit => rfl
  | contract member =>
    simp only [share, block, Battery.value_build_standIn parent member marker host context source]
    cases (Subject.ofMember member (Subject.ofMarker parent marker)).units context.graph
      context.registry <;> rfl

include source in
/-- A member that stands for a contract is refused exactly if its own subject is refused its units.
-/
theorem refusal?_contract (member : Entry) :
    refusal? context marker host (.contract member) =
      match (Subject.ofMember member (Subject.ofMarker parent marker)).units context.graph
        context.registry with
      | .ok _ => none
      | .error refusal => some refusal := by
  simp only [refusal?, Battery.value_build_standIn parent member marker host context source]
  cases (Subject.ofMember member (Subject.ofMarker parent marker)).units context.graph
    context.registry <;> rfl

end Parent

/-- Every member contributes something. -/
theorem block_ne_nil (parent : Subject) (graph : Graph) (registry : Registry)
    (member : Member Entry) : member.block parent graph registry ≠ [] := by
  cases member with
  | plain unit => exact List.cons_ne_nil _ _
  | contract member =>
    rw [block]
    split
    · next units assembled =>
      exact (Subject.ofMember member parent).units_ne_nil graph registry units assembled
    · exact List.cons_ne_nil _ _

end Member

/-- Whether a line of the log warns. -/
def LogRecord.isWarning (record : LogRecord) : Bool := decide (record.level = .warn)

/-- What a capability gives reason to remark is information. -/
theorem Finding.level_of_remark? (finding : Finding) (entry capability : Name) (record : LogRecord)
    (remark : finding.remark? entry capability = some record) : record.level = .info := by
  cases finding with
  | skipped => exact Option.some.inj remark ▸ rfl
  | untested => exact Option.some.inj remark ▸ rfl
  | tested suites => cases remark

/-- Complaints are errors. -/
theorem Suite.level_of_complaints (suite : Suite) (record : LogRecord)
    (complaint : record ∈ suite.complaints) : record.level = .error := by
  unfold complaints at complaint
  split at complaint
  · exact absurd complaint List.not_mem_nil
  · rcases List.mem_cons.mp complaint with rfl | detail
    · rfl
    · obtain ⟨defect, _, rfl⟩ := List.mem_map.mp detail
      rfl

namespace Subject

variable (subject : Subject) (graph : Graph) (registry : Registry)

/-- Resolving a subject warns of nothing. -/
theorem warnings_resolve :
    (subject.resolve graph registry).log.filter LogRecord.isWarning = [] := by
  rw [subject.log_resolve, List.filter_eq_nil_iff]
  intro record logged warning
  have level : record.level = .warn := of_decide_eq_true warning
  split at logged
  · exact absurd logged List.not_mem_nil
  · rcases List.mem_cons.mp logged with rfl | remarked
    · cases level
    · obtain ⟨capability, _, remark⟩ := List.mem_filterMap.mp remarked
      have information := (subject.finding registry capability).level_of_remark? _ _ record remark
      rw [information] at level
      cases level

/-- Assembling a subject warns of nothing: what is wrong with a suite is an error. -/
theorem warnings_assemble (plan : Plan) :
    (subject.assemble registry plan).log.filter LogRecord.isWarning = [] := by
  rw [subject.log_assemble, List.filter_eq_nil_iff]
  intro record logged warning
  have level : record.level = .warn := of_decide_eq_true warning
  split at logged
  · split at logged
    · exact absurd logged List.not_mem_nil
    · obtain ⟨suite, _, complaint⟩ := List.mem_flatMap.mp logged
      rw [suite.level_of_complaints record complaint] at level
      cases level
  · exact absurd logged List.not_mem_nil

end Subject

namespace Member

/-- Resolving a member and assembling what this leaves warn once together if the member is refused,
in whichever of the two phases that happens, and not at all otherwise. -/
theorem warnings_of_contract (parent : Subject) (graph : Graph) (registry : Registry)
    (member : Entry) :
    let resolved := (Member.contract member).resolve parent graph registry
    let assembled := MemberResolution.assemble parent.entry registry resolved.value
    resolved.log.filter LogRecord.isWarning ++ assembled.log.filter LogRecord.isWarning =
      match (Subject.ofMember member parent).units graph registry with
      | .ok _ => []
      | .error refusal => [refusal.warning member.name parent.entry] := by
  intro resolved assembled
  have name : (Subject.ofMember member parent).entry = member.name := rfl
  simp only [resolved, assembled, log_resolve_contract, value_resolve_contract]
  generalize Subject.ofMember member parent = subject at name ⊢
  rw [List.filter_append, subject.warnings_resolve graph registry, List.nil_append]
  cases outcome : (subject.resolve graph registry).value with
  | error refusal =>
    have refused : subject.units graph registry = .error refusal := by
      rw [Subject.units, outcome]
    rw [refused]
    rfl
  | ok plan =>
    have together := subject.units_of_resolved graph registry plan outcome
    rw [MemberResolution.log_assemble_resolved, List.filter_append,
      subject.warnings_assemble registry plan, together]
    cases assembly : (subject.assemble registry plan).value with
    | ok units => rfl
    | error refusal =>
      have refused : subject.units graph registry = .error refusal := together.trans assembly
      have named : refusal.entry = member.name :=
        (subject.entry_of_refusal graph registry refusal refused).trans name
      rw [← named]
      rfl

/-- The warnings of both phases are those of the refused members, one for each. -/
theorem warnings_of_members (parent : Entry) (marker : Marker) (context : Context)
    (members : List (Member Entry)) :
    let resolved (member : Member Entry) :=
      member.resolve (Subject.ofMarker parent marker) context.graph context.registry
    let assembled (member : Member Entry) :=
      MemberResolution.assemble parent.name context.registry (resolved member).value
    ((members.flatMap fun member => (resolved member).log) ++
        members.flatMap fun member => (assembled member).log).filter LogRecord.isWarning
      |>.Perm (members.filterMap fun member =>
        (member.refusal? context marker parent.host).map fun refusal =>
          refusal.warning refusal.entry parent.name) := by
  intro resolved assembled
  -- no member is warned of in both phases: one that is not resolved is not assembled
  have once (member : Member Entry) :
      (resolved member).log.filter LogRecord.isWarning ++
          (assembled member).log.filter LogRecord.isWarning =
        ((member.refusal? context marker parent.host).map fun refusal =>
          refusal.warning refusal.entry parent.name).toList := by
    cases member with
    | plain unit => rfl
    | contract member =>
      have warned := warnings_of_contract (Subject.ofMarker parent marker) context.graph
        context.registry member
      rw [refusal?_contract parent marker parent.host context rfl member]
      refine warned.trans ?_
      cases outcome : (Subject.ofMember member (Subject.ofMarker parent marker)).units
        context.graph context.registry with
      | ok units => rfl
      | error refusal =>
        have named : refusal.entry = member.name :=
          Subject.entry_of_refusal _ context.graph context.registry refusal outcome
        rw [← named]
        rfl
  rw [List.filter_append, List.filter_flatMap, List.filter_flatMap,
    List.filterMap_eq_flatMap_toList]
  simp only [← once]
  exact List.flatMap_append_perm _ _ _

end Member

/-- What the shares of members have to be under the marker of their parent: never empty, a plain
unit as it is, and for any other member what resolving and assembling its own subject gives, or one
failing unit under the name of the member with the wording of the refusal. -/
structure Member.SharesExact (context : Context) (parent : Entry) (marker : Marker)
    (share : Member Entry → List RunUnit) : Prop where
  nonempty : ∀ member, share member ≠ []
  plain : ∀ unit, share (.plain unit) = [.external unit]
  assembled : ∀ member units,
    (Subject.ofMember member (Subject.ofMarker parent marker)).units context.graph
      context.registry = .ok units → share (.contract member) = units
  failed : ∀ member refusal,
    (Subject.ofMember member (Subject.ofMarker parent marker)).units context.graph
      context.registry = .error refusal →
    share (.contract member) =
        [.error ⟨member.name.text, "initialization of " ++ member.name.text,
          .initialization refusal.message⟩] ∧
      ((∃ unknown, refusal = .unknownTarget member.name unknown) ∨
        refusal = .noTests member.name ∨
        ∃ reason, parent.host.source = .error reason ∧
          refusal = .instantiation member.name reason)
  /-- Refused are those members whose own subject is. -/
  refusals : ∀ member refusal,
    (Member.contract member).refusal? context marker parent.host = some refusal ↔
      (Subject.ofMember member (Subject.ofMarker parent marker)).units context.graph
        context.registry = .error refusal

/-- The share of each member is told by the member and its parent alone. -/
theorem Member.share_exact (context : Context) (parent : Entry) (marker : Marker) :
    SharesExact context parent marker (share context marker parent.host) := by
  rw [share_eq_block parent marker parent.host context rfl]
  constructor
  case nonempty => exact block_ne_nil _ context.graph context.registry
  case plain => exact fun _ => rfl
  case assembled =>
    intro member units assembled
    simp only [block, assembled]
  case failed =>
    intro member refusal refused
    have named : refusal.entry = member.name :=
      Subject.entry_of_refusal _ context.graph context.registry refusal refused
    refine ⟨?_, Subject.refusal_of_units _ context.graph context.registry refusal refused⟩
    simp only [block, refused, ErrorUnit.ofRefusal, named]
  case refusals =>
    intro member refusal
    rw [refusal?_contract parent marker parent.host context rfl member]
    cases (Subject.ofMember member (Subject.ofMarker parent marker)).units context.graph
      context.registry <;> simp

/-- What building a dynamic entry point has to come to. -/
structure DynamicBuild (context : Context) (entry : Entry) (members : List (Member Entry))
    (outcome : Recorded (Except Refusal Battery)) : Prop where
  /-- There are two reasons for a refusal, and a missing marker is noticed first. -/
  refused : ∀ refusal, outcome.value = .error refusal ↔
    (entry.marker = none ∧ refusal = .missingMarker entry.name) ∨
      (entry.marker ≠ none ∧ members = [] ∧ refusal = .noMembers entry.name)
  /-- Without a marker nobody is called. -/
  unasked : entry.marker = none → outcome.trace = []
  /-- With a marker the members are asked for, and only once. -/
  asked : entry.marker ≠ none → ∃ later, outcome.trace = .members members.length :: later ∧
    ∀ count, .members count ∉ later
  /-- The units are the shares of the members, one after the other. -/
  built : ∀ marker, entry.marker = some marker → members ≠ [] →
    outcome.value = .ok ⟨entry.name, members.flatMap (Member.share context marker entry.host)⟩
  shares : ∀ marker, entry.marker = some marker →
    Member.SharesExact context entry marker (Member.share context marker entry.host)
  /-- Whatever other members there are, under whichever name and owner of the host, a member has the
  same share. -/
  isolated : ∀ marker, entry.marker = some marker →
    ∀ (other : Entry) (others : List (Member Entry)),
      other.members = some others → others ≠ [] → other.marker = some marker →
      other.host.source = entry.host.source →
      (Battery.build other context).value =
        .ok ⟨other.name, others.flatMap (Member.share context marker entry.host)⟩
  /-- Refused members are warned of, once for each of them. -/
  warned : ∀ marker, entry.marker = some marker →
    (outcome.log.filter LogRecord.isWarning).Perm
      (members.filterMap fun member =>
        (member.refusal? context marker entry.host).map fun refusal =>
          refusal.warning refusal.entry entry.name)
  unlogged : entry.marker = none → outcome.log = []

namespace Battery

/-- With a marker and a member there is a battery, and it holds the shares in order. Any host with
the same source may stand for the host of the entry point. -/
theorem value_build_of_members (entry : Entry) (context : Context) (members : List (Member Entry))
    (dynamic : entry.members = some members) (present : members ≠ []) (marker : Marker)
    (marked : entry.marker = some marker) (host : Host) (source : host.source = entry.host.source) :
    (build entry context).value =
      .ok ⟨entry.name, members.flatMap (Member.share context marker host)⟩ := by
  rw [value_build_of_some entry context members dynamic,
    Subject.ofEntry_of_marked entry marker marked,
    Member.share_eq_block entry marker host context source]
  simp only [present, if_false]

/-- Assembling what became of a member never asks for members. -/
theorem members_not_in_assembly (parent : Name) (registry : Registry)
    (resolution : MemberResolution) (count : Nat) :
    .members count ∉ (resolution.assemble parent registry).trace := by
  cases resolution with
  | passedThrough unit => exact List.not_mem_nil
  | failed refusal => exact List.not_mem_nil
  | resolved subject plan =>
    intro asked
    rw [MemberResolution.trace_assemble_resolved, subject.trace_assemble] at asked
    split at asked
    · cases List.mem_singleton.mp asked
    · exact absurd asked List.not_mem_nil

/-- Building a dynamic entry point isolates its members from each other.

The two refusals are those of the entry point itself. Resolving all members first and assembling
them afterwards comes to the same units as doing both member by member, and what is done for a
member looks at nothing but the member, the marker, the host and the context. A member that is
refused is noticed in one of the two phases and warned of there. -/
theorem build_dynamic_isolates (context : Context) (entry : Entry) (members : List (Member Entry))
    (dynamic : entry.members = some members) :
    DynamicBuild context entry members (build entry context) := by
  have isDynamic : entry.isDynamic = true := by rw [Entry.isDynamic, dynamic]; rfl
  obtain ⟨value, log, trace⟩ := build_of_dynamic entry context isDynamic
  rw [value_dynamicUnits entry context members dynamic] at value
  rw [log_dynamicUnits entry context members dynamic] at log
  rw [trace_dynamicUnits entry context members dynamic] at trace
  constructor
  case refused =>
    intro refusal
    rw [value]
    cases marked : entry.marker with
    | none =>
      have unmarked : Subject.ofEntry entry = .error (.missingMarker entry.name) := by
        rw [Subject.ofEntry, marked]
      simp [unmarked, Except.map, eq_comm]
    | some marker =>
      rw [Subject.ofEntry_of_marked entry marker marked]
      by_cases none : members = []
      · simp [none, Except.map, eq_comm]
      · simp [none, Except.map]
  case unasked =>
    intro unmarked
    rw [trace, Subject.ofEntry, unmarked]
  case asked =>
    intro marked
    obtain ⟨marker, marked⟩ := Option.ne_none_iff_exists'.mp marked
    rw [Subject.ofEntry_of_marked entry marker marked] at trace
    refine ⟨_, trace, ?_⟩
    intro count asked
    obtain ⟨member, _, again⟩ := List.mem_flatMap.mp asked
    exact members_not_in_assembly _ _ _ count again
  case built =>
    intro marker marked present
    exact value_build_of_members entry context members dynamic present marker marked entry.host rfl
  case shares =>
    intro marker _
    exact Member.share_exact context entry marker
  case isolated =>
    intro marker _ other others otherDynamic present marked source
    exact value_build_of_members other context others otherDynamic present marker marked entry.host
      source.symm
  case warned =>
    intro marker marked
    rw [log, Subject.ofEntry_of_marked entry marker marked]
    exact Member.warnings_of_members entry marker context members
  case unlogged =>
    intro unmarked
    rw [log, Subject.ofEntry, unmarked]

/-- A member with an undeclared target leaves a failing unit and one warning; its siblings are there
as if it were not. -/
theorem build_dynamic_isolates_unknown :
    let suite := (Suite.new ⟨"KeepsTests"⟩ ⟨"Keeps"⟩).withProducerSetter
    let context : Context := ⟨Graph.ofList [(TypeDecl.ofClass ⟨"Cart"⟩).extending ⟨"Keeps"⟩],
      Registry.after [.register suite], []⟩
    let source : Source := fun _ => none
    let host : Host := ⟨⟨"AllCarts"⟩, true, .ok source⟩
    let notes : PlainUnit := ⟨"notes", [], []⟩
    let lost : Entry := ⟨⟨"Lost"⟩, some ⟨⟨"Ghost"⟩, []⟩, host, [], none⟩
    let basket : Entry := ⟨⟨"Basket"⟩, none, host, [], none⟩
    let members := [.plain notes, .contract lost, .contract basket]
    let entry : Entry := ⟨⟨"AllCarts"⟩, some ⟨⟨"Cart"⟩, []⟩, host, [], some members⟩
    let refusal := Refusal.unknownTarget ⟨"Lost"⟩ ⟨⟨"Ghost"⟩⟩
    entry.members = some members ∧
      (build entry context).value = .ok ⟨⟨"AllCarts"⟩, [.external notes,
        .error ⟨"Lost", "initialization of Lost", .initialization refusal.message⟩,
        .contract ⟨"Basket"⟩ suite source]⟩ ∧
      (build entry context).log.filter LogRecord.isWarning =
        [refusal.warning ⟨"Lost"⟩ ⟨"AllCarts"⟩] := by
  intro suite context source host notes lost basket members entry refusal
  have isolates := build_dynamic_isolates context entry members rfl
  have marked : entry.marker = some ⟨⟨"Cart"⟩, []⟩ := rfl
  have shares := isolates.shares _ marked
  let parent := Subject.ofMarker entry ⟨⟨"Cart"⟩, []⟩
  have undeclared : context.graph.get? ⟨"Ghost"⟩ = none := by decide
  have lostRefused : (Subject.ofMember lost parent).units context.graph context.registry =
      .error refusal := by
    rw [Subject.units, (Subject.resolve_eq_error_iff _ _ _ refusal).mpr ⟨undeclared, rfl⟩]
  let subject := Subject.ofMember basket parent
  let plan := Plan.ofClosure context.registry subject (SortedSet.ofList [⟨"Keeps"⟩])
  have closure : context.graph.closure subject.target = .ok (SortedSet.ofList [⟨"Keeps"⟩]) := by
    refine context.graph.closure_of_lone ⟨"Cart"⟩ (.extending (.ofClass ⟨"Cart"⟩) ⟨"Keeps"⟩)
      (by decide) rfl ?_ (List.forall_mem_singleton.mpr (by decide))
    rintro superclass ⟨⟩
  have resolved : (subject.resolve context.graph context.registry).value = .ok plan := by
    rw [subject.value_resolve, closure]
  have suites : plan.suites = [suite] := by cbv
  have something : subject.hasTests context.registry plan = true :=
    (subject.hasTests_iff context.registry plan).mpr (.inl (suites ▸ List.cons_ne_nil _ _))
  have basketAssembled : subject.units context.graph context.registry =
      .ok [.contract ⟨"Basket"⟩ suite source] := by
    rw [subject.units_of_resolved _ _ plan resolved, subject.value_assemble, if_pos something,
      suites]
    rfl
  have notesKept : (Member.plain notes).refusal? context ⟨⟨"Cart"⟩, []⟩ entry.host = none := rfl
  have basketKept : (Member.contract basket).refusal? context ⟨⟨"Cart"⟩, []⟩ entry.host = none := by
    refine Option.eq_none_iff_forall_not_mem.mpr ?_
    intro other refused
    have refusedToo := (shares.refusals basket other).mp refused
    rw [basketAssembled] at refusedToo
    cases refusedToo
  have lostNoticed := (shares.refusals lost refusal).mpr lostRefused
  refine ⟨rfl, ?_, ?_⟩
  · rw [isolates.built _ marked (List.cons_ne_nil _ _)]
    simp only [members, List.flatMap_cons, List.flatMap_nil, shares.plain,
      (shares.failed lost refusal lostRefused).1, shares.assembled basket _ basketAssembled]
    rfl
  · have warned := isolates.warned _ marked
    simp only [members, List.filterMap_cons, List.filterMap_nil, notesKept, lostNoticed, basketKept,
      Option.map_none, Option.map_some] at warned
    exact List.perm_singleton.mp warned

end Battery

end Conformance
