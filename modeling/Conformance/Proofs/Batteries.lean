import Conformance.Battery
import Conformance.Proofs.Assembly

/-!
# What a battery is made of

A static entry point is resolved and assembled as one subject. A member of a dynamic
entry point contributes a block of units: a plain unit stands for itself, any other
member is resolved and assembled as a subject of its own, and a member that is refused
leaves one failing unit. Resolving all members before the first is assembled makes no
difference to the units: they are the blocks one after the other.

`Entry.subjects` are the implementations that an entry point puts to the test, and
`block_of_subject` says that the units of each stand together in the battery.
-/

namespace Conformance

namespace Member

/-- The block of units that a member contributes. -/
def block (parent : Subject) (graph : Graph) (registry : Registry) : Member Entry → List RunUnit
  | .plain unit => [.external unit]
  | .contract entry =>
    match (Subject.ofMember entry parent).units graph registry with
    | .ok units => units
    | .error refusal => [.error (.ofRefusal refusal)]

/-- Assembling what resolving leaves of a member gives its block. -/
theorem value_assemble_resolve (parent : Subject) (graph : Graph) (registry : Registry)
    (name : Name) (member : Member Entry) :
    (MemberResolution.assemble name registry (member.resolve parent graph registry).value).value =
      member.block parent graph registry := by
  cases member with
  | plain unit => rfl
  | contract entry =>
    simp only [resolve, block, Subject.units, Recorded.value_bind]
    cases ((Subject.ofMember entry parent).resolve graph registry).value with
    | error refusal => rfl
    | ok plan =>
      simp only [Recorded.value_pure, MemberResolution.assemble, Recorded.value_bind]
      cases ((Subject.ofMember entry parent).assemble registry plan).value <;> rfl

/-- A member is resolved as a subject on its own, and its refusal is kept. -/
theorem value_resolve_contract (parent : Subject) (graph : Graph) (registry : Registry)
    (member : Entry) :
    (resolve parent graph registry (.contract member)).value =
      match ((Subject.ofMember member parent).resolve graph registry).value with
      | .ok plan => .resolved (Subject.ofMember member parent) plan
      | .error refusal => .failed refusal := by
  simp only [resolve, Recorded.value_bind]
  cases ((Subject.ofMember member parent).resolve graph registry).value <;> rfl

/-- The warning that a member cannot be resolved follows what resolving it logged. -/
theorem log_resolve_contract (parent : Subject) (graph : Graph) (registry : Registry)
    (member : Entry) :
    (resolve parent graph registry (.contract member)).log =
      ((Subject.ofMember member parent).resolve graph registry).log ++
        match ((Subject.ofMember member parent).resolve graph registry).value with
        | .ok _ => []
        | .error refusal => [refusal.warning member.name parent.entry] := by
  simp only [resolve, Recorded.log_bind]
  cases ((Subject.ofMember member parent).resolve graph registry).value <;> rfl

/-- Resolving a member calls nobody. -/
theorem trace_resolve (parent : Subject) (graph : Graph) (registry : Registry)
    (member : Member Entry) : (member.resolve parent graph registry).trace = [] := by
  cases member with
  | plain unit => rfl
  | contract entry =>
    simp only [resolve, Recorded.trace_bind, Subject.trace_resolve, List.nil_append]
    cases ((Subject.ofMember entry parent).resolve graph registry).value <;> rfl

end Member

/-- The warning that a member cannot be assembled follows what assembling it logged. -/
theorem MemberResolution.log_assemble_resolved (parent : Name) (registry : Registry)
    (subject : Subject) (plan : Plan) :
    (assemble parent registry (.resolved subject plan)).log =
      (subject.assemble registry plan).log ++
        match (subject.assemble registry plan).value with
        | .ok _ => []
        | .error refusal => [refusal.warning refusal.entry parent] := by
  simp only [assemble, Recorded.log_bind]
  cases (subject.assemble registry plan).value <;> rfl

/-- A warning calls nobody. -/
theorem MemberResolution.trace_assemble_resolved (parent : Name) (registry : Registry)
    (subject : Subject) (plan : Plan) :
    (assemble parent registry (.resolved subject plan)).trace =
      (subject.assemble registry plan).trace := by
  simp only [assemble, Recorded.trace_bind]
  cases (subject.assemble registry plan).value <;> simp [Recorded.logged]

namespace Battery

/-- The units of a static entry point are those of its subject. -/
theorem value_staticUnits (entry : Entry) (context : Context) :
    (staticUnits entry context).value =
      match Subject.ofEntry entry with
      | .error refusal => .error refusal
      | .ok subject => subject.units context.graph context.registry := by
  unfold staticUnits
  cases Subject.ofEntry entry with
  | error refusal => rfl
  | ok subject =>
    simp only [Recorded.value_bind, Subject.units]
    cases (subject.resolve context.graph context.registry).value <;> rfl

/-- A static entry point contacts whom its subject contacts, and nobody without a marker. -/
theorem trace_staticUnits (entry : Entry) (context : Context) :
    (staticUnits entry context).trace =
      match Subject.ofEntry entry with
      | .error _ => []
      | .ok subject => subject.contacts context.graph context.registry := by
  unfold staticUnits
  cases Subject.ofEntry entry with
  | error refusal => rfl
  | ok subject =>
    simp only [Recorded.trace_bind, subject.trace_resolve, List.nil_append, Subject.contacts]
    cases (subject.resolve context.graph context.registry).value <;> rfl

/-- The value and the contacts of a static build are those of its units. -/
theorem build_of_static (entry : Entry) (context : Context) (static : entry.isDynamic = false) :
    (build entry context).value =
        ((staticUnits entry context).value.map fun units => ⟨entry.name, units⟩) ∧
      (build entry context).trace = (staticUnits entry context).trace := by
  simp [build, static]

/-- The value and the records of a dynamic build are those of its units. -/
theorem build_of_dynamic (entry : Entry) (context : Context) (dynamic : entry.isDynamic = true) :
    (build entry context).value =
        ((dynamicUnits entry context).value.map fun units => ⟨entry.name, units⟩) ∧
      (build entry context).log = (dynamicUnits entry context).log ∧
      (build entry context).trace = (dynamicUnits entry context).trace := by
  simp [build, dynamic]

/-- The units of a dynamic entry point are the blocks of its members, in order. -/
theorem value_dynamicUnits (entry : Entry) (context : Context) (members : List (Member Entry))
    (dynamic : entry.members = some members) :
    (dynamicUnits entry context).value =
      match Subject.ofEntry entry with
      | .error refusal => .error refusal
      | .ok parent =>
        if members = [] then .error (.noMembers entry.name)
        else .ok (members.flatMap (Member.block parent context.graph context.registry)) := by
  simp only [dynamicUnits, Entry.resolveMembers, dynamic, Recorded.value_bind]
  cases Subject.ofEntry entry with
  | error refusal => rfl
  | ok parent =>
    by_cases empty : members = []
    · simp [empty]
    · have notEmpty : members.isEmpty = false := by simpa using empty
      simp [empty, notEmpty, Member.value_assemble_resolve, List.flatMap_def, Function.comp_def]

/-- The battery of a static entry point holds the units of its subject. -/
theorem value_build_of_none (entry : Entry) (context : Context) (static : entry.members = none) :
    (build entry context).value =
      match Subject.ofEntry entry with
      | .error refusal => .error refusal
      | .ok subject =>
        (subject.units context.graph context.registry).map fun units => ⟨entry.name, units⟩ := by
  rw [(build_of_static entry context (Entry.isDynamic_of_none static)).1, value_staticUnits]
  cases Subject.ofEntry entry <;> rfl

/-- The battery of a dynamic entry point holds the blocks of its members. -/
theorem value_build_of_some (entry : Entry) (context : Context) (members : List (Member Entry))
    (dynamic : entry.members = some members) :
    (build entry context).value =
      match Subject.ofEntry entry with
      | .error refusal => .error refusal
      | .ok parent =>
        if members = [] then .error (.noMembers entry.name)
        else .ok ⟨entry.name,
          members.flatMap (Member.block parent context.graph context.registry)⟩ := by
  rw [(build_of_dynamic entry context (Entry.isDynamic_of_some dynamic)).1,
    value_dynamicUnits entry context members dynamic]
  cases Subject.ofEntry entry with
  | error refusal => rfl
  | ok parent => by_cases empty : members = [] <;> simp [empty, Except.map]

/-- All members are resolved before the first is assembled, and what is logged follows suit. -/
theorem log_dynamicUnits (entry : Entry) (context : Context) (members : List (Member Entry))
    (dynamic : entry.members = some members) :
    (dynamicUnits entry context).log =
      match Subject.ofEntry entry with
      | .error _ => []
      | .ok parent =>
        members.flatMap (fun member =>
          (member.resolve parent context.graph context.registry).log) ++
        members.flatMap fun member =>
          (MemberResolution.assemble entry.name context.registry
            (member.resolve parent context.graph context.registry).value).log := by
  simp only [dynamicUnits, Entry.resolveMembers, dynamic, Recorded.log_bind]
  cases Subject.ofEntry entry with
  | error refusal => rfl
  | ok parent =>
    by_cases empty : members = []
    · simp [empty, Recorded.observed]
    · have notEmpty : members.isEmpty = false := by simpa using empty
      simp [notEmpty, Recorded.observed, List.flatMap_map]

/-- The members are asked for once, before anybody else is called. Resolving calls nobody. -/
theorem trace_dynamicUnits (entry : Entry) (context : Context) (members : List (Member Entry))
    (dynamic : entry.members = some members) :
    (dynamicUnits entry context).trace =
      match Subject.ofEntry entry with
      | .error _ => []
      | .ok parent =>
        .members members.length :: members.flatMap fun member =>
          (MemberResolution.assemble entry.name context.registry
            (member.resolve parent context.graph context.registry).value).trace := by
  simp only [dynamicUnits, Entry.resolveMembers, dynamic, Recorded.trace_bind]
  cases Subject.ofEntry entry with
  | error refusal => rfl
  | ok parent =>
    by_cases empty : members = []
    · simp [empty, Recorded.observed]
    · have notEmpty : members.isEmpty = false := by simpa using empty
      simp [notEmpty, Recorded.observed, List.flatMap_map, Member.trace_resolve]

end Battery

/-- The implementations that an entry point puts to the test: itself, or its members if it is
dynamic. -/
def Entry.subjects (entry : Entry) : List Subject :=
  match Subject.ofEntry entry, entry.members with
  | .error _, _ => []
  | .ok subject, none => [subject]
  | .ok parent, some members => members.filterMap fun member =>
    match member with
    | .plain _ => none
    | .contract entry => some (Subject.ofMember entry parent)

/-- Who puts itself to the test is static and marked; the others are members of a dynamic entry
point that is marked. -/
theorem Entry.mem_subjects_iff (entry : Entry) (subject : Subject) :
    subject ∈ entry.subjects ↔
      (entry.members = none ∧ Subject.ofEntry entry = .ok subject) ∨
        ∃ parent members member, Subject.ofEntry entry = .ok parent ∧
          entry.members = some members ∧ .contract member ∈ members ∧
          subject = Subject.ofMember member parent := by
  unfold subjects
  cases Subject.ofEntry entry with
  | error refusal => simp
  | ok parent =>
    cases entry.members with
    | none => simp [eq_comm]
    | some members =>
      simp only [List.mem_filterMap]
      constructor
      · rintro ⟨member, among, same⟩
        cases member with
        | plain unit => cases same
        | contract member =>
          exact .inr ⟨parent, members, member, rfl, rfl, among, (Option.some.inj same).symm⟩
      · rintro (⟨static, _⟩ | ⟨_, _, member, accepted, dynamic, among, rfl⟩)
        · cases static
        · cases accepted
          cases dynamic
          exact ⟨.contract member, among, rfl⟩

/-- If the units of a subject can be assembled, the entry point has a battery, and there they stand
together. -/
theorem Battery.block_of_subject (entry : Entry) (context : Context) (subject : Subject)
    (tested : subject ∈ entry.subjects) (units : List RunUnit)
    (assembled : subject.units context.graph context.registry = .ok units) :
    ∃ battery, (build entry context).value = .ok battery ∧ battery.entry = entry.name ∧
      units <:+: battery.units := by
  rcases (entry.mem_subjects_iff subject).mp tested with
    ⟨static, accepted⟩ | ⟨parent, members, member, accepted, dynamic, among, rfl⟩
  · have built : (build entry context).value = .ok ⟨entry.name, units⟩ := by
      simp only [value_build_of_none entry context static, accepted, assembled, Except.map]
    exact ⟨⟨entry.name, units⟩, built, rfl, List.infix_refl units⟩
  · let blocks := members.map (Member.block parent context.graph context.registry)
    have present : members ≠ [] := List.ne_nil_of_mem among
    have built : (build entry context).value = .ok ⟨entry.name, blocks.flatten⟩ := by
      simp only [value_build_of_some entry context members dynamic, accepted, present, if_false,
        blocks, List.flatMap_def]
    have own : Member.block parent context.graph context.registry (.contract member) = units := by
      simp only [Member.block, assembled]
    have block : units ∈ blocks := own ▸ List.mem_map_of_mem among
    exact ⟨⟨entry.name, blocks.flatten⟩, built, rfl, List.infix_of_mem_flatten block⟩

/-- Whoever has a battery has a subject: the units are those of the subject, or the blocks of its
members. -/
theorem Battery.units_of_built (entry : Entry) (context : Context) (battery : Battery)
    (built : (build entry context).value = .ok battery) :
    ∃ subject, Subject.ofEntry entry = .ok subject ∧
      ((entry.members = none ∧
          subject.units context.graph context.registry = .ok battery.units) ∨
        ∃ members, entry.members = some members ∧
          battery.units =
            members.flatMap (Member.block subject context.graph context.registry)) := by
  cases shape : entry.members with
  | none =>
    rw [value_build_of_none entry context shape] at built
    cases accepted : Subject.ofEntry entry with
    | error refusal => simp [accepted] at built
    | ok subject =>
      refine ⟨subject, rfl, .inl ⟨rfl, ?_⟩⟩
      cases assembled : subject.units context.graph context.registry with
      | error refusal => simp [accepted, assembled, Except.map] at built
      | ok units =>
        simp only [accepted, assembled, Except.map, Except.ok.injEq] at built
        exact built ▸ rfl
  | some members =>
    rw [value_build_of_some entry context members shape] at built
    cases accepted : Subject.ofEntry entry with
    | error refusal => simp [accepted] at built
    | ok subject =>
      refine ⟨subject, rfl, .inr ⟨members, rfl, ?_⟩⟩
      by_cases none : members = []
      · simp [accepted, none] at built
      · simp only [accepted, none, if_false, Except.ok.injEq] at built
        exact built ▸ rfl

/-- A unit of a battery is one of those that a subject of the entry point is assembled into, or it
reports why a member is refused, or it is a plain member. -/
theorem Battery.unit_of_built (entry : Entry) (context : Context) (battery : Battery)
    (built : (build entry context).value = .ok battery) (unit : RunUnit)
    (listed : unit ∈ battery.units) :
    (∃ subject ∈ entry.subjects, ∃ units,
        subject.units context.graph context.registry = .ok units ∧ unit ∈ units) ∨
      (∃ refusal, unit = .error (.ofRefusal refusal)) ∨ ∃ plain, unit = .external plain := by
  obtain ⟨parent, accepted, ⟨static, assembled⟩ | ⟨members, dynamic, blocks⟩⟩ :=
    units_of_built entry context battery built
  · exact .inl ⟨parent, (entry.mem_subjects_iff parent).mpr (.inl ⟨static, accepted⟩), _,
      assembled, listed⟩
  · rw [blocks, List.mem_flatMap] at listed
    obtain ⟨member, among, own⟩ := listed
    cases member with
    | plain plain => exact .inr (.inr ⟨plain, List.mem_singleton.mp own⟩)
    | contract member =>
      have tested : Subject.ofMember member parent ∈ entry.subjects :=
        (entry.mem_subjects_iff _).mpr
          (.inr ⟨parent, members, member, accepted, dynamic, among, rfl⟩)
      rw [Member.block] at own
      cases outcome : (Subject.ofMember member parent).units context.graph context.registry with
      | ok units =>
        rw [outcome] at own
        exact .inl ⟨_, tested, units, outcome, own⟩
      | error refusal =>
        rw [outcome] at own
        exact .inr (.inl ⟨refusal, List.mem_singleton.mp own⟩)

end Conformance
