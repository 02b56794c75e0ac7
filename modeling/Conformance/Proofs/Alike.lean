import Conformance.Coverage.Gather
import Conformance.Proofs.Reachability

/-!
# Contexts that answer alike

Two graphs are alike if they declare the same names and each name alike: of the same
kind, with the same superclass and with the same interfaces, in whichever order these
are listed and however often. Two registries are alike if they list the same suites
for every capability and know the same declaring types. What a type declared last is
not asked for.

Nothing else reaches a plan, a battery or a report. Closures are sets that say what a
type satisfies, and satisfying is told by paths along edges that alike graphs share;
everything after that asks for closures, for implementors and for the suites of a
capability. The laws follow the definitions from the resolver to the report, and each
of them says that two computations are equal with all that they record.
-/

namespace Conformance

/-- Two declarations of one type with the same interfaces, in any order and however often listed. -/
structure TypeDecl.Alike (left right : TypeDecl) : Prop where
  name : left.name = right.name
  kind : left.kind = right.kind
  superclass : left.superclass = right.superclass
  interfaces : ∀ interface, interface ∈ left.interfaces ↔ interface ∈ right.interfaces

namespace TypeDecl.Alike

variable {left right : TypeDecl}

/-- Every declaration is like itself. -/
theorem refl (decl : TypeDecl) : decl.Alike decl := ⟨rfl, rfl, rfl, fun _ => Iff.rfl⟩

/-- Declarations are alike from either side. -/
theorem symm (alike : left.Alike right) : right.Alike left where
  name := alike.name.symm
  kind := alike.kind.symm
  superclass := alike.superclass.symm
  interfaces interface := (alike.interfaces interface).symm

/-- Declarations that are alike are both capabilities or both classes. -/
theorem isCapability_eq (alike : left.Alike right) : left.isCapability = right.isCapability := by
  rw [isCapability, isCapability, alike.kind]

/-- Declarations that are alike are both concrete or neither is. -/
theorem isConcrete_eq (alike : left.Alike right) : left.isConcrete = right.isConcrete := by
  rw [isConcrete, isConcrete, alike.kind]

end TypeDecl.Alike

namespace Graph

open Relation (ReflTransGen TransGen)

variable {left right : Graph}

/-- Every declaration of a graph has one alike in another graph. -/
def Within (left right : Graph) : Prop :=
  ∀ name decl, left.get? name = some decl → ∃ other, right.get? name = some other ∧ decl.Alike other

/-- Two graphs that declare the same names, and each of them alike. -/
structure Alike (left right : Graph) : Prop where
  forward : left.Within right
  backward : right.Within left

namespace Within

/-- What the larger graph does not declare, the smaller one does not declare either. -/
theorem undeclared (within : left.Within right) (name : Name) (missing : right.get? name = none) :
    left.get? name = none := by
  refine Option.eq_none_iff_forall_ne_some.mpr ?_
  intro decl declared
  obtain ⟨other, found, _⟩ := within name decl declared
  rw [missing] at found
  cases found

/-- An interface edge is there in the larger graph too. -/
theorem extends_of (within : left.Within right) (lower upper : Name)
    (edge : left.Extends lower upper) : right.Extends lower upper := by
  obtain ⟨decl, declared, listed⟩ := edge
  obtain ⟨other, found, alike⟩ := within lower decl declared
  exact ⟨other, found, (alike.interfaces upper).mp listed⟩

/-- So is an edge to a superclass. -/
theorem inherits_of (within : left.Within right) (lower upper : Name)
    (edge : left.Inherits lower upper) : right.Inherits lower upper := by
  obtain ⟨decl, declared, superclass⟩ := edge
  obtain ⟨other, found, alike⟩ := within lower decl declared
  exact ⟨other, found, alike.superclass.symm.trans superclass⟩

/-- A path in a graph is a path in every graph that has its declarations. -/
theorem satisfies_of (within : left.Within right) (name capability : Name)
    (satisfied : left.Satisfies name capability) : right.Satisfies name capability := by
  rcases satisfied with
    ⟨decl, declared, kind, path⟩ | ⟨decl, declared, kind, ancestor, above, path⟩
  · obtain ⟨other, found, alike⟩ := within name decl declared
    exact .ofCapability other found (alike.isCapability_eq.symm.trans kind)
      (ReflTransGen.mono within.extends_of _ _ path)
  · obtain ⟨other, found, alike⟩ := within name decl declared
    exact .ofClass other found (alike.isCapability_eq.symm.trans kind) ancestor
      (ReflTransGen.mono within.inherits_of _ _ above) (TransGen.mono within.extends_of _ _ path)

/-- What a type satisfies in a graph it satisfies in every graph that has its declarations. -/
theorem closure_of (within : left.Within right) (name : Name) (closure : NameSet)
    (computed : left.closure name = .ok closure) :
    ∃ wider, right.closure name = .ok wider ∧ ∀ capability ∈ closure, capability ∈ wider := by
  have declared : right.get? name ≠ none := fun missing =>
    left.declared_of_closure name closure computed (within.undeclared name missing)
  obtain ⟨wider, widerComputed⟩ := right.closure_of_declared name declared
  refine ⟨wider, widerComputed, ?_⟩
  intro capability member
  rw [left.mem_closure_iff name capability closure computed] at member
  rw [right.mem_closure_iff name capability wider widerComputed]
  exact within.satisfies_of name capability member

/-- Who implements a capability in the smaller graph does so in the larger one. -/
theorem mem_implementors_of (within : left.Within right) (capability name : Name)
    (implements : name ∈ left.implementors capability) : name ∈ right.implementors capability := by
  rw [mem_implementors_iff] at implements ⊢
  obtain ⟨⟨decl, declared, concrete⟩, satisfied⟩ := implements
  obtain ⟨other, found, alike⟩ := within name decl declared
  exact ⟨⟨other, found, alike.isConcrete_eq.symm.trans concrete⟩,
    within.satisfies_of name capability satisfied⟩

/-- A capability of the smaller graph is one of the larger graph. -/
theorem mem_capabilities_of (within : left.Within right) (name : Name)
    (listed : name ∈ left.capabilities.map TypeDecl.name) :
    name ∈ right.capabilities.map TypeDecl.name := by
  rw [capabilities, mem_names_filter_iff] at listed ⊢
  obtain ⟨decl, declared, kind⟩ := listed
  obtain ⟨other, found, alike⟩ := within name decl declared
  exact ⟨other, found, alike.isCapability_eq.symm.trans kind⟩

end Within

namespace Alike

/-- In graphs that are alike the same types satisfy the same capabilities. -/
theorem satisfies_iff (alike : left.Alike right) (name capability : Name) :
    left.Satisfies name capability ↔ right.Satisfies name capability :=
  ⟨alike.forward.satisfies_of name capability, alike.backward.satisfies_of name capability⟩

/-- Graphs that are alike leave the same names undeclared. -/
theorem undeclared_iff (alike : left.Alike right) (name : Name) :
    left.get? name = none ↔ right.get? name = none :=
  ⟨alike.backward.undeclared name, alike.forward.undeclared name⟩

/-- Alike graphs compute the same closures. -/
theorem closure_eq (alike : left.Alike right) (name : Name) :
    left.closure name = right.closure name := by
  cases computed : left.closure name with
  | error unknown =>
    rw [closure_eq_error_iff, alike.undeclared_iff, ← closure_eq_error_iff] at computed
    exact computed.symm
  | ok closure =>
    cases otherComputed : right.closure name with
    | error unknown =>
      rw [closure_eq_error_iff, ← alike.undeclared_iff, ← closure_eq_error_iff, computed]
        at otherComputed
      cases otherComputed
    | ok other =>
      refine congrArg Except.ok (SortedSet.ext ?_)
      intro capability
      rw [left.mem_closure_iff name capability closure computed, alike.satisfies_iff,
        right.mem_closure_iff name capability other otherComputed]

/-- Graphs that are alike declare the same capabilities. -/
theorem mem_capabilities_iff (alike : left.Alike right) (name : Name) :
    name ∈ left.capabilities.map TypeDecl.name ↔ name ∈ right.capabilities.map TypeDecl.name :=
  ⟨alike.forward.mem_capabilities_of name, alike.backward.mem_capabilities_of name⟩

/-- Alike graphs have the same implementors. -/
theorem implementors_eq (alike : left.Alike right) (capability : Name) :
    left.implementors capability = right.implementors capability :=
  SortedSet.ext fun name => ⟨alike.forward.mem_implementors_of capability name,
    alike.backward.mem_implementors_of capability name⟩

end Alike

end Graph

/-- Two registries that list the same suites by capability and know the same declaring types. Of
which suite a type declared last nothing is said. -/
structure Registry.Alike (left right : Registry) : Prop where
  capabilities : left.capabilities = right.capabilities
  suitesFor : ∀ capability, left.suitesFor capability = right.suitesFor capability
  isDeclaringType : ∀ name, left.isDeclaringType name = right.isDeclaringType name

namespace Registry.Alike

variable {left right : Registry}

/-- Registries that are alike report the same defects. -/
theorem defects_eq (alike : left.Alike right) : left.defects = right.defects := by
  rw [defects, defects, values_byCapability, values_byCapability, alike.capabilities,
    funext alike.suitesFor]

/-- A subject finds the same for a capability in registries that are alike. -/
theorem finding_eq (alike : left.Alike right) (subject : Subject) :
    subject.finding left = subject.finding right := by
  funext capability
  rw [Subject.finding, Subject.finding, alike.suitesFor]

/-- A closure leads to the same plan in registries that are alike. -/
theorem ofClosure_eq (alike : left.Alike right) (subject : Subject) (closure : NameSet) :
    Plan.ofClosure left subject closure = Plan.ofClosure right subject closure := by
  rw [Plan.ofClosure, Plan.ofClosure, alike.finding_eq]

/-- The tests that a subject runs itself are the same for registries that are alike. -/
theorem directTests_eq (alike : left.Alike right) (subject : Subject) :
    subject.directTests left = subject.directTests right := by
  rw [Subject.directTests, Subject.directTests, funext alike.isDeclaringType]

/-- A subject has something to run with both registries or with neither. -/
theorem hasTests_eq (alike : left.Alike right) (subject : Subject) (plan : Plan) :
    subject.hasTests left plan = subject.hasTests right plan := by
  rw [Subject.hasTests, Subject.hasTests, alike.directTests_eq]

/-- The unit of the own tests is the same for registries that are alike. -/
theorem directUnits_eq (alike : left.Alike right) (subject : Subject) :
    subject.directUnits left = subject.directUnits right := by
  funext source
  rw [Subject.directUnits, Subject.directUnits, alike.directTests_eq]

/-- A plan is assembled alike. -/
theorem assemble_eq (alike : left.Alike right) (subject : Subject) (plan : Plan) :
    subject.assemble left plan = subject.assemble right plan := by
  rw [Subject.assemble, Subject.assemble, alike.directTests_eq, alike.directUnits_eq]

/-- A member is assembled alike. -/
theorem assembleMember_eq (alike : left.Alike right) (parent : Name) :
    MemberResolution.assemble parent left = MemberResolution.assemble parent right := by
  funext resolution
  cases resolution with
  | passedThrough unit => rfl
  | failed refusal => rfl
  | resolved subject plan =>
    rw [MemberResolution.assemble, MemberResolution.assemble, alike.assemble_eq]

end Registry.Alike

/-- Two contexts with the same entry points whose graphs and registries answer alike. -/
structure Context.Alike (left right : Context) : Prop where
  graph : left.graph.Alike right.graph
  registry : left.registry.Alike right.registry
  entries : left.entries = right.entries

namespace Context.Alike

variable {left right : Context}

/-- Subjects are resolved alike. -/
theorem resolve_eq (alike : left.Alike right) (subject : Subject) :
    subject.resolve left.graph left.registry = subject.resolve right.graph right.registry := by
  rw [Subject.resolve, Subject.resolve, alike.graph.closure_eq, alike.registry.finding_eq,
    funext (alike.registry.ofClosure_eq subject)]

/-- A member is resolved alike in contexts that are alike. -/
theorem resolveMember_eq (alike : left.Alike right) (parent : Subject) :
    Member.resolve parent left.graph left.registry =
      Member.resolve parent right.graph right.registry := by
  funext member
  cases member with
  | plain unit => rfl
  | contract entry => rw [Member.resolve, Member.resolve, alike.resolve_eq]

/-- So are all members of an entry point. -/
theorem resolveMembers_eq (alike : left.Alike right) (entry : Entry) :
    entry.resolveMembers left.graph left.registry =
      entry.resolveMembers right.graph right.registry := by
  simp only [Entry.resolveMembers, alike.resolveMember_eq]

/-- Batteries are built alike, with the same log and the same contacts. -/
theorem build_eq (alike : left.Alike right) (entry : Entry) :
    Battery.build entry left = Battery.build entry right := by
  have static : Battery.staticUnits entry left = Battery.staticUnits entry right := by
    simp only [Battery.staticUnits, alike.resolve_eq, alike.registry.assemble_eq]
  have dynamic : Battery.dynamicUnits entry left = Battery.dynamicUnits entry right := by
    rw [Battery.dynamicUnits, Battery.dynamicUnits, alike.resolveMembers_eq,
      alike.registry.assembleMember_eq]
  rw [Battery.build, Battery.build, static, dynamic]

/-- Entry points are accounted for alike. -/
theorem coverage_eq (alike : left.Alike right) (entry : Entry) :
    entry.coverage left.graph left.registry = entry.coverage right.graph right.registry := by
  have ofPlan (subject : Subject) (plan : Plan) :
      EntryCoverage.ofPlan entry left.registry subject plan =
        EntryCoverage.ofPlan entry right.registry subject plan := by
    rw [EntryCoverage.ofPlan, EntryCoverage.ofPlan, alike.registry.hasTests_eq]
  simp only [Entry.coverage, alike.resolve_eq, ofPlan]

/-- The coverage of a capability is the same in contexts that are alike. -/
theorem interface_eq (alike : left.Alike right) : left.interface = right.interface := by
  funext capability
  rw [interface, interface, alike.registry.suitesFor, alike.graph.implementors_eq]

/-- Contexts that are alike have the same capabilities. -/
theorem capabilities_eq (alike : left.Alike right) : left.capabilities = right.capabilities := by
  refine SortedSet.ext ?_
  intro name
  rw [capabilities, capabilities, SortedSet.mem_ofList, SortedSet.mem_ofList, List.mem_append,
    List.mem_append, alike.graph.mem_capabilities_iff, alike.registry.capabilities]

/-- Reports are gathered alike. -/
theorem gather_eq (alike : left.Alike right) (packages : List String) :
    left.gather packages = right.gather packages := by
  have coverages : (Entry.coverage left.graph left.registry) =
      Entry.coverage right.graph right.registry := funext alike.coverage_eq
  have report : left.report packages = right.report packages := by
    funext coverages
    rw [report, report, alike.capabilities_eq, alike.interface_eq, alike.registry.defects_eq]
  rw [gather, gather, coverages, report, alike.entries]

end Context.Alike

end Conformance
