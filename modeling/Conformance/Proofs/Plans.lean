import Conformance.Proofs.History
import Conformance.Proofs.Reachability
import Conformance.Resolution.Plan
import Mathlib.Data.List.Flatten
import Mathlib.Data.List.Permutation
import Mathlib.Data.List.Sort

/-!
# What stands on a plan

The plan of a subject is told by three things: the graph says which capabilities the
target satisfies, the subject says which of them are left out, and the history of the
registry says which suites there are. A capability of the closure is left out, or has
no suite, or contributes its suites, and no two of these.

The resolver drops a suite whose key it met before. It never meets one: the keys of a
capability are distinct, and a key names its capability.

`Plan.Exact` is the specification, and `Subject.exact_of_resolve` says that plans meet it.
-/

namespace Conformance

/-- Of two sets the smaller one is walked in the same order. -/
theorem SortedSet.sublist_of_subset {α : Type} [Ord α] [Std.TransOrd α]
    (inner outer : SortedSet α) (within : ∀ item ∈ inner, item ∈ outer) :
    inner.toList.Sublist outer.toList := by
  have antisymmetric : Std.Antisymm fun left right : α => compare left right = .lt := by
    constructor
    intro left right below above
    have impossible := Std.TransCmp.lt_trans below above
    simp [Std.ReflCmp.compare_self] at impossible
  have contained : inner.toList.Subperm outer.toList :=
    List.subperm_of_subset (nodup_of_increasing inner.increasing) within
  exact List.sublist_of_subperm_of_pairwise contained inner.increasing outer.increasing

namespace Plan

/-- Suites with distinct keys are all kept if none of the keys came before. -/
theorem distinct_eq_self (seen : List SuiteKey) (suites : List Suite)
    (unique : (suites.map Suite.key).Nodup) (fresh : ∀ suite ∈ suites, suite.key ∉ seen) :
    distinct seen suites = suites := by
  induction suites generalizing seen with
  | nil => rfl
  | cons suite rest inductionHypothesis =>
    obtain ⟨once, restUnique⟩ := List.nodup_cons.mp unique
    have restFresh : ∀ later ∈ rest, later.key ∉ suite.key :: seen := by
      intro later member known
      rcases List.mem_cons.mp known with same | earlier
      · exact once (List.mem_map.mpr ⟨later, member, same⟩)
      · exact fresh later (List.mem_cons_of_mem _ member) earlier
    rw [distinct, if_neg (fresh suite List.mem_cons_self),
      inductionHypothesis (suite.key :: seen) restUnique restFresh]

/-- The lists of different capabilities have no key in common, since a key names its capability. -/
theorem keys_nodup {registry : Registry} {history : List Suite} (tells : registry.Tells history)
    (capabilities : List Name) (unique : capabilities.Nodup) :
    ((capabilities.flatMap registry.suitesFor).map Suite.key).Nodup := by
  rw [List.map_flatMap, List.nodup_flatMap]
  refine ⟨fun capability _ => tells.distinct capability, unique.imp ?_⟩
  intro left right different key inLeft inRight
  obtain ⟨suite, member, rfl⟩ := List.mem_map.mp inLeft
  obtain ⟨other, otherMember, same⟩ := List.mem_map.mp inRight
  have sameTarget : other.target = suite.target := congrArg SuiteKey.target same
  exact different (((tells.target_of_mem left suite member).symm.trans sameTarget.symm).trans
    (tells.target_of_mem right other otherMember))

/-- The capabilities of a closure that a subject does not leave out, in order. -/
def wanted (subject : Subject) (closure : NameSet) : List Name :=
  closure.toList.filter fun capability => decide (¬ capability ∈ subject.skip)

/-- A subject wants what its closure reaches and it does not skip. -/
theorem mem_wanted_iff (subject : Subject) (closure : NameSet) (capability : Name) :
    capability ∈ wanted subject closure ↔ capability ∈ closure ∧ ¬ capability ∈ subject.skip := by
  rw [wanted, List.mem_filter, decide_eq_true_eq, SortedSet.mem_toList]

/-- The suites on a plan are those of the wanted capabilities, one capability after the other. -/
theorem suites_ofClosure {registry : Registry} {history : List Suite}
    (tells : registry.Tells history) (subject : Subject) (closure : NameSet) :
    (ofClosure registry subject closure).suites =
      (wanted subject closure).flatMap registry.suitesFor := by
  have contributed (capabilities : List Name) :
      (capabilities.flatMap fun name => (subject.finding registry name).suites) =
        (capabilities.filter fun capability => decide (¬ capability ∈ subject.skip)).flatMap
          registry.suitesFor := by
    induction capabilities with
    | nil => rfl
    | cons capability rest inductionHypothesis =>
      rw [List.flatMap_cons, inductionHypothesis, subject.suites_finding]
      by_cases skipped : capability ∈ subject.skip <;> simp [skipped]
  have unique : (wanted subject closure).Nodup :=
    (nodup_of_increasing closure.increasing).filter _
  rw [ofClosure, contributed]
  exact distinct_eq_self [] _ (keys_nodup tells _ unique) fun _ _ => List.not_mem_nil

/-- The keys on a plan are those registered for the wanted capabilities. -/
theorem keys_ofClosure {registry : Registry} {history : List Suite}
    (tells : registry.Tells history) (subject : Subject) (closure : NameSet) :
    (ofClosure registry subject closure).keys =
      (wanted subject closure).flatMap (Registry.keysFor history) := by
  rw [keys, suites_ofClosure tells, List.map_flatMap]
  exact congrArg (List.flatMap · _) (funext tells.keys)

/-- A key is on a plan if it was registered for a capability of the closure that is not left out. -/
theorem mem_keys_ofClosure_iff {registry : Registry} {history : List Suite}
    (tells : registry.Tells history) (subject : Subject) (closure : NameSet) (key : SuiteKey) :
    key ∈ (ofClosure registry subject closure).keys ↔
      key.target ∈ closure ∧ ¬ key.target ∈ subject.skip ∧ ∃ suite ∈ history, suite.key = key := by
  rw [keys_ofClosure tells, List.mem_flatMap]
  simp only [mem_wanted_iff, Registry.mem_keysFor_iff]
  constructor
  · rintro ⟨_, ⟨inside, kept⟩, rfl, registered⟩
    exact ⟨inside, kept, registered⟩
  · rintro ⟨inside, kept, registered⟩
    exact ⟨key.target, ⟨inside, kept⟩, rfl, registered⟩

/-- Who satisfies more and leaves out the same has the keys of the other's plan on the own one, in
the same order. -/
theorem keys_sublist {registry : Registry} {history : List Suite}
    (tells : registry.Tells history) (lower upper : Subject) (skip : upper.skip = lower.skip)
    (inner outer : NameSet) (within : ∀ capability ∈ inner, capability ∈ outer) :
    (ofClosure registry upper inner).keys.Sublist (ofClosure registry lower outer).keys := by
  have fewer : (wanted upper inner).Sublist (wanted lower outer) := by
    rw [wanted, wanted, skip]
    exact (SortedSet.sublist_of_subset inner outer within).filter _
  rw [keys_ofClosure tells, keys_ofClosure tells]
  exact fewer.flatMap _

/-- What a plan has to be, told by the graph, by the suites registered so far and by the subject. -/
structure Exact (graph : Graph) (history : List Suite) (subject : Subject) (plan : Plan) :
    Prop where
  implementation : plan.implementation = subject.entry
  closure : ∀ capability, capability ∈ plan.closure ↔ graph.Satisfies subject.target capability
  increasing : plan.closure.toList.Pairwise fun left right => compare left right = .lt
  /-- The suites are those that the history leaves for the capabilities that the subject does not
  leave out, in the order of the capabilities. -/
  suites : plan.suites = (plan.closure.toList.filter fun capability =>
    decide (¬ capability ∈ subject.skip)).flatMap (Registry.standing history)
  distinct : plan.keys.Nodup
  skipped : ∀ capability, capability ∈ plan.skipped ↔
    capability ∈ plan.closure ∧ capability ∈ subject.skip
  untested : ∀ capability, capability ∈ plan.untested ↔
    capability ∈ plan.closure ∧ ¬ capability ∈ subject.skip ∧
      ∀ suite ∈ history, suite.target ≠ capability
  /-- Every capability of the closure has its place, and no other has. -/
  covered : ∀ capability, capability ∈ plan.closure ↔
    capability ∈ plan.skipped ∨ capability ∈ plan.untested ∨
      capability ∈ plan.suites.map Suite.target
  /-- No capability has two places. -/
  apart : ∀ capability,
    ¬ (capability ∈ plan.skipped ∧ capability ∈ plan.untested) ∧
      ¬ (capability ∈ plan.skipped ∧ capability ∈ plan.suites.map Suite.target) ∧
      ¬ (capability ∈ plan.untested ∧ capability ∈ plan.suites.map Suite.target)

/-- Plans made from a closure are exact.

Each capability of the closure is looked up once. What is found decides its place: exclusion first,
then whether its list is empty. The list is empty exactly if nothing was registered for it, and
every suite on it names it as target. -/
theorem exact_ofClosure (graph : Graph) {registry : Registry} {history : List Suite}
    (tells : registry.Tells history) (subject : Subject) (closure : NameSet)
    (computed : graph.closure subject.target = .ok closure) :
    Exact graph history subject (ofClosure registry subject closure) := by
  have skipped (capability : Name) : capability ∈ (ofClosure registry subject closure).skipped ↔
      capability ∈ closure ∧ capability ∈ subject.skip := by
    rw [ofClosure, SortedSet.mem_filter, subject.isSkipped_finding]
  have untested (capability : Name) : capability ∈ (ofClosure registry subject closure).untested ↔
      capability ∈ closure ∧ ¬ capability ∈ subject.skip ∧
        ∀ suite ∈ history, suite.target ≠ capability := by
    rw [ofClosure, SortedSet.mem_filter, subject.isUntested_finding, tells.suitesFor_eq_nil_iff]
  have tested (capability : Name) :
      capability ∈ (ofClosure registry subject closure).suites.map Suite.target ↔
        capability ∈ closure ∧ ¬ capability ∈ subject.skip ∧
          ∃ suite ∈ history, suite.target = capability := by
    rw [suites_ofClosure tells, ← tells.exists_mem_suitesFor_iff, List.mem_map]
    simp only [List.mem_flatMap, mem_wanted_iff]
    constructor
    · rintro ⟨suite, ⟨place, wanted, member⟩, rfl⟩
      rw [tells.target_of_mem place suite member]
      exact ⟨wanted.1, wanted.2, suite, member⟩
    · rintro ⟨inside, kept, suite, member⟩
      exact ⟨suite, ⟨capability, ⟨inside, kept⟩, member⟩,
        tells.target_of_mem capability suite member⟩
  constructor
  case implementation => rfl
  case closure =>
    intro capability
    exact graph.mem_closure_iff subject.target capability closure computed
  case increasing => exact closure.increasing
  case suites =>
    rw [suites_ofClosure tells, funext tells.suitesFor_eq_standing]
    rfl
  case distinct =>
    rw [keys, suites_ofClosure tells]
    exact keys_nodup tells _ ((nodup_of_increasing closure.increasing).filter _)
  case skipped => exact skipped
  case untested => exact untested
  case covered =>
    intro capability
    rw [skipped, untested, tested]
    constructor
    · intro inside
      by_cases leftOut : capability ∈ subject.skip
      · exact .inl ⟨inside, leftOut⟩
      · by_cases registered : ∃ suite ∈ history, suite.target = capability
        · exact .inr (.inr ⟨inside, leftOut, registered⟩)
        · refine .inr (.inl ⟨inside, leftOut, ?_⟩)
          intro suite member same
          exact registered ⟨suite, member, same⟩
    · rintro (⟨inside, _⟩ | ⟨inside, _⟩ | ⟨inside, _⟩) <;> exact inside
  case apart =>
    intro capability
    rw [skipped, untested, tested]
    refine ⟨?_, ?_, ?_⟩
    · rintro ⟨⟨_, leftOut⟩, ⟨_, kept, _⟩⟩
      exact kept leftOut
    · rintro ⟨⟨_, leftOut⟩, ⟨_, kept, _⟩⟩
      exact kept leftOut
    · rintro ⟨⟨_, _, none⟩, ⟨_, _, suite, member, same⟩⟩
      exact none suite member same

end Plan

namespace Subject

/-- A subject is refused exactly if its target is not declared. -/
theorem resolve_eq_error_iff (subject : Subject) (graph : Graph) (registry : Registry)
    (refusal : Refusal) :
    (subject.resolve graph registry).value = .error refusal ↔
      graph.get? subject.target = none ∧
        refusal = .unknownTarget subject.entry ⟨subject.target⟩ := by
  rw [subject.value_resolve]
  cases computed : graph.closure subject.target with
  | ok closure =>
    have declared : graph.get? subject.target ≠ none := by
      intro undeclared
      have refused := (graph.closure_eq_error_iff subject.target ⟨subject.target⟩).mpr
        ⟨undeclared, rfl⟩
      simp [computed] at refused
    simp [declared]
  | error unknown =>
    obtain ⟨undeclared, rfl⟩ := (graph.closure_eq_error_iff subject.target unknown).mp computed
    simp [undeclared, eq_comm]

/-- A plan is made from the closure of the target. -/
theorem resolve_eq_ok_iff (subject : Subject) (graph : Graph) (registry : Registry) (plan : Plan) :
    (subject.resolve graph registry).value = .ok plan ↔
      ∃ closure, graph.closure subject.target = .ok closure ∧
        Plan.ofClosure registry subject closure = plan := by
  rw [subject.value_resolve]
  cases graph.closure subject.target <;> simp

/-- A subject that is not refused has a declared target. -/
theorem declared_of_resolve (subject : Subject) (graph : Graph) (registry : Registry) (plan : Plan)
    (resolved : (subject.resolve graph registry).value = .ok plan) :
    graph.get? subject.target ≠ none := by
  intro undeclared
  have refused := (subject.resolve_eq_error_iff graph registry _).mpr ⟨undeclared, rfl⟩
  rw [resolved] at refused
  cases refused

/-- Every other subject has a plan. -/
theorem resolved_of_declared (subject : Subject) (graph : Graph) (registry : Registry)
    (declared : graph.get? subject.target ≠ none) :
    ∃ plan, (subject.resolve graph registry).value = .ok plan := by
  cases resolved : (subject.resolve graph registry).value with
  | error refusal =>
    exact absurd ((subject.resolve_eq_error_iff graph registry refusal).mp resolved).1 declared
  | ok plan => exact ⟨plan, rfl⟩

/-- Whoever has a plan has an exact one. -/
theorem exact_of_resolve (subject : Subject) (graph : Graph) {registry : Registry}
    {history : List Suite} (tells : registry.Tells history) (plan : Plan)
    (resolved : (subject.resolve graph registry).value = .ok plan) :
    plan.Exact graph history subject := by
  obtain ⟨closure, computed, rfl⟩ := (subject.resolve_eq_ok_iff graph registry plan).mp resolved
  exact Plan.exact_ofClosure graph tells subject closure computed

/-- A subject is refused if and only if its target is not declared, and then for that reason; every
other subject gets a plan that is exact, whichever operations made the registry: the suites left by
the history for the capabilities that the target satisfies and the subject does not leave out, in
the order of the capabilities and of the first registrations, none twice, with each capability of
the closure in one of three places. -/
theorem resolve_exact (graph : Graph) (operations : List Registry.Operation) (subject : Subject) :
    let outcome := (subject.resolve graph (Registry.after operations)).value
    (outcome = .error (.unknownTarget subject.entry ⟨subject.target⟩) ↔
      graph.get? subject.target = none) ∧
    (graph.get? subject.target ≠ none →
      ∃ plan, outcome = .ok plan ∧ plan.Exact graph (Registry.history operations) subject) := by
  intro outcome
  constructor
  · exact (subject.resolve_eq_error_iff graph _ _).trans (and_iff_left rfl)
  · intro declared
    obtain ⟨plan, resolved⟩ := subject.resolved_of_declared graph _ declared
    exact ⟨plan, resolved,
      subject.exact_of_resolve graph (Registry.tells_after operations) plan resolved⟩

end Subject

end Conformance
