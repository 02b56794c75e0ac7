import Conformance.Battery
import Conformance.Proofs.Plans

/-!
# What exclusions leave out

There are two kinds of exclusions. A skip list names declaring types when a registry is
scanned, and a subject names capabilities that its plan leaves out. Both are filters:
what they leave is what there is without them, in the same order, restricted to what
they do not name. Nothing that is named takes anything else along.

The history of a scan with a skip list is the filtered history. Which suite is the last
of its key, which key came first and what a type declared last are questions about
suites of one declaring type, so filtering by declaring types commutes with all of them:
`standing_filter` and `latest?_filter` are the two laws. `flatMap_filter_suitesFor` takes
the filters on to the plans, and `scan_excludes` says what comes of both exclusions.
-/

namespace Conformance

/-- Whether a skip list leaves a suite in. -/
def SkipList.keeps (skip : SkipList) (suite : Suite) : Bool :=
  decide (¬ suite.declaringType ∈ skip)

namespace Registry

section Filtered

variable (history : List Suite) (keep : Name → Bool)

/-- Filtering a history by declaring types filters the keys of each capability. -/
theorem keysFor_filter (capability : Name) :
    keysFor (history.filter fun suite => keep suite.declaringType) capability =
      (keysFor history capability).filter fun key => keep key.declaringType := by
  rw [keysFor, keysFor, ← eraseDups_filter, List.filter_map, List.filter_filter,
    List.filter_filter]
  have same : (history.filter fun suite =>
        decide (suite.target = capability) && keep suite.declaringType) =
      history.filter fun suite =>
        keep suite.declaringType && decide (suite.target = capability) := by
    refine List.filter_congr ?_
    intro suite _
    exact Bool.and_comm _ _
  rw [same]
  rfl

section OneType

variable (test : Suite → Bool) (declaringType : Name)
  (sole : ∀ suite, test suite = true → suite.declaringType = declaringType)
include sole

/-- Suites that pass a test of one declaring type are all kept or all left out, the last of them
with the others. -/
theorem filter_latest? :
    ((latest? history test).filter fun suite => keep suite.declaringType) =
      if keep declaringType then latest? history test else none := by
  cases last : latest? history test with
  | none => exact (ite_self none).symm
  | some suite =>
    have passed := (test_of_latest? history suite test last).2
    rw [Option.filter_some, sole suite passed]

/-- The last suite that passes a test of one declaring type stays the last, or is gone. -/
theorem latest?_filter :
    latest? (history.filter fun suite => keep suite.declaringType) test =
      (latest? history test).filter fun suite => keep suite.declaringType := by
  have same : (history.filter fun suite => keep suite.declaringType).filter test =
      (history.filter test).filter fun _ => keep declaringType := by
    rw [List.filter_filter, List.filter_filter]
    refine List.filter_congr ?_
    intro suite _
    cases passed : test suite with
    | true => rw [sole suite passed, Bool.and_comm]
    | false => rw [Bool.false_and, Bool.and_false]
  rw [filter_latest? history keep test declaringType sole, latest?, latest?, same]
  cases keep declaringType with
  | true => rw [List.filter_true, if_pos rfl]
  | false => rw [List.filter_false, List.getLast?_nil, if_neg Bool.false_ne_true]

end OneType

/-- What a filtered history leaves for a capability is what the whole history leaves, filtered. -/
theorem standing_filter (capability : Name) :
    standing (history.filter fun suite => keep suite.declaringType) capability =
      (standing history capability).filter fun suite => keep suite.declaringType := by
  rw [standing, standing, keysFor_filter, List.filterMap_filter, List.filter_filterMap]
  refine List.filterMap_congr ?_
  intro key _
  have sole (suite : Suite) (same : decide (suite.key = key) = true) :
      suite.declaringType = key.declaringType :=
    congrArg SuiteKey.declaringType (of_decide_eq_true same)
  rw [latest?_filter history keep _ key.declaringType sole,
    filter_latest? history keep _ key.declaringType sole]
  split <;> rfl

end Filtered

/-- Without a skip list everything that was discovered is registered. -/
theorem tells_scan_whole (suites : List Suite) : (scan suites ∅).value.Tells suites := by
  have everything : (suites.filter fun suite =>
      decide (¬ suite.declaringType ∈ (∅ : SkipList))) = suites := by
    refine List.filter_eq_self.mpr ?_
    intro suite _
    exact decide_eq_true (SortedSet.not_mem_empty suite.declaringType)
  have tells := tells_scan suites ∅
  rwa [everything] at tells

/-- A skip list filters the suites of every capability. -/
theorem suitesFor_scan (suites : List Suite) (skip : SkipList) (capability : Name) :
    (scan suites skip).value.suitesFor capability =
      ((scan suites ∅).value.suitesFor capability).filter skip.keeps := by
  rw [(tells_scan suites skip).suitesFor_eq_standing,
    (tells_scan_whole suites).suitesFor_eq_standing]
  exact standing_filter suites (fun name => decide (¬ name ∈ skip)) capability

/-- A skip list filters what a type declared last. -/
theorem suiteOf?_scan (suites : List Suite) (skip : SkipList) (declaringType : Name) :
    (scan suites skip).value.suiteOf? declaringType =
      ((scan suites ∅).value.suiteOf? declaringType).filter skip.keeps := by
  rw [(tells_scan suites skip).byType, (tells_scan_whole suites).byType]
  exact latest?_filter suites (fun name => decide (¬ name ∈ skip)) _ declaringType
    fun suite same => of_decide_eq_true same

/-- Whether a type declares suites does not depend on what is left out. -/
theorem isDeclaringType_scan (suites : List Suite) (skip : SkipList) (name : Name) :
    (scan suites skip).value.isDeclaringType name =
      (scan suites ∅).value.isDeclaringType name :=
  decide_eq_decide.mpr
    ((mem_declaringTypes_scan suites skip name).trans (mem_declaringTypes_scan suites ∅ name).symm)

end Registry

/-- The subject that leaves nothing out. -/
def Subject.inclusive (subject : Subject) : Subject := { subject with skip := ∅ }

namespace Plan

section Filtered

variable {registry : Registry} {history : List Suite} (tells : registry.Tells history)
include tells

/-- Leaving out capabilities before their suites are listed, and suites of what is listed, is the
same as leaving out listed suites by their target and their declaring type. -/
theorem flatMap_filter_suitesFor (wanted : Name → Prop) [DecidablePred wanted]
    (keep : Suite → Bool) (capabilities : List Name) :
    ((capabilities.filter fun capability => decide (wanted capability)).flatMap fun capability =>
        (registry.suitesFor capability).filter keep) =
      (capabilities.flatMap registry.suitesFor).filter fun suite =>
        decide (wanted suite.target) && keep suite := by
  induction capabilities with
  | nil => rfl
  | cons capability rest inductionHypothesis =>
    have own : ((registry.suitesFor capability).filter fun suite =>
          decide (wanted suite.target) && keep suite) =
        (registry.suitesFor capability).filter fun suite =>
          decide (wanted capability) && keep suite := by
      refine List.filter_congr ?_
      intro suite member
      rw [tells.target_of_mem capability suite member]
    rw [List.flatMap_cons, List.filter_append, ← inductionHypothesis, own]
    by_cases inside : wanted capability <;> simp [inside]

/-- Among the suites of different capabilities those of one of them stand together as its list. -/
theorem filter_target_flatMap_suitesFor (capabilities : List Name) (unique : capabilities.Nodup)
    (capability : Name) (member : capability ∈ capabilities) :
    ((capabilities.flatMap registry.suitesFor).filter fun suite =>
      decide (suite.target = capability)) = registry.suitesFor capability := by
  have single : (capabilities.filter fun other => decide (other = capability)) = [capability] := by
    rw [List.filter_eq, List.count_eq_one_of_mem unique member]
    rfl
  have listed := flatMap_filter_suitesFor tells (· = capability) (fun _ => true) capabilities
  rw [single] at listed
  simpa using listed.symm

end Filtered

/-- A plan lists what is left of another by a skip list and by what its subject leaves out. -/
structure Restricts (plan all : Plan) (discovered : List Suite) (skip : SkipList)
    (subject : Subject) : Prop where
  /-- What the target satisfies does not depend on what is left out. -/
  closure : plan.closure = all.closure
  suites : plan.suites = all.suites.filter fun suite =>
    decide (¬ suite.target ∈ subject.skip) && decide (¬ suite.declaringType ∈ skip)
  keys : plan.keys = all.keys.filter fun key =>
    decide (¬ key.target ∈ subject.skip) && decide (¬ key.declaringType ∈ skip)
  /-- A capability is untested if the skip list names the declaring types of all its suites. -/
  untested : ∀ capability, capability ∈ plan.untested ↔
    capability ∈ plan.closure ∧ ¬ capability ∈ subject.skip ∧
      ∀ suite ∈ discovered, suite.target = capability → suite.declaringType ∈ skip
  /-- A capability that is not left out itself keeps its list, whichever others lead to it. -/
  kept : ∀ capability ∈ plan.closure, ¬ capability ∈ subject.skip →
    (plan.suites.filter fun suite => decide (suite.target = capability)) =
      (Registry.scan discovered skip).value.suitesFor capability

/-- Plans for one closure restrict each other.

Which suites are listed is a filter of the capabilities followed by a filter of the suites of each;
since every suite names its capability, both are filters of the list. -/
theorem restricts_ofClosure (discovered : List Suite) (skip : SkipList) (subject : Subject)
    (graph : Graph) (closure : NameSet) (computed : graph.closure subject.target = .ok closure) :
    (ofClosure (Registry.scan discovered skip).value subject closure).Restricts
      (ofClosure (Registry.scan discovered ∅).value subject.inclusive closure)
      discovered skip subject := by
  have tells := Registry.tells_scan discovered skip
  have tellsAll := Registry.tells_scan_whole discovered
  have exact := exact_ofClosure graph tells subject closure computed
  have everything : wanted subject.inclusive closure = closure.toList := by
    refine List.filter_eq_self.mpr ?_
    intro capability _
    exact decide_eq_true (SortedSet.not_mem_empty capability)
  have suites : (ofClosure (Registry.scan discovered skip).value subject closure).suites =
      (ofClosure (Registry.scan discovered ∅).value subject.inclusive closure).suites.filter
        fun suite =>
          decide (¬ suite.target ∈ subject.skip) && decide (¬ suite.declaringType ∈ skip) := by
    rw [suites_ofClosure tells, suites_ofClosure tellsAll, everything,
      funext (Registry.suitesFor_scan discovered skip)]
    exact flatMap_filter_suitesFor tellsAll (¬ · ∈ subject.skip) skip.keeps closure.toList
  constructor
  case closure => rfl
  case suites => exact suites
  case keys =>
    rw [keys, suites, keys, List.filter_map]
    rfl
  case untested =>
    intro capability
    rw [exact.untested]
    refine and_congr_right fun _ => and_congr_right fun _ => forall_congr' fun suite => ?_
    rw [List.mem_filter, decide_eq_true_eq]
    constructor
    · intro none member same
      by_contra kept
      exact none ⟨member, kept⟩ same
    · rintro leftOut ⟨member, kept⟩ same
      exact kept (leftOut member same)
  case kept =>
    intro capability inside named
    rw [suites_ofClosure tells]
    refine filter_target_flatMap_suitesFor tells _ ?_ capability ?_
    · exact (nodup_of_increasing closure.increasing).filter _
    · exact (mem_wanted_iff subject closure capability).mpr ⟨inside, named⟩

end Plan

namespace Context

/-- Exclusions are filters. A registry that was scanned with a skip list answers by capability and
by type what the registry of the whole source answers, restricted to suites of declaring types that
the list does not name, and knows the same declaring types, so every subject has the same tests of
its own. A subject that leaves out capabilities is refused by the one if and only if the subject
that leaves out nothing is refused by the other; else its plan restricts the plan of that subject.

Both registries tell a history, and the one history is the other filtered. -/
theorem scan_excludes (discovery : Discovery) (skip : SkipList) :
    let whole := (Context.scan discovery ∅).value
    let context := (Context.scan discovery skip).value
    (∀ capability, context.registry.suitesFor capability =
      (whole.registry.suitesFor capability).filter skip.keeps) ∧
    (∀ declaringType, context.registry.suiteOf? declaringType =
      (whole.registry.suiteOf? declaringType).filter skip.keeps) ∧
    (∀ name, context.registry.isDeclaringType name = whole.registry.isDeclaringType name) ∧
    (∀ subject : Subject,
      subject.directTests context.registry = subject.directTests whole.registry) ∧
    ∀ subject : Subject,
      let restricted := (subject.resolve context.graph context.registry).value
      let unrestricted := (subject.inclusive.resolve whole.graph whole.registry).value
      (∀ refusal, restricted = .error refusal ↔ unrestricted = .error refusal) ∧
        ∀ all, unrestricted = .ok all →
          ∃ plan, restricted = .ok plan ∧ plan.Restricts all discovery.suites skip subject := by
  intro whole context
  have sameTypes (name : Name) :
      context.registry.isDeclaringType name = whole.registry.isDeclaringType name :=
    Registry.isDeclaringType_scan discovery.suites skip name
  refine ⟨Registry.suitesFor_scan discovery.suites skip,
    Registry.suiteOf?_scan discovery.suites skip, sameTypes, ?_, ?_⟩
  · intro subject
    rw [Subject.directTests, Subject.directTests, funext sameTypes]
  · intro subject restricted unrestricted
    constructor
    · intro refusal
      rw [subject.resolve_eq_error_iff, subject.inclusive.resolve_eq_error_iff]
      exact Iff.rfl
    · intro all resolved
      obtain ⟨closure, computed, rfl⟩ :=
        (subject.inclusive.resolve_eq_ok_iff whole.graph whole.registry all).mp resolved
      refine ⟨Plan.ofClosure context.registry subject closure, ?_, ?_⟩
      · exact (subject.resolve_eq_ok_iff context.graph context.registry _).mpr
          ⟨closure, computed, rfl⟩
      · exact Plan.restricts_ofClosure discovery.suites skip subject whole.graph closure computed

end Context

end Conformance
