import Conformance.Resolution.Assembly

/-!
# What is assembled

The units of a subject are its own tests, taken together as one direct unit, and one
unit for each suite of its plan. Which suites are bound, which tests are run directly
and what is reported can be read off this list.
-/

namespace Conformance

namespace RunUnit

/-- Only a suite that can run is bound by its unit. -/
theorem suite?_ofSuite (implementation : Name) (source : Source) (suite : Suite) :
    (ofSuite implementation source suite).suite? =
      if suite.isWellFormed then some suite else none := by
  unfold ofSuite
  split <;> rfl

/-- A suite becomes an error unit exactly if it is malformed. -/
theorem isError_ofSuite (implementation : Name) (source : Source) (suite : Suite) :
    (ofSuite implementation source suite).isError = !suite.isWellFormed := by
  unfold ofSuite
  cases suite.isWellFormed <;> rfl

/-- The unit of a malformed suite is its report. -/
theorem ofSuite_of_malformed (implementation : Name) (source : Source) (suite : Suite)
    (malformed : suite.isWellFormed = false) :
    ofSuite implementation source suite = .error (.ofSuite suite) := by
  simp [ofSuite, malformed]

end RunUnit

namespace Subject

/-- The units of a subject with a source: its own tests first, then the given suites in order. -/
def unitsFor (subject : Subject) (registry : Registry) (source : Source) (suites : List Suite) :
    List RunUnit :=
  subject.directUnits registry source ++ suites.map (RunUnit.ofSuite subject.entry source)

/-- There is no unit exactly if there are no own tests and no suites. -/
theorem unitsFor_eq_nil_iff (subject : Subject) (registry : Registry) (source : Source)
    (suites : List Suite) :
    subject.unitsFor registry source suites = [] ↔
      subject.directTests registry = [] ∧ suites = [] := by
  rw [unitsFor, List.append_eq_nil_iff, List.map_eq_nil_iff, directUnits_eq]
  by_cases none : subject.directTests registry = [] <;> simp [none]

/-- With a source from the host, whoever has units gets them. -/
theorem assembled_of_source (subject : Subject) (registry : Registry) (plan : Plan)
    (source : Source) (supplied : subject.host.source = .ok source)
    (something : subject.unitsFor registry source plan.suites ≠ []) :
    (subject.assemble registry plan).value =
      .ok (subject.unitsFor registry source plan.suites) := by
  have hasTests : subject.hasTests registry plan = true := by
    rw [subject.hasTests_iff]
    by_cases inherited : subject.directTests registry = []
    · have planned : plan.suites ≠ [] := fun none =>
        something ((subject.unitsFor_eq_nil_iff registry source _).mpr ⟨inherited, none⟩)
      exact .inl planned
    · exact .inr inherited
  rw [subject.value_assemble, if_pos hasTests, supplied]
  rfl

/-- What is assembled are the units for the suites of the plan, with the source of the host. -/
theorem units_of_assembled (subject : Subject) (registry : Registry) (plan : Plan)
    (units : List RunUnit) (assembled : (subject.assemble registry plan).value = .ok units) :
    ∃ source, subject.host.source = .ok source ∧
      units = subject.unitsFor registry source plan.suites := by
  rw [subject.value_assemble] at assembled
  split at assembled
  · cases host : subject.host.source with
    | error reason => simp [host] at assembled
    | ok source =>
      refine ⟨source, rfl, ?_⟩
      simpa [host, unitsFor, eq_comm] using assembled
  · cases assembled

/-- The unit of the own tests is there exactly if there are any. -/
theorem mem_directUnits_iff (subject : Subject) (registry : Registry) (source : Source)
    (unit : RunUnit) :
    unit ∈ subject.directUnits registry source ↔
      subject.directTests registry ≠ [] ∧
        unit = .direct subject.entry subject.target (subject.directTests registry) source := by
  rw [subject.directUnits_eq]
  split
  · next none => simp [none]
  · next some => simp [some]

variable (subject : Subject) (registry : Registry) (source : Source) (suites : List Suite)

/-- A suite is bound by a unit only if it is one of the given ones and can run. -/
theorem bound_of_unitsFor (unit : RunUnit) (listed : unit ∈ subject.unitsFor registry source suites)
    (suite : Suite) (bound : unit.suite? = some suite) :
    suite ∈ suites ∧ suite.isWellFormed = true := by
  rcases List.mem_append.mp listed with direct | planned
  · obtain ⟨_, rfl⟩ := (subject.mem_directUnits_iff registry source unit).mp direct
    cases bound
  · obtain ⟨other, given, rfl⟩ := List.mem_map.mp planned
    rw [RunUnit.suite?_ofSuite] at bound
    split at bound
    · next wellFormed =>
      obtain rfl := Option.some.inj bound
      exact ⟨given, wellFormed⟩
    · cases bound

/-- A direct unit holds the subject's own tests. -/
theorem tests_of_unitsFor (name target : Name) (tests : List TestCase) (asked : Source)
    (listed : .direct name target tests asked ∈ subject.unitsFor registry source suites) :
    tests = subject.directTests registry := by
  rcases List.mem_append.mp listed with direct | planned
  · obtain ⟨_, same⟩ := (subject.mem_directUnits_iff registry source _).mp direct
    cases same
    rfl
  · obtain ⟨suite, _, made⟩ := List.mem_map.mp planned
    unfold RunUnit.ofSuite at made
    split at made <;> cases made

/-- The error units are the reports of the malformed suites. -/
theorem errors_of_unitsFor :
    (subject.unitsFor registry source suites).filter RunUnit.isError =
      (suites.filter fun suite => !suite.isWellFormed).map
        fun suite => .error (.ofSuite suite) := by
  have direct : (subject.directUnits registry source).filter RunUnit.isError = [] := by
    rw [List.filter_eq_nil_iff]
    intro unit listed
    obtain ⟨_, rfl⟩ := (subject.mem_directUnits_iff registry source unit).mp listed
    exact Bool.false_ne_true
  have kept : RunUnit.isError ∘ RunUnit.ofSuite subject.entry source =
      fun suite => !suite.isWellFormed :=
    funext (RunUnit.isError_ofSuite subject.entry source)
  rw [unitsFor, List.filter_append, direct, List.nil_append, List.filter_map, kept]
  refine List.map_congr_left ?_
  intro suite listed
  exact RunUnit.ofSuite_of_malformed _ _ suite (by simpa using (List.mem_filter.mp listed).2)

/-- Every error unit is the report of a malformed suite. -/
theorem suite_of_error (unit : ErrorUnit)
    (listed : .error unit ∈ subject.unitsFor registry source suites) :
    ∃ suite ∈ suites, suite.isWellFormed = false ∧ unit = .ofSuite suite := by
  have reported : .error unit ∈ (subject.unitsFor registry source suites).filter
      RunUnit.isError := List.mem_filter.mpr ⟨listed, rfl⟩
  rw [subject.errors_of_unitsFor] at reported
  obtain ⟨suite, malformed, same⟩ := List.mem_map.mp reported
  obtain ⟨member, broken⟩ := List.mem_filter.mp malformed
  exact ⟨suite, member, by simpa using broken, (RunUnit.error.inj same).symm⟩

end Subject

section Outcome

variable (subject : Subject) (graph : Graph) (registry : Registry)

/-- The units of a subject, resolved and assembled. -/
def Subject.units : Except Refusal (List RunUnit) :=
  match (subject.resolve graph registry).value with
  | .error refusal => .error refusal
  | .ok plan => (subject.assemble registry plan).value

/-- The contacts that resolving and assembling a subject takes. -/
def Subject.contacts : List Observation :=
  match (subject.resolve graph registry).value with
  | .error _ => []
  | .ok plan => (subject.assemble registry plan).trace

/-- The units of a subject with a plan are those that assembling the plan yields. -/
theorem Subject.units_of_resolved (plan : Plan)
    (resolved : (subject.resolve graph registry).value = .ok plan) :
    subject.units graph registry = (subject.assemble registry plan).value := by
  rw [units, resolved]

/-- A subject with a plan contacts whom assembling the plan contacts. -/
theorem Subject.contacts_of_resolved (plan : Plan)
    (resolved : (subject.resolve graph registry).value = .ok plan) :
    subject.contacts graph registry = (subject.assemble registry plan).trace := by
  rw [contacts, resolved]

/-- Whoever is assembled has a plan and a source, and the units are those for the suites of the
plan. -/
theorem Subject.planned_of_units (units : List RunUnit)
    (assembled : subject.units graph registry = .ok units) :
    ∃ plan source, (subject.resolve graph registry).value = .ok plan ∧
      subject.host.source = .ok source ∧ units = subject.unitsFor registry source plan.suites := by
  cases resolved : (subject.resolve graph registry).value with
  | error refusal => simp [Subject.units, resolved] at assembled
  | ok plan =>
    rw [subject.units_of_resolved graph registry plan resolved] at assembled
    obtain ⟨source, supplied, made⟩ := subject.units_of_assembled registry plan units assembled
    exact ⟨plan, source, rfl, supplied, made⟩

/-- Whoever is assembled has at least one unit. -/
theorem Subject.units_ne_nil (units : List RunUnit)
    (assembled : subject.units graph registry = .ok units) : units ≠ [] := by
  obtain ⟨plan, source, resolved, _, rfl⟩ :=
    subject.planned_of_units graph registry units assembled
  rw [subject.units_of_resolved graph registry plan resolved, subject.value_assemble] at assembled
  split at assembled
  · next something =>
    intro none
    obtain ⟨noOwn, noSuites⟩ := (subject.unitsFor_eq_nil_iff registry source plan.suites).mp none
    rcases (subject.hasTests_iff registry plan).mp something with planned | own
    · exact planned noSuites
    · exact own noOwn
  · cases assembled

/-- A subject is refused for one of three reasons, and the refusal names it. -/
theorem Subject.refusal_of_units (refusal : Refusal)
    (refused : subject.units graph registry = .error refusal) :
    (∃ unknown, refusal = .unknownTarget subject.entry unknown) ∨
      refusal = .noTests subject.entry ∨
      ∃ reason, subject.host.source = .error reason ∧
        refusal = .instantiation subject.entry reason := by
  rw [Subject.units, subject.value_resolve] at refused
  cases computed : graph.closure subject.target with
  | error unknown =>
    rw [computed] at refused
    exact .inl ⟨unknown, (Except.error.inj refused).symm⟩
  | ok closure =>
    simp only [computed, subject.value_assemble] at refused
    split at refused
    · cases host : subject.host.source with
      | error reason =>
        rw [host] at refused
        exact .inr (.inr ⟨reason, rfl, (Except.error.inj refused).symm⟩)
      | ok source => simp [host] at refused
    · exact .inr (.inl (Except.error.inj refused).symm)

/-- A refusal names the entry point that was refused. -/
theorem Subject.entry_of_refusal (refusal : Refusal)
    (refused : subject.units graph registry = .error refusal) : refusal.entry = subject.entry := by
  rcases subject.refusal_of_units graph registry refusal refused with
    ⟨unknown, rfl⟩ | rfl | ⟨reason, _, rfl⟩ <;> rfl

/-- The units of a subject do not depend on whom it belongs to, nor on anything about its host but
the source that the host supplies. -/
theorem Subject.units_congr (other : Subject) (entry : subject.entry = other.entry)
    (target : subject.target = other.target) (skip : subject.skip = other.skip)
    (source : subject.host.source = other.host.source) (tests : subject.tests = other.tests) :
    subject.units graph registry = other.units graph registry := by
  have finding : subject.finding registry = other.finding registry := by
    funext capability
    rw [finding_eq, finding_eq, skip]
  have plan (closure : NameSet) :
      Plan.ofClosure registry subject closure = Plan.ofClosure registry other closure := by
    simp only [Plan.ofClosure, finding, entry]
  have resolved :
      (subject.resolve graph registry).value = (other.resolve graph registry).value := by
    simp only [value_resolve, plan, entry, target]
  have own : subject.directTests registry = other.directTests registry := by
    rw [directTests, directTests, tests]
  have assembled (plan : Plan) :
      (subject.assemble registry plan).value = (other.assemble registry plan).value := by
    simp only [value_assemble, hasTests, directUnits_eq, own, entry, target, source]
  simp only [units, resolved, assembled]

end Outcome

end Conformance
