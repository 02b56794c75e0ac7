import Conformance.Coverage.Gather
import Conformance.Proofs.StaticBattery

/-!
# What a report says of the entry points that cannot be built

A report is gathered without building anything. It resolves every entry point and asks
whether there is something to run, where a build assembles units and calls the host.
For static entry points the two agree: a report carries the refusal that a build comes
to, unless only the host refuses, which a report cannot know.

`EntryCoverage.Mirrors` says what a contribution to a report has to be for the end that the
build comes to, and `gather_mirrors_build` says that the contributions of all entry points
stand in their order behind the defects of the suites, and that those of the static ones
are mirrors.
-/

namespace Conformance

/-- What an entry point contributes to a report of the context. -/
def Context.contribution (context : Context) (entry : Entry) : EntryCoverage :=
  (entry.coverage context.graph context.registry).value

namespace Entry

variable (entry : Entry) (graph : Graph) (registry : Registry)

/-- The coverage of an entry point without a marker is its refusal. -/
theorem coverage_of_unmarked (unmarked : entry.marker = none) :
    (entry.coverage graph registry).value = .ofRefusal (.missingMarker entry.name) := by
  have refused : Subject.ofEntry entry = .error (.missingMarker entry.name) := by
    rw [Subject.ofEntry, unmarked]
  rw [coverage, refused]
  rfl

/-- The coverage of an entry point with a marker is that of its plan, or the refusal of one. -/
theorem coverage_of_marked (marker : Marker) (marked : entry.marker = some marker) :
    (entry.coverage graph registry).value =
      match ((Subject.ofMarker entry marker).resolve graph registry).value with
      | .error refusal => .ofRefusal refusal
      | .ok plan => .ofPlan entry registry (Subject.ofMarker entry marker) plan := by
  rw [coverage, Subject.ofEntry_of_marked entry marker marked]
  simp only [Recorded.value_bind]
  cases ((Subject.ofMarker entry marker).resolve graph registry).value <;> rfl

/-- An entry point is refused, or it has a plan; and if it has nothing to run, that is one more
refusal. -/
theorem coverage_cases :
    (∃ refusal, (entry.coverage graph registry).value = .ofRefusal refusal) ∨
      ∃ plan : Plan, (entry.coverage graph registry).value = ⟨plan.closure, [], []⟩ ∨
        (entry.coverage graph registry).value =
          ⟨plan.closure, [entry.name], [.ofRefusal (.noTests entry.name)]⟩ := by
  cases marked : entry.marker with
  | none => exact .inl ⟨_, entry.coverage_of_unmarked graph registry marked⟩
  | some marker =>
    rw [entry.coverage_of_marked graph registry marker marked]
    cases ((Subject.ofMarker entry marker).resolve graph registry).value with
    | error refusal => exact .inl ⟨refusal, rfl⟩
    | ok plan =>
      refine .inr ⟨plan, ?_⟩
      simp only [EntryCoverage.ofPlan]
      split
      · exact .inl rfl
      · exact .inr rfl

section Planned

variable (types : List Name) (remembered : ∀ name, name ∈ registry.declaringTypes ↔ name ∈ types)
variable (static : entry.isDynamic = false)
variable (plan : Plan) (planned : entry.planned? graph registry = some plan)

include remembered static planned in
/-- A static entry point that has nothing to run is reported with its name. -/
theorem coverage_of_idle (idle : entry.Idle types plan) :
    (entry.coverage graph registry).value =
      ⟨plan.closure, [entry.name], [.refusal entry.name (Refusal.noTests entry.name).message]⟩ := by
  obtain ⟨marker, marked, resolved⟩ := (entry.planned?_eq_some_iff graph registry plan).mp planned
  have nothing : ¬ (Subject.ofMarker entry marker).hasTests registry plan = true := by
    intro something
    exact (entry.hasTests_ofMarker_iff marker registry types remembered plan).mp something idle
  rw [entry.coverage_of_marked graph registry marker marked, resolved]
  simp only [EntryCoverage.ofPlan, static, Bool.false_or, nothing]
  rfl

include remembered planned in
/-- An entry point that has something to run is not reported. -/
theorem coverage_of_busy (busy : ¬ entry.Idle types plan) :
    (entry.coverage graph registry).value = ⟨plan.closure, [], []⟩ := by
  obtain ⟨marker, marked, resolved⟩ := (entry.planned?_eq_some_iff graph registry plan).mp planned
  have something : (Subject.ofMarker entry marker).hasTests registry plan = true :=
    (entry.hasTests_ofMarker_iff marker registry types remembered plan).mpr busy
  rw [entry.coverage_of_marked graph registry marker marked, resolved]
  simp only [EntryCoverage.ofPlan, something, Bool.or_true, if_true]

end Planned

end Entry

/-- What a contribution to a report has to be for the end that building the entry point comes to. -/
structure EntryCoverage.Mirrors (coverage : EntryCoverage) (entry : Entry)
    (outcome : Except Refusal Battery) : Prop where
  /-- There is one diagnostic, with the name of the entry point and the wording of the refusal,
  exactly if the build is refused before the host is called. -/
  reported : (∃ refusal, outcome = .error refusal ∧
      coverage.errors = [.refusal entry.name refusal.message]) ↔
    outcome = .error (.missingMarker entry.name) ∨
      (∃ unknown, outcome = .error (.unknownTarget entry.name unknown)) ∨
      outcome = .error (.noTests entry.name)
  /-- There is none exactly if the build succeeds or only the host refuses. -/
  silent : coverage.errors = [] ↔
    (∃ battery, outcome = .ok battery) ∨
      ∃ reason, outcome = .error (.instantiation entry.name reason)
  /-- The name of the entry point is listed exactly if the build finds nothing to run. -/
  listed : coverage.untested = [entry.name] ↔ outcome = .error (.noTests entry.name)
  unlisted : coverage.untested = [] ↔ outcome ≠ .error (.noTests entry.name)

namespace StaticEnd

variable {context : Context} {types : List Name} {entry : Entry}
variable {outcome : Except Refusal Battery} {trace : List Observation}

/-- Each end of a build has its mirror. The ends before the host is called are refusals of the entry
point itself, and gathering comes upon them too; the last two ends differ in the host alone. -/
theorem mirrored (ended : StaticEnd context types entry outcome trace)
    (remembered : ∀ name, name ∈ context.registry.declaringTypes ↔ name ∈ types)
    (static : entry.isDynamic = false) : (context.contribution entry).Mirrors entry outcome := by
  cases ended with
  | missingMarker unmarked =>
    have coverage := entry.coverage_of_unmarked context.graph context.registry unmarked
    rw [Context.contribution, coverage]
    constructor <;> simp [EntryCoverage.ofRefusal, Diagnostic.ofRefusal, Refusal.entry]
  | unknownTarget marker marked undeclared =>
    have refused := (Subject.resolve_eq_error_iff (.ofMarker entry marker) context.graph
      context.registry _).mpr ⟨undeclared, rfl⟩
    have coverage := entry.coverage_of_marked context.graph context.registry marker marked
    rw [refused] at coverage
    rw [Context.contribution, coverage]
    constructor <;> simp [EntryCoverage.ofRefusal, Diagnostic.ofRefusal, Refusal.entry,
      Subject.ofMarker]
  | noTests marker marked declared plan planned idle =>
    have coverage := entry.coverage_of_idle context.graph context.registry types remembered static
      plan planned idle
    rw [Context.contribution, coverage]
    constructor <;> simp
  | instantiation marker marked declared plan planned busy reason failed =>
    have coverage := entry.coverage_of_busy context.graph context.registry types remembered
      plan planned busy
    rw [Context.contribution, coverage]
    constructor <;> simp
  | built marker marked declared plan planned busy source supplied =>
    have coverage := entry.coverage_of_busy context.graph context.registry types remembered
      plan planned busy
    rw [Context.contribution, coverage]
    constructor <;> simp

end StaticEnd

namespace Context

/-- A report and the builds of static entry points agree, in every context and for all packages.

Whatever the host does, gathering and building come to the same plan, and both hold it against an
entry point if neither the plan nor its own tests give it anything to run. -/
theorem gather_mirrors_build (context : Context) (packages : List String) :
    let report := (context.gather packages).value
    report.errors = context.registry.defects.map .defect ++
        context.entries.flatMap (fun entry => (context.contribution entry).errors) ∧
      report.untestedImplementations =
        context.entries.flatMap (fun entry => (context.contribution entry).untested) ∧
      ∀ entry ∈ context.entries, entry.isDynamic = false →
        (context.contribution entry).Mirrors entry (Battery.build entry context).value := by
  intro report
  refine ⟨?_, ?_, ?_⟩
  · rw [show report = _ from context.value_gather packages, errors_report, List.flatMap_map]
    rfl
  · rw [show report = _ from context.value_gather packages, untestedImplementations_report,
      List.flatMap_map]
    rfl
  · intro entry _ static
    have remembered (name : Name) : name ∈ context.registry.declaringTypes ↔
        name ∈ context.registry.declaringTypes.toList := Iff.rfl
    exact (Battery.build_static entry context _ remembered static).mirrored remembered static

end Context

end Conformance
