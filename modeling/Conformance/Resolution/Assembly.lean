import Conformance.Resolution.Plan
import Conformance.Run.Unit

/-!
# Assembly

Assembling turns a subject and its plan into units: first the subject's own tests,
then one unit for each suite on the plan, where a malformed suite becomes the report
of its defects. The host is called once, and only if there is something to run.
-/

namespace Conformance

namespace Subject

/-- The tests of a subject that are not declared by a type known to declare suites. -/
def directTests (subject : Subject) (registry : Registry) : List TestCase :=
  subject.tests.filter fun test => !registry.isDeclaringType test.declaredIn

/-- Whether a subject has anything to run. -/
def hasTests (subject : Subject) (registry : Registry) (plan : Plan) : Bool :=
  !plan.isEmpty || !(subject.directTests registry).isEmpty

/-- A subject has tests if a suite is planned for it or it has tests of its own. -/
theorem hasTests_iff (subject : Subject) (registry : Registry) (plan : Plan) :
    subject.hasTests registry plan = true ↔
      plan.suites ≠ [] ∨ subject.directTests registry ≠ [] := by
  simp [hasTests, Plan.isEmpty]

/-- Assembly checks on its own whether there is nothing to run, and the two answers exclude each
other. -/
theorem nothingToRun_eq (subject : Subject) (registry : Registry) (plan : Plan) :
    (plan.isEmpty && (subject.directTests registry).isEmpty) = !subject.hasTests registry plan := by
  rw [hasTests, Bool.not_or, Bool.not_not, Bool.not_not]

/-- Tests of its own are those that no type with a registered suite declares. -/
theorem mem_directTests_iff (subject : Subject) (registry : Registry) (test : TestCase) :
    test ∈ subject.directTests registry ↔
      test ∈ subject.tests ∧ ¬ test.declaredIn ∈ registry.declaringTypes := by
  simp [directTests, Registry.isDeclaringType]

/-- The unit of the subject's own tests, if it has any. -/
def directUnits (subject : Subject) (registry : Registry) (source : Source) : List RunUnit :=
  match subject.directTests registry with
  | [] => []
  | tests => [.direct subject.entry subject.target tests source]

/-- The own tests of a subject make one unit, if there are any. -/
theorem directUnits_eq (subject : Subject) (registry : Registry) (source : Source) :
    subject.directUnits registry source =
      if subject.directTests registry = [] then []
      else [.direct subject.entry subject.target (subject.directTests registry) source] := by
  unfold directUnits
  cases subject.directTests registry <;> simp

end Subject

/-- The unit of one suite on a plan. -/
def RunUnit.ofSuite (implementation : Name) (source : Source) (suite : Suite) : RunUnit :=
  if suite.isWellFormed then .contract implementation suite source else .error (.ofSuite suite)

/-- What is logged when a suite is turned into a unit. -/
def Suite.complaints (suite : Suite) : List LogRecord :=
  if suite.isWellFormed then []
  else ⟨.error, "Errors during parsing " ++ suite.declaringType.text⟩ ::
    suite.defects.map fun defect => ⟨.error, defect.message⟩

/-- The units of a subject whose plan is known. -/
def Subject.assemble (subject : Subject) (registry : Registry) (plan : Plan) :
    Recorded (Except Refusal (List RunUnit)) :=
  if plan.isEmpty && (subject.directTests registry).isEmpty then
    return .error (.noTests subject.entry)
  else do
    match ← subject.instantiate with
    | .error refusal => return .error refusal
    | .ok source =>
      let suiteUnits ← Recorded.forEach plan.suites fun suite =>
        ⟨RunUnit.ofSuite subject.entry source suite, suite.complaints, []⟩
      return .ok (subject.directUnits registry source ++ suiteUnits)

namespace Subject

/-- What is there is not refused. -/
theorem mapError_ok {α ε δ : Type} (wrap : ε → δ) (result : α) :
    (Except.ok result).mapError wrap = .ok result := rfl

/-- A plan with nothing to run is refused before the host is called; otherwise the host supplies the
source of all units. -/
theorem value_assemble (subject : Subject) (registry : Registry) (plan : Plan) :
    (subject.assemble registry plan).value =
      if subject.hasTests registry plan then
        match subject.host.source with
        | .error reason => .error (.instantiation subject.entry reason)
        | .ok source => .ok (subject.directUnits registry source ++
            plan.suites.map (RunUnit.ofSuite subject.entry source))
      else .error (.noTests subject.entry) := by
  rw [assemble, nothingToRun_eq]
  cases subject.hasTests registry plan with
  | false => rfl
  | true =>
    simp only [Bool.not_true, Bool.false_eq_true, if_false, Recorded.value_bind, instantiate,
      Recorded.value_pure]
    cases subject.host.source with
    | error reason => rfl
    | ok source => simp [mapError_ok]

/-- The host is called if there is something to run, and then once. -/
theorem trace_assemble (subject : Subject) (registry : Registry) (plan : Plan) :
    (subject.assemble registry plan).trace =
      if subject.hasTests registry plan then [.host subject.host.owner subject.host.shown]
      else [] := by
  rw [assemble, nothingToRun_eq]
  cases subject.hasTests registry plan with
  | false => rfl
  | true =>
    simp only [Bool.not_true, Bool.false_eq_true, if_false, Recorded.trace_bind, instantiate,
      Recorded.value_bind, Recorded.value_pure]
    cases subject.host.source with
    | error reason => rfl
    | ok source => simp [mapError_ok, Recorded.observed]

/-- Complaints about the planned suites are logged once there is a source for the units. -/
theorem log_assemble (subject : Subject) (registry : Registry) (plan : Plan) :
    (subject.assemble registry plan).log =
      if subject.hasTests registry plan then
        match subject.host.source with
        | .error _ => []
        | .ok _ => plan.suites.flatMap Suite.complaints
      else [] := by
  rw [assemble, nothingToRun_eq]
  cases subject.hasTests registry plan with
  | false => rfl
  | true =>
    simp only [Bool.not_true, Bool.false_eq_true, if_false, Recorded.log_bind, instantiate,
      Recorded.value_bind, Recorded.value_pure]
    cases subject.host.source with
    | error reason => rfl
    | ok source => simp [mapError_ok, Recorded.observed]

end Subject

end Conformance
