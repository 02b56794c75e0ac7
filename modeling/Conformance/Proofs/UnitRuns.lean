import Conformance.Run.Unit

/-!
# How a unit runs its tests

Contract units and direct units run alike: they bind a producer, run tests in order on it
and differ only in what they are given. `Workload` is what they are given.

A test is performed by its hooks and its body, and then concluded by the engine, which
makes the bound producer clean up. Only the conclusion can end a run early. If no
conclusion does, a session runs all its tests, and its events and its trace are those of
the tests one after another; main statements: `Session.ofTests_calm` and
`Workload.Undisturbed.run_eq`.
-/

namespace Conformance

/-- What hooks and body of a test leave behind. -/
def TestCase.perform (suite : Name) (before after : List Hook) (test : TestCase)
    (handle : Option Handle) : Progress :=
  let opening := Part.untilFailure suite test.name
    (hookParts .before before ++ [⟨.body, test.body⟩]) handle
  let closing := Part.throughout suite test.name (hookParts .after after) opening.handle
  ⟨opening.failure? <|> closing.failure?, closing.handle, opening.trace ++ closing.trace⟩

/-- The end of a test: the outcome stands, and the bound producer has to clean up. -/
def Progress.conclude (progress : Progress) : TestRun :=
  match progress.handle with
  | none => ⟨.ofFailure? progress.failure?, none, progress.trace, none⟩
  | some bound =>
    let served := bound.cleanUp
    ⟨.ofFailure? progress.failure?, some served.handle,
      progress.trace ++ .entered .cleanUp :: served.trace, served.answer⟩

/-- A test is performed and then concluded. -/
theorem TestCase.execute_eq (suite : Name) (before after : List Hook) (test : TestCase)
    (handle : Option Handle) :
    test.execute suite before after handle = (test.perform suite before after handle).conclude :=
  rfl

/-- The performances of tests in order, each on the handle that the conclusion of the one before it
leaves. -/
def TestCase.performAll (suite : Name) (before after : List Hook) :
    List TestCase → Option Handle → List Progress
  | [], _ => []
  | test :: rest, handle =>
    let progress := test.perform suite before after handle
    progress :: performAll suite before after rest progress.conclude.handle

/-- There is one performance for each test. -/
theorem TestCase.length_performAll (suite : Name) (before after : List Hook)
    (tests : List TestCase) (handle : Option Handle) :
    (performAll suite before after tests handle).length = tests.length := by
  induction tests generalizing handle with
  | nil => rfl
  | cons test rest inductionHypothesis =>
    rw [performAll, List.length_cons, inductionHypothesis, List.length_cons]

/-- The events of tests that end one after another with the given outcomes. -/
def RunEvent.ofEnds (unit : String) (ends : List (String × Outcome)) : List RunEvent :=
  ends.flatMap fun (test, outcome) => [.testStarted unit test, .testFinished unit test outcome]

/-- The events of a unit that the engine runs itself. -/
def RunEvent.block (unit : String) (ends : List (String × Outcome)) : List RunEvent :=
  .unitStarted unit :: ofEnds unit ends ++ [.unitFinished unit]

namespace Session

variable (unit : String) (suite : Name) (before after : List Hook) (tests : List TestCase)
  (handle : Option Handle)

/-- A session in which no conclusion panics runs the first test and then the others. -/
theorem ofTests_cons (test : TestCase)
    (calm : (test.perform suite before after handle).conclude.escaped = none) :
    let first := (test.perform suite before after handle).conclude
    let others := ofTests unit suite before after tests first.handle
    ofTests unit suite before after (test :: tests) handle =
      ⟨.testStarted unit test.name :: .testFinished unit test.name first.outcome :: others.events,
        first.trace ++ others.trace, others.handle, others.escaped⟩ := by
  rw [ofTests, TestCase.execute_eq, calm]

/-- A session in which no conclusion panics comes to its end. Each test starts and ends with its own
outcome before the next one starts, and what is observed follows in the same order. -/
theorem ofTests_calm (calm : ∀ progress ∈ TestCase.performAll suite before after tests handle,
    progress.conclude.escaped = none) :
    let performances := TestCase.performAll suite before after tests handle
    ∃ left, ofTests unit suite before after tests handle =
      ⟨RunEvent.ofEnds unit ((tests.map TestCase.name).zip
          (performances.map fun progress => progress.conclude.outcome)),
        performances.flatMap fun progress => progress.conclude.trace, left, none⟩ := by
  induction tests generalizing handle with
  | nil => exact ⟨handle, rfl⟩
  | cons test rest inductionHypothesis =>
    obtain ⟨first, others⟩ := List.forall_mem_cons.mp calm
    obtain ⟨left, later⟩ := inductionHypothesis _ others
    rw [ofTests_cons unit suite before after rest handle test first, later]
    exact ⟨left, rfl⟩

end Session

/-- What a contract unit or a direct unit is given to run. -/
structure Workload where
  /-- What the tests take for the declaring type of their suite. -/
  suite : Name
  /-- The capability that the source is asked about. -/
  target : Name
  before : List Hook
  after : List Hook
  tests : List TestCase
  source : Source

/-- The workload of a contract unit is its suite; that of a direct unit has no hooks, and stands in
the name of the entry point. -/
def RunUnit.workload? : RunUnit → Option Workload
  | .contract _ suite source =>
    some ⟨suite.declaringType, suite.target, suite.before, suite.after, suite.tests, source⟩
  | .direct entry target tests source => some ⟨entry, target, [], [], tests, source⟩
  | .error _ => none
  | .external _ => none

namespace Workload

/-- Runs a workload under the name of its unit. -/
def run (work : Workload) (unit : String) : Run :=
  .ofTests unit work.suite work.target work.before work.after work.tests work.source

/-- The handle that the tests begin with: a new one, if the source has a producer. -/
def handle (work : Workload) : Option Handle :=
  match work.source work.target with
  | some (.ok producer) => some (Handle.new work.target producer)
  | _ => none

/-- The performances of the tests. -/
def performances (work : Workload) : List Progress :=
  TestCase.performAll work.suite work.before work.after work.tests work.handle

/-- The tests on the handle that they begin with. -/
def session (work : Workload) (unit : String) : Session :=
  .ofTests unit work.suite work.before work.after work.tests work.handle

/-- Neither the factory of the producer nor a clean-up of the engine panics. Hooks and bodies may,
and so may the producer when they call it. -/
structure Undisturbed (work : Workload) : Prop where
  supplied : ∀ payload, work.source work.target ≠ some (.error payload)
  concluded : ∀ progress ∈ work.performances, progress.conclude.escaped = none

/-- A workload has one performance for each of its tests. -/
theorem length_performances (work : Workload) :
    work.performances.length = work.tests.length :=
  TestCase.length_performAll _ _ _ _ _

/-- Unless the factory panics, the session follows the start of the unit. -/
theorem run_of_supplied (work : Workload) (unit : String)
    (supplied : ∀ payload, work.source work.target ≠ some (.error payload)) :
    work.run unit =
      let session := work.session unit
      ⟨.unitStarted unit :: session.events ++
          if session.escaped.isSome then [] else [.unitFinished unit],
        .asked work.target (work.source work.target).isSome :: session.trace,
        session.escaped⟩ := by
  rw [run, Run.ofTests, Source.bind, session, handle]
  cases asked : work.source work.target with
  | none => rfl
  | some factory =>
    cases factory with
    | ok producer => rfl
    | error payload => exact absurd asked (supplied payload)

namespace Undisturbed

variable {work : Workload} (undisturbed : work.Undisturbed) (unit : String)

include undisturbed

/-- What is observed of the tests of an undisturbed workload is what is observed of each up to its
conclusion, in order. -/
theorem trace_session : (work.session unit).trace =
    work.performances.flatMap fun progress => progress.conclude.trace := by
  obtain ⟨left, session⟩ := Session.ofTests_calm unit _ _ _ _ _ undisturbed.concluded
  rw [Workload.session, session]
  rfl

/-- An undisturbed workload is heard as one block and comes to its end. -/
theorem run_eq : work.run unit =
    ⟨RunEvent.block unit ((work.tests.map TestCase.name).zip
        (work.performances.map fun progress => progress.conclude.outcome)),
      .asked work.target (work.source work.target).isSome ::
        work.performances.flatMap fun progress => progress.conclude.trace, none⟩ := by
  obtain ⟨left, session⟩ := Session.ofTests_calm unit _ _ _ _ _ undisturbed.concluded
  rw [work.run_of_supplied unit undisturbed.supplied, Workload.session, session]
  rfl

end Undisturbed

end Workload

/-- A unit with a workload runs its workload. -/
theorem RunUnit.run_of_workload (unit : RunUnit) (work : Workload)
    (works : unit.workload? = some work) : unit.run = work.run unit.name := by
  cases unit with
  | contract implementation suite source =>
    obtain rfl := Option.some.inj works
    rfl
  | direct entry target tests source =>
    obtain rfl := Option.some.inj works
    rfl
  | error unit => cases works
  | external unit => cases works

/-- The tests of a unit are those of its workload. -/
theorem RunUnit.testNames_of_workload (unit : RunUnit) (work : Workload)
    (works : unit.workload? = some work) : unit.testNames = work.tests.map TestCase.name := by
  cases unit with
  | contract implementation suite source =>
    obtain rfl := Option.some.inj works
    rfl
  | direct entry target tests source =>
    obtain rfl := Option.some.inj works
    rfl
  | error unit => cases works
  | external unit => cases works

end Conformance
