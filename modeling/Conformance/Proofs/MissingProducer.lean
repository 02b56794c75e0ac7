import Conformance.Proofs.ProducerCalls

/-!
# Running without a producer

`Script.refused` takes a body's access to a producer away: whatever the body asks of one has
failed already. A unit whose source has no producer runs as if each of its bodies were
refused with the failure `unbound`, which names what the tests take for the declaring type
of their suite; main statement: `Workload.run_refused`.
-/

namespace Conformance

/-- The body to which each access to the producer has failed. -/
def Script.refused (failure : Failure) : Script → Script
  | .done => .done
  | .fail own => .fail own
  | .panic payload => .panic payload
  | .record remark next => .record remark (next.refused failure)
  | .whereabouts next => .whereabouts fun suite test => (next suite test).refused failure
  | .request _ next => (next (.error failure)).refused failure
  | .counters next => (next (.error failure)).refused failure
  | .cleanUp next => (next (.error failure)).refused failure

/-- A refused body does not touch the handle that it gets, and otherwise runs as the body does
without a handle. -/
theorem Script.run_refused (suite : Name) (test : String) (script : Script)
    (handle : Option Handle) :
    let ran := script.run suite test none
    (script.refused (.unbound suite)).run suite test handle = ⟨ran.ending, handle, ran.trace⟩ := by
  induction script generalizing handle with
  | done => rfl
  | fail failure => rfl
  | panic payload => rfl
  | record remark next inductionHypothesis =>
    exact congrArg (Ran.after [.remark remark]) (inductionHypothesis handle)
  | whereabouts next inductionHypothesis => exact inductionHypothesis suite test handle
  | request kind next inductionHypothesis => exact inductionHypothesis _ handle
  | counters next inductionHypothesis => exact inductionHypothesis _ handle
  | cleanUp next inductionHypothesis => exact inductionHypothesis _ handle

def Hook.refused (failure : Failure) (hook : Hook) : Hook :=
  { hook with body := hook.body.refused failure }

def TestCase.refused (failure : Failure) (test : TestCase) : TestCase :=
  { test with body := test.body.refused failure }

def Part.refused (failure : Failure) (part : Part) : Part :=
  { part with body := part.body.refused failure }

/-- The parts of hooks whose bodies are refused are their parts with bodies refused. -/
theorem hookParts_refused (failure : Failure) (place : Nat → Stage) (hooks : List Hook) :
    hookParts place (hooks.map (Hook.refused failure)) =
      (hookParts place hooks).map (Part.refused failure) := by
  apply List.ext_getElem
  · simp [hookParts]
  · intro position inParts inRefused
    simp [hookParts, Hook.refused, Part.refused]

namespace Part

variable (suite : Name) (test : String)

/-- A part without a handle leaves none. -/
theorem handle_attempt_unbound (part : Part) : (part.attempt suite test none).handle = none :=
  Option.map_eq_none_iff.mp (part.uses_attempt suite test none).producer

/-- Without a handle a refused part is attempted as the part itself is. -/
theorem attempt_refused (part : Part) :
    (part.refused (.unbound suite)).attempt suite test none = part.attempt suite test none := by
  have ran := part.body.run_refused suite test none
  have untouched : (part.body.run suite test none).handle = none :=
    part.handle_attempt_unbound suite test
  rw [attempt, refused, ran, attempt, untouched]

/-- Without a handle refused parts are run until one fails as the parts themselves are. -/
theorem untilFailure_refused (parts : List Part) :
    untilFailure suite test (parts.map (refused (.unbound suite))) none =
      untilFailure suite test parts none := by
  induction parts with
  | nil => rfl
  | cons part rest inductionHypothesis =>
    rw [List.map_cons, untilFailure, untilFailure, part.attempt_refused,
      part.handle_attempt_unbound, inductionHypothesis]

/-- Without a handle refused parts are run throughout as the parts themselves are. -/
theorem throughout_refused (parts : List Part) :
    throughout suite test (parts.map (refused (.unbound suite))) none =
      throughout suite test parts none := by
  induction parts with
  | nil => rfl
  | cons part rest inductionHypothesis =>
    rw [List.map_cons, throughout, throughout, part.attempt_refused,
      part.handle_attempt_unbound, inductionHypothesis]

/-- Parts without a handle leave none. -/
theorem handle_untilFailure_unbound (parts : List Part) :
    (untilFailure suite test parts none).handle = none :=
  Option.map_eq_none_iff.mp (uses_untilFailure suite test parts none).producer

end Part

/-- Without a handle a test of refused bodies runs as the test itself does. -/
theorem TestCase.perform_refused (suite : Name) (before after : List Hook) (test : TestCase) :
    let failure := Failure.unbound suite
    (test.refused failure).perform suite (before.map (Hook.refused failure))
        (after.map (Hook.refused failure)) none =
      test.perform suite before after none := by
  have opening (hooks : List Part) :
      hooks.map (Part.refused (.unbound suite)) ++ [⟨.body, test.body.refused (.unbound suite)⟩] =
        List.map (Part.refused (.unbound suite)) (hooks ++ [⟨.body, test.body⟩]) := by
    rw [List.map_append]
    rfl
  simp only [perform, refused, hookParts_refused, opening, Part.untilFailure_refused,
    Part.handle_untilFailure_unbound, Part.throughout_refused]

/-- Without a handle a test leaves none. -/
theorem TestCase.handle_conclude_unbound (suite : Name) (before after : List Hook)
    (test : TestCase) : (test.perform suite before after none).conclude.handle = none :=
  Option.map_eq_none_iff.mp
    (Progress.uses_conclude (test.uses_perform suite before after none)).producer

/-- Without a handle a session of refused bodies runs as the session itself does. -/
theorem Session.ofTests_refused (unit : String) (suite : Name) (before after : List Hook)
    (tests : List TestCase) :
    let failure := Failure.unbound suite
    ofTests unit suite (before.map (Hook.refused failure)) (after.map (Hook.refused failure))
        (tests.map (TestCase.refused failure)) none =
      ofTests unit suite before after tests none := by
  induction tests with
  | nil => rfl
  | cons test rest inductionHypothesis =>
    simp only [List.map_cons, ofTests, TestCase.execute_eq, TestCase.perform_refused,
      TestCase.handle_conclude_unbound, inductionHypothesis]
    rfl

/-- The workload of which every body finds the producer missing. -/
def Workload.refused (work : Workload) : Workload :=
  let failure := Failure.unbound work.suite
  { work with
    before := work.before.map (Hook.refused failure)
    after := work.after.map (Hook.refused failure)
    tests := work.tests.map (TestCase.refused failure) }

/-- If the source has no producer, each access to one fails, and the failure names the suite. -/
theorem Workload.run_refused (work : Workload) (unit : String)
    (missing : work.source work.target = none) : work.refused.run unit = work.run unit := by
  have bound : work.source.bind work.target = .ok none := by rw [Source.bind, missing]
  have boundRefused : work.refused.source.bind work.refused.target = .ok none := bound
  rw [run, run, Run.ofTests, Run.ofTests, bound, boundRefused]
  dsimp only
  rw [refused, Session.ofTests_refused]

end Conformance
