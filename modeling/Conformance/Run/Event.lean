import Conformance.Failure

/-!
# Run events

What a listener hears while units run, and what can be read from the events heard.
-/

namespace Conformance

/-- One thing heard during a run. -/
inductive RunEvent where
  | unitStarted (unit : String)
  | testStarted (unit test : String)
  | testFinished (unit test : String) (outcome : Outcome)
  | unitFinished (unit : String)
deriving DecidableEq

/-- The end of one test. -/
structure Finish where
  unit : String
  test : String
  outcome : Outcome
deriving DecidableEq

/-- The test that an event ends. -/
def RunEvent.finish? : RunEvent → Option Finish
  | .testFinished unit test outcome => some ⟨unit, test, outcome⟩
  | _ => none

/-- The unit that an event starts. -/
def RunEvent.startedUnit? : RunEvent → Option String
  | .unitStarted unit => some unit
  | _ => none

/-- A test that failed. -/
structure FailedTest where
  unit : String
  test : String
  failure : Failure
deriving DecidableEq

/-- The failed test that an end of a test stands for. -/
def Finish.failed? (finish : Finish) : Option FailedTest :=
  finish.outcome.failure?.map fun failure => ⟨finish.unit, finish.test, failure⟩

/-- How many tests passed, and which failed, in the order of their ends. -/
structure Summary where
  passed : Nat
  failures : List FailedTest
deriving DecidableEq

namespace Summary

def total (summary : Summary) : Nat := summary.passed + summary.failures.length

def isSuccess (summary : Summary) : Bool := summary.failures.isEmpty

end Summary

namespace RunEvent

/-- The ends of tests among the events, in order. -/
def finishes (events : List RunEvent) : List Finish := events.filterMap finish?

/-- The names of the units that started, in order. -/
def units (events : List RunEvent) : List String := events.filterMap startedUnit?

/-- The outcome with which a test of a unit ended first. -/
def outcome? (events : List RunEvent) (unit test : String) : Option Outcome :=
  let finish? := (finishes events).find? fun finish => finish.unit = unit && finish.test = test
  finish?.map Finish.outcome

/-- What the events say of all tests that ended. -/
def summary (events : List RunEvent) : Summary where
  passed := (finishes events).countP fun finish => finish.outcome.isPassed
  failures := (finishes events).filterMap Finish.failed?

end RunEvent

end Conformance
