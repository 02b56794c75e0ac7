import Conformance.Entry
import Conformance.Run.Lifecycle

/-!
# Units of a run

A unit is what a run starts and finishes as a whole: a suite bound to an
implementation, the implementation's own tests, a report of an error in the form of
one failing test, or a plain unit. A unit asks its source for one producer, before it
starts, and shares it among its tests. A panic of the source or of a clean-up leaves
the unit, and the run, unfinished.
-/

namespace Conformance

/-- A unit whose only test fails. -/
structure ErrorUnit where
  name : String
  test : String
  failure : Failure
deriving DecidableEq

/-- The unit that reports the defects of a suite. -/
def ErrorUnit.ofSuite (suite : Suite) : ErrorUnit where
  name := suite.key.display
  test := "errors during parsing of suite " ++ suite.declaringType.text
  failure := .malformed suite.declaringType (suite.defects.map Defect.message)

/-- The unit that reports why an implementation was refused. -/
def ErrorUnit.ofRefusal (refusal : Refusal) : ErrorUnit where
  name := refusal.entry.text
  test := "initialization of " ++ refusal.entry.text
  failure := .initialization refusal.message

/-- A unit of a run. -/
inductive RunUnit where
  /-- A suite bound to the source of an implementation. -/
  | contract (implementation : Name) (suite : Suite) (source : Source)
  /-- The tests of an entry point itself, offered the producer of the type under test. -/
  | direct (entry target : Name) (tests : List TestCase) (source : Source)
  | error (unit : ErrorUnit)
  | external (unit : PlainUnit)

/-- What a run leaves behind. A panic that ended it early stands in `escaped`. -/
structure Run where
  events : List RunEvent
  trace : List Observation
  escaped : Option Payload
deriving DecidableEq

namespace Run

/-- The run of nothing. -/
def nothing : Run := ⟨[], [], none⟩

/-- One run after another. The second takes place only if the first came to its end. -/
def andThen (first second : Run) : Run :=
  match first.escaped with
  | some _ => first
  | none => ⟨first.events ++ second.events, first.trace ++ second.trace, second.escaped⟩

/-- Several runs, one after another. -/
def sequence : List Run → Run
  | [] => nothing
  | first :: rest => first.andThen (sequence rest)

end Run

/-- What the tests of a unit leave behind, with the handle as the last of them left it. -/
structure Session where
  events : List RunEvent
  trace : List Observation
  handle : Option Handle
  escaped : Option Payload

/-- Runs tests in order on one handle. -/
def Session.ofTests (unit : String) (suite : Name) (before after : List Hook) :
    List TestCase → Option Handle → Session
  | [], handle => ⟨[], [], handle, none⟩
  | test :: rest, handle =>
    let first := test.execute suite before after handle
    match first.escaped with
    | some payload => ⟨[.testStarted unit test.name], first.trace, first.handle, some payload⟩
    | none =>
      let others := ofTests unit suite before after rest first.handle
      { others with
        events :=
          .testStarted unit test.name :: .testFinished unit test.name first.outcome :: others.events
        trace := first.trace ++ others.trace }

/-- The handle on what a source supplies for a capability: none if it supplies nothing, and the
panic of its factory instead if that panics. -/
def Source.bind (source : Source) (target : Name) : Except Payload (Option Handle) :=
  match source target with
  | none => .ok none
  | some (.ok producer) => .ok (some (Handle.new target producer))
  | some (.error payload) => .error payload

/-- Runs the tests of a unit with the producer that the source supplies for the target. -/
def Run.ofTests (unit : String) (suite target : Name) (before after : List Hook)
    (tests : List TestCase) (source : Source) : Run :=
  let asked := Observation.asked target (source target).isSome
  match source.bind target with
  | .error payload => ⟨[], [asked], some payload⟩
  | .ok handle =>
    let session := Session.ofTests unit suite before after tests handle
    let ending := if session.escaped.isSome then [] else [RunEvent.unitFinished unit]
    ⟨.unitStarted unit :: session.events ++ ending, asked :: session.trace, session.escaped⟩

/-- An error unit starts, fails its test and finishes. -/
def ErrorUnit.run (unit : ErrorUnit) : Run :=
  ⟨[.unitStarted unit.name, .testStarted unit.name unit.test,
    .testFinished unit.name unit.test (.failed unit.failure), .unitFinished unit.name], [], none⟩

namespace RunUnit

/-- The name under which a unit runs. -/
def name : RunUnit → String
  | .contract implementation suite _ => implementation.text ++ " " ++ suite.key.display
  | .direct entry _ _ _ => entry.text
  | .error unit => unit.name
  | .external unit => unit.name

/-- The tests of a unit in the order in which they run. -/
def testNames : RunUnit → List String
  | .contract _ suite _ => suite.tests.map TestCase.name
  | .direct _ _ tests _ => tests.map TestCase.name
  | .error unit => [unit.test]
  | .external unit => unit.testNames

def isError : RunUnit → Bool
  | .error _ => true
  | _ => false

/-- The suite that a unit binds. -/
def suite? : RunUnit → Option Suite
  | .contract _ suite _ => some suite
  | _ => none

/-- The implementation that a unit binds its suite to. -/
def implementation? : RunUnit → Option Name
  | .contract implementation _ _ => some implementation
  | _ => none

/-- The failure that an error unit reports. -/
def failure? : RunUnit → Option Failure
  | .error unit => some unit.failure
  | _ => none

/-- Runs a unit. Tests of an entry point itself have no hooks. -/
def run : RunUnit → Run
  | unit@(.contract _ suite source) =>
    .ofTests unit.name suite.declaringType suite.target suite.before suite.after suite.tests source
  | unit@(.direct entry target tests source) => .ofTests unit.name entry target [] [] tests source
  | .error unit => unit.run
  | .external unit => ⟨unit.events, [], none⟩

end RunUnit

end Conformance
