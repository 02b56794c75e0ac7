import Conformance.Suite.Basic

/-!
# The lifecycle of one test

A test runs between the hooks of its suite. The hooks before it run until one fails;
the body runs if none did; the hooks after it run in any case; the engine then makes
the bound producer clean up. Panics of hooks and bodies are failures; a panic of the
final clean-up ends the whole run. The first failure is the outcome.
-/

namespace Conformance

/-- What a part of a test leaves behind: the first failure, the handle and what was observed. -/
structure Progress where
  failure? : Option Failure
  handle : Option Handle
  trace : List Observation

/-- One part of a test with its place. -/
structure Part where
  stage : Stage
  body : Script

namespace Part

/-- Runs a part; a panic of its body is a failure. -/
def attempt (suite : Name) (test : String) (part : Part) (handle : Option Handle) : Progress :=
  let ran := part.body.run suite test handle
  ⟨ran.ending.failure?, ran.handle, .entered part.stage :: ran.trace⟩

/-- Runs parts in order up to the first that fails. -/
def untilFailure (suite : Name) (test : String) : List Part → Option Handle → Progress
  | [], handle => ⟨none, handle, []⟩
  | part :: rest, handle =>
    let first := part.attempt suite test handle
    match first.failure? with
    | some failure => ⟨some failure, first.handle, first.trace⟩
    | none =>
      let others := untilFailure suite test rest first.handle
      { others with trace := first.trace ++ others.trace }

/-- Runs all parts in order, whatever fails. -/
def throughout (suite : Name) (test : String) : List Part → Option Handle → Progress
  | [], handle => ⟨none, handle, []⟩
  | part :: rest, handle =>
    let first := part.attempt suite test handle
    let others := throughout suite test rest first.handle
    ⟨first.failure? <|> others.failure?, others.handle, first.trace ++ others.trace⟩

end Part

/-- Hooks as parts, numbered from zero. -/
def hookParts (place : Nat → Stage) (hooks : List Hook) : List Part :=
  hooks.mapIdx fun position hook => ⟨place position, hook.body⟩

/-- What one test leaves behind. A panic that ended the run stands in `escaped`; the outcome then
reaches nobody. -/
structure TestRun where
  outcome : Outcome
  handle : Option Handle
  trace : List Observation
  escaped : Option Payload

/-- Runs one test of a suite from its first hook to the final clean-up. -/
def TestCase.execute (suite : Name) (before after : List Hook) (test : TestCase)
    (handle : Option Handle) : TestRun :=
  let opening := Part.untilFailure suite test.name
    (hookParts .before before ++ [⟨.body, test.body⟩]) handle
  let closing := Part.throughout suite test.name (hookParts .after after) opening.handle
  let outcome := Outcome.ofFailure? (opening.failure? <|> closing.failure?)
  let trace := opening.trace ++ closing.trace
  match closing.handle with
  | none => ⟨outcome, none, trace, none⟩
  | some bound =>
    let served := bound.cleanUp
    ⟨outcome, some served.handle, trace ++ .entered .cleanUp :: served.trace, served.answer⟩

end Conformance
