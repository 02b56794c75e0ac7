import Conformance.Producer.Handle

/-!
# Test bodies

A body is a tree of interactions with the test's context: each node is one thing the
body does, and its branches say how the body goes on for each answer. So a theorem
about all scripts is a theorem about all bodies, and running one is recursion on it.
-/

namespace Conformance

/-- What a body knows of the producer bound to its unit. -/
structure Counters where
  capability : Name
  produced : Nat
  cleaned : Nat
deriving DecidableEq

/-- A test body or a hook body. -/
inductive Script where
  | done
  | fail (failure : Failure)
  | panic (payload : Payload)
  /-- Puts something on record. -/
  | record (remark : Remark) (next : Script)
  /-- Learns the suite and the test it runs in. -/
  | whereabouts (next : Name → String → Script)
  /-- Asks the bound producer for an instance. -/
  | request (kind : InstanceKind) (next : Except Failure Instance → Script)
  /-- Reads the counters of the bound producer. -/
  | counters (next : Except Failure Counters → Script)
  /-- Makes the bound producer clean up. -/
  | cleanUp (next : Except Failure Unit → Script)

/-- What a body leaves behind. -/
structure Ran where
  ending : Ending Unit
  handle : Option Handle
  trace : List Observation

/-- The same, after something was observed. -/
def Ran.after (trace : List Observation) (ran : Ran) : Ran :=
  { ran with trace := trace ++ ran.trace }

namespace Script

/-- Runs a body in its suite and test, with the producer bound to the unit, if there is one. A
panic of the producer is a panic of the body. -/
def run (suite : Name) (test : String) : Script → Option Handle → Ran
  | .done, handle => ⟨.value (), handle, []⟩
  | .fail failure, handle => ⟨.failed failure, handle, []⟩
  | .panic payload, handle => ⟨.panicked payload, handle, []⟩
  | .record remark next, handle => (next.run suite test handle).after [.remark remark]
  | .whereabouts next, handle => (next suite test).run suite test handle
  | .request _ next, none => (next (.error (.unbound suite))).run suite test none
  | .request kind next, some handle =>
    let served := handle.request
    match served.answer.ofKind kind with
    | .value item => ((next (.ok item)).run suite test (some served.handle)).after served.trace
    | .failed failure =>
      ((next (.error failure)).run suite test (some served.handle)).after served.trace
    | .panicked payload => ⟨.panicked payload, some served.handle, served.trace⟩
  | .counters next, none => (next (.error (.unbound suite))).run suite test none
  | .counters next, some handle =>
    (next (.ok ⟨handle.capability, handle.produced, handle.cleaned⟩)).run suite test (some handle)
  | .cleanUp next, none => (next (.error (.unbound suite))).run suite test none
  | .cleanUp next, some handle =>
    let served := handle.cleanUp
    match served.answer with
    | none => ((next (.ok ())).run suite test (some served.handle)).after served.trace
    | some payload => ⟨.panicked payload, some served.handle, served.trace⟩

end Script

/-- One step of a body that is written as a list of steps. -/
inductive Step where
  /-- Notes a text together with the suite and the test. -/
  | note (text : String)
  /-- Asks for an instance and records it; another one than the expected fails with the message. -/
  | new (kind : InstanceKind) (expected : Option Instance) (message : String)
  /-- The same, but a failure to get an instance is only recorded. -/
  | tryNew (kind : InstanceKind) (expected : Option Instance) (message : String)
  /-- Records the counters of the bound producer. -/
  | counters
  /-- Makes the bound producer clean up. -/
  | cleanUp
  /-- Fails with the message unless the condition holds. -/
  | ensure (condition : Bool) (message : String)
  | raise (failure : Failure)
  | panic (payload : Payload)

namespace Script

/-- Goes on with an answer, or fails with the failure that came in its place. -/
def requiring {α : Type} (next : α → Script) : Except Failure α → Script
  | .ok answer => next answer
  | .error failure => .fail failure

/-- The failure of an instance that is not the expected one. -/
def unexpected? (item : Instance) (expected : Option Instance) (message : String) :
    Option Failure :=
  if expected.isNone || expected = some item then none else some (.assertion message)

/-- Asks for an instance, records it and compares it with the expected one, then goes on without a
failure or with the first that occurred. -/
def obtain (kind : InstanceKind) (expected : Option Instance) (message : String)
    (next : Option Failure → Script) : Script :=
  .request kind fun
    | .ok item => .record (.received item) (next (unexpected? item expected message))
    | .error failure => next (some failure)

/-- The body that takes the steps in order; the first that fails ends it. -/
def ofSteps : List Step → Script
  | [] => .done
  | .note text :: rest =>
    .whereabouts fun suite test => .record (.note text suite test) (ofSteps rest)
  | .new kind expected message :: rest =>
    obtain kind expected message (·.elim (ofSteps rest) .fail)
  | .tryNew kind expected message :: rest =>
    obtain kind expected message (·.elim (ofSteps rest) fun failure =>
      .record (.caught failure) (ofSteps rest))
  | .counters :: rest =>
    .counters (requiring fun counters =>
      .record (.counters counters.capability counters.produced counters.cleaned) (ofSteps rest))
  | .cleanUp :: rest => .cleanUp (requiring fun _ => ofSteps rest)
  | .ensure condition message :: rest =>
    if condition then ofSteps rest else .fail (.assertion message)
  | .raise failure :: _ => .fail failure
  | .panic payload :: _ => .panic payload

end Script

end Conformance
