import Conformance.Failure

/-!
# What a run lets its surroundings see

An observation is one contact between the engine and the code that it drives: hosts
and producers that are called, and remarks that test bodies make. All contacts are
recorded, in order; `Observation.isShown` tells which of them the code that was
called reports itself.
-/

namespace Conformance

/-- What a test body puts on record. -/
inductive Remark where
  /-- A note, with the suite and the test that it was made in. -/
  | note (text : String) (suite : Name) (test : String)
  /-- An instance that the body received. -/
  | received (item : Instance)
  /-- A failure that the body caught. -/
  | caught (failure : Failure)
  /-- The counters of the bound producer. -/
  | counters (capability : Name) (produced cleaned : Nat)
deriving DecidableEq

/-- The parts of one test: its hooks by position, its body, and the clean-up that ends it. -/
inductive Stage where
  | before (position : Nat)
  | body
  | after (position : Nat)
  | cleanUp
deriving DecidableEq

/-- One contact between the engine and the code that it drives. -/
inductive Observation where
  /-- The host of an entry point was called. -/
  | host (entry : Name) (shown : Bool)
  /-- The members of a dynamic entry point were asked for. -/
  | members (count : Nat)
  /-- A source was asked for the producer of a capability; it may have none. -/
  | asked (capability : Name) (found : Bool)
  /-- A producer was asked for an instance; requests are numbered from one. -/
  | made (capability : Name) (number : Nat)
  /-- A producer was asked to clean up. -/
  | cleaned (capability : Name) (shown : Bool)
  /-- A part of a test began. -/
  | entered (stage : Stage)
  /-- A body put something on record. -/
  | remark (remark : Remark)
deriving DecidableEq

/-- Whether the code that was called reports the contact. -/
def Observation.isShown : Observation → Bool
  | .host _ shown => shown
  | .members _ => true
  | .asked _ found => found
  | .made _ _ => true
  | .cleaned _ shown => shown
  | .entered _ => false
  | .remark _ => true

/-- The reported contacts, in order. -/
def shown (trace : List Observation) : List Observation := trace.filter Observation.isShown

end Conformance
