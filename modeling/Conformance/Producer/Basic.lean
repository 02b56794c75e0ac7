import Conformance.Observation

/-!
# Producers

A producer makes instances for tests and cleans up after them. What it does at a call
may depend on the calls made to it before, and on nothing else. A source knows how to
get a fresh producer for a capability.
-/

namespace Conformance

/-- What can be asked of a producer. -/
inductive Call where
  | request
  | cleanUp
deriving DecidableEq

/-- The answer to a request for an instance. -/
inductive Reply where
  | given (item : Instance)
  | refused (reason : String)
  | panic (payload : Payload)
deriving DecidableEq

/-- What happens at a clean-up: it may be reported, and it may panic after that. -/
structure Release where
  shown : Bool
  panic : Option Payload
deriving DecidableEq

/-- A clean-up that nobody notices. -/
def Release.silent : Release := ⟨false, none⟩

/-- Maker of instances. -/
structure Producer where
  /-- The capability that the producer reports itself for. -/
  capability : Name
  /-- The answer to a request after the given calls, first to last. -/
  reply : List Call → Reply
  /-- What a clean-up does after the given calls, first to last. -/
  release : List Call → Release

/-- How many of the calls are requests. -/
def requests (calls : List Call) : Nat := calls.count .request

/-- The producer that goes through its replies and starts again after the last of them. Without
any reply, the search for one is what panics. -/
def Producer.cycling (capability : Name) (replies : List Reply) (release : Release) : Producer where
  capability
  reply calls := (replies[requests calls % replies.length]?).getD
    (.panic (.text "attempt to calculate the remainder with a divisor of zero"))
  release _ := release

/-- What a request for a fresh producer does: it may panic instead. -/
abbrev Factory := Except Payload Producer

/-- Where an implementation gets its producers: for each capability a factory, or none. -/
abbrev Source := Name → Option Factory

/-- Factories by capability. -/
abbrev ProducerTable := SortedMap Name Factory

/-- The source that looks factories up in a table. -/
def ProducerTable.source (table : ProducerTable) : Source := table.get?

end Conformance
