import Conformance.Producer.Basic

/-!
# Handles

A handle is what one unit holds of its producer: it passes the calls on, keeps their
history, and counts the instances handed out and the clean-ups that came back.
-/

namespace Conformance

/-- A producer in the hands of one unit. -/
structure Handle where
  capability : Name
  producer : Producer
  /-- The calls made so far, first to last. -/
  calls : List Call
  /-- How many instances were handed out. -/
  produced : Nat
  /-- How many clean-ups came back. -/
  cleaned : Nat

/-- An instance of the type asked for, or the failure for one of another type. -/
def Instance.ofKind (item : Instance) (kind : InstanceKind) : Ending Instance :=
  if item.kind = kind then .value item else .failed (.mismatch kind.label)

/-- What a reply is worth to a test that asks for an instance of a type. -/
def Reply.ofKind (reply : Reply) (kind : InstanceKind) : Ending Instance :=
  match reply with
  | .given item => item.ofKind kind
  | .refused reason => .failed (.production reason)
  | .panic payload => .panicked payload

namespace Handle

/-- A handle on a producer that has not been called. -/
def new (capability : Name) (producer : Producer) : Handle := ⟨capability, producer, [], 0, 0⟩

/-- What a call leaves behind: the handle after it, what was observed, and the answer. -/
structure Served (α : Type) where
  handle : Handle
  trace : List Observation
  answer : α

/-- Asks for an instance. An instance that is handed out counts, whatever its type. -/
def request (handle : Handle) : Served Reply :=
  let reply := handle.producer.reply handle.calls
  let given := match reply with
    | .given _ => 1
    | _ => 0
  { handle := { handle with
      calls := handle.calls ++ [.request], produced := handle.produced + given }
    trace := [.made handle.producer.capability (requests handle.calls + 1)]
    answer := reply }

/-- Asks for clean-up. A clean-up that panics does not count. -/
def cleanUp (handle : Handle) : Served (Option Payload) :=
  let release := handle.producer.release handle.calls
  let back := if release.panic.isNone then 1 else 0
  { handle := { handle with calls := handle.calls ++ [.cleanUp], cleaned := handle.cleaned + back }
    trace := [.cleaned handle.producer.capability release.shown]
    answer := release.panic }

end Handle

end Conformance
