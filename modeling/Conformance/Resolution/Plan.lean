import Conformance.Entry
import Conformance.Registry

/-!
# Plans

The plan of a subject lists the suites that apply to it: those of every capability in
the closure of its target that it does not leave out, in the order of the
capabilities. What is left out and what has no suite is on the plan too.
-/

namespace Conformance

/-- The suites that apply to a subject. -/
structure Plan where
  /-- The entry point of the subject. -/
  implementation : Name
  closure : NameSet
  suites : List Suite
  /-- The capabilities that have no suite. -/
  untested : NameSet
  /-- The capabilities that the subject leaves out. -/
  skipped : NameSet

namespace Plan

def keys (plan : Plan) : List SuiteKey := plan.suites.map Suite.key

/-- The suites that can run. -/
def ready (plan : Plan) : List Suite := plan.suites.filter Suite.isWellFormed

/-- The suites that have defects. -/
def malformed (plan : Plan) : List Suite := plan.suites.filter fun suite => !suite.isWellFormed

def hasReady (plan : Plan) : Bool := plan.suites.any Suite.isWellFormed

def contains (plan : Plan) (key : SuiteKey) : Bool := plan.keys.any (· = key)

def size (plan : Plan) : Nat := plan.suites.length

def isEmpty (plan : Plan) : Bool := plan.suites.isEmpty

/-- Keeps the first suite of each key, given the keys that came before. -/
def distinct (seen : List SuiteKey) : List Suite → List Suite
  | [] => []
  | suite :: rest =>
    if suite.key ∈ seen then distinct seen rest else suite :: distinct (suite.key :: seen) rest

end Plan

/-- What a plan makes of one capability. -/
inductive Finding where
  | skipped
  | untested
  | tested (suites : List Suite)

/-- What the plan of a subject makes of a capability. -/
def Subject.finding (subject : Subject) (registry : Registry) (capability : Name) : Finding :=
  if subject.skips capability then .skipped
  else
    match registry.suitesFor capability with
    | [] => .untested
    | suites => .tested suites

/-- The suites that a finding contributes. -/
def Finding.suites : Finding → List Suite
  | .tested suites => suites
  | _ => []

def Finding.isSkipped : Finding → Bool
  | .skipped => true
  | _ => false

def Finding.isUntested : Finding → Bool
  | .untested => true
  | _ => false

/-- A capability is looked up for suites unless it is skipped. -/
theorem Subject.finding_eq (subject : Subject) (registry : Registry) (capability : Name) :
    subject.finding registry capability =
      if capability ∈ subject.skip then .skipped
      else if registry.suitesFor capability = [] then .untested
      else .tested (registry.suitesFor capability) := by
  unfold finding skips
  cases registry.suitesFor capability <;> simp

/-- A capability that is not skipped contributes all its suites. -/
theorem Subject.suites_finding (subject : Subject) (registry : Registry) (capability : Name) :
    (subject.finding registry capability).suites =
      if capability ∈ subject.skip then [] else registry.suitesFor capability := by
  rw [finding_eq]
  split
  · rfl
  · split
    · next none => exact none.symm
    · rfl

/-- A capability is found to be skipped if the subject skips it. -/
theorem Subject.isSkipped_finding (subject : Subject) (registry : Registry) (capability : Name) :
    (subject.finding registry capability).isSkipped = true ↔ capability ∈ subject.skip := by
  rw [finding_eq]
  split
  · next skipped => simp [Finding.isSkipped, skipped]
  · next kept => split <;> simp [Finding.isSkipped, kept]

/-- A capability is found to be untested if it is not skipped and has no suites. -/
theorem Subject.isUntested_finding (subject : Subject) (registry : Registry) (capability : Name) :
    (subject.finding registry capability).isUntested = true ↔
      ¬ capability ∈ subject.skip ∧ registry.suitesFor capability = [] := by
  rw [finding_eq]
  split
  · next skipped => simp [Finding.isUntested, skipped]
  · next kept => split <;> simp_all [Finding.isUntested]

/-- The log line for a capability that contributes nothing. -/
def Finding.remark? (entry capability : Name) : Finding → Option LogRecord
  | .skipped => some ⟨.info, "Skipping " ++ capability.text ++ " for " ++ entry.text⟩
  | .untested => some ⟨.info, "Checked " ++ capability.text ++ " found nothing"⟩
  | .tested _ => none

/-- The plan of a subject whose closure is known. -/
def Plan.ofClosure (registry : Registry) (subject : Subject) (closure : NameSet) : Plan where
  implementation := subject.entry
  closure
  suites := Plan.distinct []
    (closure.toList.flatMap fun name => (subject.finding registry name).suites)
  untested := closure.filter fun name => (subject.finding registry name).isUntested
  skipped := closure.filter fun name => (subject.finding registry name).isSkipped

/-- The plan of a subject. A target that is not declared refuses it. -/
def Subject.resolve (subject : Subject) (graph : Graph) (registry : Registry) :
    Recorded (Except Refusal Plan) :=
  match graph.closure subject.target with
  | .error unknown => pure (.error (.unknownTarget subject.entry unknown))
  | .ok closure =>
    { value := .ok (Plan.ofClosure registry subject closure)
      log := ⟨.debug, "seeking contracts for " ++ subject.entry.text ++ " across " ++
          toString closure.size ++ " capabilities"⟩ ::
        closure.toList.filterMap fun name =>
          (subject.finding registry name).remark? subject.entry name
      trace := [] }

/-- A subject is refused a plan if its target is not declared, and has that of its closure
otherwise. -/
theorem Subject.value_resolve (subject : Subject) (graph : Graph) (registry : Registry) :
    (subject.resolve graph registry).value =
      match graph.closure subject.target with
      | .error unknown => .error (.unknownTarget subject.entry unknown)
      | .ok closure => .ok (Plan.ofClosure registry subject closure) := by
  unfold resolve
  split <;> simp_all

/-- Only whoever is resolved is logged: the search itself, then what each capability in order gives
reason to remark. -/
theorem Subject.log_resolve (subject : Subject) (graph : Graph) (registry : Registry) :
    (subject.resolve graph registry).log =
      match graph.closure subject.target with
      | .error _ => []
      | .ok closure =>
        ⟨.debug, "seeking contracts for " ++ subject.entry.text ++ " across " ++
            toString closure.size ++ " capabilities"⟩ ::
          closure.toList.filterMap fun name =>
            (subject.finding registry name).remark? subject.entry name := by
  unfold resolve
  split <;> simp_all

/-- Resolving calls nobody. -/
theorem Subject.trace_resolve (subject : Subject) (graph : Graph) (registry : Registry) :
    (subject.resolve graph registry).trace = [] := by
  unfold resolve
  split <;> rfl

end Conformance
