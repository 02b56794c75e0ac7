import Conformance.Resolution.Assembly
import Conformance.Resolution.Dynamic

/-!
# Batteries

A battery holds all units of one entry point in the order in which they run. It is
built from the entry point and the context of a run: the declared types, the
registered suites and the entry points known.
-/

namespace Conformance

/-- All that was discovered before a run. -/
structure Discovery where
  types : List TypeDecl
  suites : List Suite
  entries : List Entry

/-- What entry points are resolved against. -/
structure Context where
  graph : Graph
  registry : Registry
  entries : List Entry

namespace Context

/-- The context of a graph and a registry, without entry points. -/
def new (graph : Graph) (registry : Registry) : Context := ⟨graph, registry, []⟩

/-- The context of what was discovered, without the suites on the skip list. -/
def scan (discovery : Discovery) (skip : SkipList) : Recorded Context := do
  return ⟨Graph.ofList discovery.types, ← Registry.scan discovery.suites skip, discovery.entries⟩

/-- Adds entry points. -/
def withEntries (context : Context) (entries : List Entry) : Context :=
  { context with entries := context.entries ++ entries }

/-- The first entry point of a name. -/
def entry? (context : Context) (name : Name) : Option Entry :=
  context.entries.find? fun entry => entry.name = name

end Context

/-- All units of one entry point. -/
structure Battery where
  entry : Name
  units : List RunUnit

/-- The units of one resolved member; a refusal becomes a failing unit. -/
def MemberResolution.assemble (parent : Name) (registry : Registry) :
    MemberResolution → Recorded (List RunUnit)
  | .passedThrough unit => return [.external unit]
  | .failed refusal => return [.error (.ofRefusal refusal)]
  | .resolved subject plan => do
    match ← subject.assemble registry plan with
    | .ok units => return units
    | .error refusal =>
      let warning := refusal.warning refusal.entry parent
      Recorded.logged warning.level warning.message
      return [.error (.ofRefusal refusal)]

namespace Battery

/-- The units of a static entry point. -/
def staticUnits (entry : Entry) (context : Context) : Recorded (Except Refusal (List RunUnit)) :=
  match Subject.ofEntry entry with
  | .error refusal => return .error refusal
  | .ok subject => do
    match ← subject.resolve context.graph context.registry with
    | .error refusal => return .error refusal
    | .ok plan => subject.assemble context.registry plan

/-- The units of a dynamic entry point: those of its members, in order. All members are resolved
before the first is assembled. -/
def dynamicUnits (entry : Entry) (context : Context) :
    Recorded (Except Refusal (List RunUnit)) := do
  match ← entry.resolveMembers context.graph context.registry with
  | .error refusal => return .error refusal
  | .ok resolutions =>
    let assemble := MemberResolution.assemble entry.name context.registry
    let blocks ← Recorded.forEach resolutions assemble
    return .ok blocks.flatten

/-- Builds the battery of an entry point. -/
def build (entry : Entry) (context : Context) : Recorded (Except Refusal Battery) := do
  let units ← if entry.isDynamic then dynamicUnits entry context else staticUnits entry context
  return units.map fun units => ⟨entry.name, units⟩

/-- Runs all units in order. -/
def run (battery : Battery) : Run := Run.sequence (battery.units.map RunUnit.run)

/-- Runs the battery several times. -/
def runTimes (battery : Battery) (times : Nat) : Run :=
  Run.sequence (List.replicate times battery.run)

end Battery

end Conformance
