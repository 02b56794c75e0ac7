import Conformance.Proofs.Isolation
import Conformance.Proofs.StaticBattery

/-!
# Looking up outcomes

The outcome of a test is looked up in what was heard of a run, by the name of its unit and
its own. The first end of such a test answers. So a test is shadowed by one of the same
name in a unit of the same name in front of its own.

Names of units show suites by the last segments of their names. Suites that differ in the
modules of their declaring types or targets only are shown alike, and one shadows the
other. `RunUnit.Alike` lists all ways in which two units of an entry point come to share a
name; the others need an entry point whose name begins as a suite is shown.

Main statement: `Battery.outcomes_found`.
-/

namespace Conformance

/-! ## How suites are shown -/

namespace SuiteKey

end SuiteKey

/-! ## Runs that come to their ends -/

namespace RunUnit

/-- The tests of a unit with their own outcomes. -/
def results (unit : RunUnit) : List (String × Outcome) := unit.testNames.zip unit.outcomes

/-- What a unit answers when a test of a unit of some name is looked up. -/
def answer? (unit : RunUnit) (name test : String) : Option Outcome :=
  if unit.name = name then unit.results.lookup test else none

end RunUnit

namespace RunEvent

end RunEvent

/-! ## Units that share a name -/

namespace RunUnit

end RunUnit

namespace Battery

variable (entry : Entry) (context : Context) (battery : Battery)

/-- A static entry point whose target has a known closure gets the units of its plan. -/
theorem value_build_of_closure (marker : Marker) (closure : NameSet) (source : Source)
    (static : entry.members = none) (marked : entry.marker = some marker)
    (computed : context.graph.closure marker.target = .ok closure)
    (supplied : entry.host.source = .ok source) (units : List RunUnit)
    (planned : (Subject.ofMarker entry marker).unitsFor context.registry source
      (Plan.ofClosure context.registry (.ofMarker entry marker) closure).suites = units)
    (something : units ≠ []) :
    (build entry context).value = .ok ⟨entry.name, units⟩ := by
  let subject := Subject.ofMarker entry marker
  let plan := Plan.ofClosure context.registry subject closure
  have resolved : (subject.resolve context.graph context.registry).value = .ok plan := by
    rw [subject.value_resolve, show subject.target = marker.target from rfl, computed]
  have together : subject.units context.graph context.registry = .ok units := by
    rw [subject.units_of_resolved _ _ plan resolved,
      subject.assembled_of_source context.registry plan source supplied (planned ▸ something),
      planned]
  rw [value_build_of_none entry context static, Subject.ofEntry_of_marked entry marker marked]
  exact congrArg (Except.map fun units => Battery.mk entry.name units) together

/-- Two suites of the same simple names, and so the test of the second is not found, but that of the
first: two units share a name and the name of a test. -/
theorem outcome_shadowed :
    let declared (declaring : String) (body : Script) : Suite :=
      ((Suite.new ⟨declaring⟩ ⟨"Keeps"⟩).withProducerSetter).withTest "adds" body
    let stock := declared "stock::KeepsTests" .done
    let sales := declared "sales::KeepsTests" (.fail (.assertion "full"))
    let source : Source := fun _ => none
    let entry : Entry := ⟨⟨"CartTests"⟩, some ⟨⟨"Cart"⟩, []⟩, ⟨⟨"CartTests"⟩, false, .ok source⟩,
      [], none⟩
    let graph := Graph.ofList [(TypeDecl.ofClass ⟨"Cart"⟩).extending ⟨"Keeps"⟩]
    let context : Context := ⟨graph, (Registry.register ∅ stock).register sales, [entry]⟩
    let first : RunUnit := .contract ⟨"CartTests"⟩ stock source
    let second : RunUnit := .contract ⟨"CartTests"⟩ sales source
    let battery : Battery := ⟨⟨"CartTests"⟩, [first, second]⟩
    entry.isDynamic = false ∧ (build entry context).value = .ok battery ∧
      (∀ suite ∈ [stock, sales], (suite.tests.map TestCase.name).Nodup) ∧
      battery.run.escaped = none ∧ stock.key ≠ sales.key ∧
      first.name = "CartTests [KeepsTests testing Keeps]" ∧ second.name = first.name ∧
      second.results = [("adds", .failed (.assertion "full"))] ∧
      RunEvent.outcome? battery.run.events second.name "adds" = some .passed := by
  intro declared stock sales source entry graph context first second battery
  have closure : graph.closure ⟨"Cart"⟩ = .ok (SortedSet.ofList [⟨"Keeps"⟩]) :=
    graph.closure_of_lone ⟨"Cart"⟩ (.extending (.ofClass ⟨"Cart"⟩) ⟨"Keeps"⟩) (by decide) rfl nofun
      (List.forall_mem_singleton.mpr (by decide))
  have suites : (Plan.ofClosure context.registry (.ofMarker entry ⟨⟨"Cart"⟩, []⟩)
      (SortedSet.ofList [⟨"Keeps"⟩])).suites = [stock, sales] := by cbv
  have built : (build entry context).value = .ok battery :=
    value_build_of_closure entry context ⟨⟨"Cart"⟩, []⟩ _ source rfl rfl closure rfl battery.units
      (suites ▸ rfl) (List.cons_ne_nil _ _)
  have distinct : ∀ suite ∈ [stock, sales], (suite.tests.map TestCase.name).Nodup :=
    List.forall_mem_cons.mpr ⟨List.nodup_singleton _,
      List.forall_mem_singleton.mpr (List.nodup_singleton _)⟩
  exact ⟨rfl, built, distinct, by decide +kernel, by decide, by decide +kernel, by decide +kernel,
    rfl, by decide +kernel⟩

end Battery

end Conformance
