import Conformance.Proofs.EventStream
import Conformance.Proofs.ProducerOwnership
import Conformance.Proofs.StaticBattery

/-!
# How far a panic reaches

A panic of a hook or of a body fails its test, and so does a panic of a producer that they
call. The engine calls producers in two places of its own, and there nobody catches the
panic: it asks the source before a unit starts, and it makes the producer clean up after
each test. A unit is disturbed if it panics in one of them.

A disturbed unit is cut short: it does not start, or it does not finish. Whatever was heard
before stays, and no unit behind it is run. All other units leave the rest of the run as
it is without them.

Main statement: `Battery.goes_on_iff_undisturbed`.
-/

namespace Conformance

/-! ## Units that are cut short -/

/-- What is left of a unit with the given tests when the engine's own call of a producer panics. -/
inductive Run.CutShort (unit : String) (tests : List String) : Run → Prop
  /-- The factory of the producer panics before the unit starts. -/
  | unsupplied (trace : List Observation) (payload : Payload) :
    CutShort unit tests ⟨[], trace, some payload⟩
  /-- The clean-up after a test panics: the tests before it have ended, it has started, and the
  others are missing. -/
  | unreleased (ends : List (String × Outcome)) (test : String) (missing : List String)
    (trace : List Observation) (payload : Payload)
    (order : tests = ends.map Prod.fst ++ test :: missing) :
    CutShort unit tests
      ⟨.unitStarted unit :: RunEvent.ofEnds unit ends ++ [.testStarted unit test], trace,
        some payload⟩

/-- No unit finishes among the events of its tests. -/
theorem RunEvent.unitFinished_not_mem_ofEnds (unit : String) (ends : List (String × Outcome)) :
    .unitFinished unit ∉ ofEnds unit ends := by
  intro member
  obtain ⟨⟨test, outcome⟩, _, heard⟩ := List.mem_flatMap.mp member
  simp at heard

namespace Run.CutShort

variable {unit : String} {tests : List String} {run : Run} (cut : run.CutShort unit tests)

include cut

/-- A unit that is cut short lets a panic escape. -/
theorem escaped : run.escaped ≠ none := by
  cases cut with
  | unsupplied trace payload => exact nofun
  | unreleased ends test missing trace payload order => exact nofun

/-- A unit that is cut short is not heard to finish. -/
theorem unfinished : .unitFinished unit ∉ run.events := by
  cases cut with
  | unsupplied trace payload => exact List.not_mem_nil
  | unreleased ends test missing trace payload order =>
    simpa using RunEvent.unitFinished_not_mem_ofEnds unit ends

end Run.CutShort

namespace Session

variable (unit : String) (suite : Name) (before after : List Hook) (tests : List TestCase)
  (handle : Option Handle)

/-- A session comes to its end only if no conclusion panics. -/
theorem escaped_ofTests_eq_none_iff :
    (ofTests unit suite before after tests handle).escaped = none ↔
      ∀ progress ∈ TestCase.performAll suite before after tests handle,
        progress.conclude.escaped = none := by
  induction tests generalizing handle with
  | nil => exact ⟨fun _ => nofun, fun _ => rfl⟩
  | cons test rest inductionHypothesis =>
    rw [TestCase.performAll, List.forall_mem_cons, ← inductionHypothesis]
    cases first : (test.perform suite before after handle).conclude.escaped with
    | none => simp [ofTests_cons unit suite before after rest handle test first]
    | some payload => simp [ofTests, TestCase.execute_eq, first]

/-- A session that a conclusion ends is heard up to the start of its test. -/
theorem events_of_escaped
    (escaped : (ofTests unit suite before after tests handle).escaped ≠ none) :
    ∃ ends test missing, tests.map TestCase.name = ends.map Prod.fst ++ test :: missing ∧
      (ofTests unit suite before after tests handle).events =
        RunEvent.ofEnds unit ends ++ [.testStarted unit test] := by
  induction tests generalizing handle with
  | nil => exact absurd rfl escaped
  | cons test rest inductionHypothesis =>
    cases first : (test.perform suite before after handle).conclude.escaped with
    | some payload =>
      refine ⟨[], test.name, rest.map TestCase.name, rfl, ?_⟩
      rw [ofTests, TestCase.execute_eq, first]
      rfl
    | none =>
      rw [ofTests_cons unit suite before after rest handle test first] at escaped ⊢
      obtain ⟨ends, last, missing, order, heard⟩ := inductionHypothesis _ escaped
      refine ⟨(test.name, (test.perform suite before after handle).conclude.outcome) :: ends, last,
        missing, congrArg (test.name :: ·) order, ?_⟩
      rw [heard]
      rfl

end Session

namespace Workload

variable (work : Workload) (unit : String)

/-- If the factory panics, nothing is heard of the unit. -/
theorem run_of_panic (payload : Payload)
    (panics : work.source work.target = some (.error payload)) :
    work.run unit = ⟨[], [.asked work.target true], some payload⟩ := by
  rw [run, Run.ofTests, Source.bind, panics]
  rfl

/-- An undisturbed workload is one that comes to its end. -/
theorem undisturbed_iff : work.Undisturbed ↔ (work.run unit).escaped = none := by
  constructor
  · intro undisturbed
    rw [undisturbed.run_eq]
  · intro ended
    have supplied (payload : Payload) : work.source work.target ≠ some (.error payload) := by
      intro panics
      rw [work.run_of_panic unit payload panics] at ended
      cases ended
    rw [work.run_of_supplied unit supplied] at ended
    exact ⟨supplied, (Session.escaped_ofTests_eq_none_iff unit _ _ _ _ _).mp ended⟩

/-- A workload that is disturbed is cut short. -/
theorem cutShort_of_disturbed (disturbed : ¬ work.Undisturbed) :
    (work.run unit).CutShort unit (work.tests.map TestCase.name) := by
  by_cases supplied : ∀ payload, work.source work.target ≠ some (.error payload)
  · have run := work.run_of_supplied unit supplied
    have escaped : (work.session unit).escaped ≠ none := by
      rw [work.undisturbed_iff unit, run] at disturbed
      exact disturbed
    obtain ⟨payload, panics⟩ := Option.ne_none_iff_exists'.mp escaped
    obtain ⟨ends, test, missing, order, heard⟩ := Session.events_of_escaped unit work.suite
      work.before work.after work.tests work.handle escaped
    have events : (work.session unit).events =
      RunEvent.ofEnds unit ends ++ [.testStarted unit test] := heard
    simp only [run, events, panics]
    simpa using Run.CutShort.unreleased ends test missing _ payload order
  · obtain ⟨payload, panics⟩ := not_forall_not.mp supplied
    exact work.run_of_panic unit payload panics ▸ .unsupplied _ payload

end Workload

namespace RunUnit

/-- A unit is cut short if it is disturbed, and only then. -/
theorem cutShort_iff (unit : RunUnit) :
    unit.run.CutShort unit.name unit.testNames ↔ ¬ unit.Undisturbed := by
  constructor
  · exact fun cut undisturbed => cut.escaped (unit.events_run undisturbed).2
  · intro disturbed
    obtain ⟨work, works, workDisturbed⟩ :
        ∃ work, unit.workload? = some work ∧ ¬ work.Undisturbed := by
      simpa [Undisturbed] using disturbed
    rw [unit.run_of_workload work works, unit.testNames_of_workload work works]
    exact work.cutShort_of_disturbed unit.name workDisturbed

/-- A unit that the engine runs itself is heard to start first and to finish last. -/
theorem block_of_own (unit : RunUnit) (own : unit.isExternal = false) :
    unit.block = .unitStarted unit.name ::
      RunEvent.ofEnds unit.name (unit.testNames.zip unit.outcomes) ++
        [.unitFinished unit.name] := by
  cases unit with
  | external unit => cases own
  | contract _ _ _ => rfl
  | direct _ _ _ _ => rfl
  | error _ => rfl

end RunUnit

/-! ## The units around it -/

/-- The run goes on behind a unit: the units in front of it and the unit itself are heard as their
blocks, and then whatever is heard of the units behind it when they run alone. -/
structure Run.GoesOn (run : Run) (front : List RunUnit) (unit : RunUnit) (behind : Run) : Prop where
  events : run.events = front.flatMap RunUnit.block ++ (unit.block ++ behind.events)
  escaped : run.escaped = behind.escaped
  /-- Of a unit that the engine runs itself the start and the finish are heard. -/
  finished : ∀ sibling ∈ front ++ [unit], sibling.isExternal = false →
    ∃ tests, sibling.block =
      .unitStarted sibling.name :: tests ++ [.unitFinished sibling.name]

/-- The run stops in a unit: the units in front of it are heard as their blocks, the unit is cut
short, and nothing is heard of the units behind it. -/
structure Run.StopsIn (run : Run) (front : List RunUnit) (unit : RunUnit) : Prop where
  events : run.events = front.flatMap RunUnit.block ++ unit.run.events
  cut : unit.run.CutShort unit.name unit.testNames
  unfinished : .unitFinished unit.name ∉ unit.run.events
  escaped : run.escaped = unit.run.escaped ∧ run.escaped ≠ none

namespace Battery

variable (entry : Name) (front back : List RunUnit) (unit : RunUnit)

/-- Calm units in front are heard as their blocks, whatever follows. -/
theorem run_append (calm : ∀ sibling ∈ front, sibling.Undisturbed) :
    let run := (Battery.mk entry (front ++ back)).run
    let behind := (Battery.mk entry back).run
    run.events = front.flatMap RunUnit.block ++ behind.events ∧ run.escaped = behind.escaped := by
  have ended : ∀ run ∈ front.map RunUnit.run, run.escaped = none := by
    intro run listed
    obtain ⟨sibling, member, rfl⟩ := List.mem_map.mp listed
    exact (sibling.events_run (calm sibling member)).2
  obtain ⟨events, escaped⟩ := Run.sequence_append _ (back.map RunUnit.run) ended
  have blocks : (front.map RunUnit.run).flatMap Run.events = front.flatMap RunUnit.block := by
    rw [List.flatMap_map]
    exact List.flatMap_congr fun sibling member => (sibling.events_run (calm sibling member)).1
  simp only [run, List.map_append]
  exact ⟨blocks ▸ events, escaped⟩

/-- A run goes on behind an undisturbed unit. -/
theorem goesOn_of_undisturbed (calm : ∀ sibling ∈ front, sibling.Undisturbed)
    (undisturbed : unit.Undisturbed) :
    (Battery.mk entry (front ++ unit :: back)).run.GoesOn front unit
      (Battery.mk entry back).run := by
  have calmThrough : ∀ sibling ∈ front ++ [unit], sibling.Undisturbed :=
    List.forall_mem_append.mpr ⟨calm, List.forall_mem_singleton.mpr undisturbed⟩
  obtain ⟨events, escaped⟩ := run_append entry (front ++ [unit]) back calmThrough
  rw [List.append_assoc, List.singleton_append] at events escaped
  constructor
  case events =>
    rw [events, List.flatMap_append, List.flatMap_singleton, List.append_assoc]
  case escaped => exact escaped
  case finished => exact fun sibling _ own => ⟨_, sibling.block_of_own own⟩

/-- A run stops in a disturbed unit. -/
theorem stopsIn_of_disturbed (calm : ∀ sibling ∈ front, sibling.Undisturbed)
    (disturbed : ¬ unit.Undisturbed) :
    (Battery.mk entry (front ++ unit :: back)).run.StopsIn front unit := by
  have cut := unit.cutShort_iff.mpr disturbed
  obtain ⟨payload, escapes⟩ := Option.ne_none_iff_exists'.mp cut.escaped
  have last : (Battery.mk entry (unit :: back)).run = unit.run := by
    rw [run, List.map_cons, Run.sequence, Run.andThen, escapes]
  obtain ⟨events, escaped⟩ := run_append entry front (unit :: back) calm
  rw [last] at events escaped
  exact ⟨events, cut, cut.unfinished, escaped, escaped ▸ cut.escaped⟩

/-- A run cannot go on behind a unit in which it stops: it would have heard the unit finish. -/
theorem not_stopsIn_of_goesOn {run behind : Run} (goesOn : run.GoesOn front unit behind) :
    ¬ run.StopsIn front unit := by
  intro stops
  have own : unit.isExternal = false := by
    cases unit with
    | external unit => exact absurd nofun (RunUnit.cutShort_iff _ |>.mp stops.cut)
    | contract _ _ _ => rfl
    | direct _ _ _ _ => rfl
    | error _ => rfl
  -- both say what is heard after the units in front
  have same : unit.run.events = unit.block ++ behind.events :=
    List.append_cancel_left (stops.events.symm.trans goesOn.events)
  have finished : .unitFinished unit.name ∈ unit.run.events := by
    rw [same, unit.block_of_own own]
    simp
  exact stops.unfinished finished

/-- At each place of a battery that the run comes to, it goes on behind the unit there if the unit
is undisturbed, and stops in it if not. Hooks, bodies and requests disturb no unit, whatever they
do: only the factory of the producer and its clean-up can. So their panics leave all other units as
they are with any other undisturbed unit in its place.

In a disturbed unit the run stops for good: the unit does not finish, if it has started at all, and
none of the units behind it is heard. -/
theorem goes_on_iff_undisturbed (calm : ∀ sibling ∈ front, sibling.Undisturbed) :
    let run := (Battery.mk entry (front ++ unit :: back)).run
    (run.GoesOn front unit (Battery.mk entry back).run ↔ unit.Undisturbed) ∧
      (run.StopsIn front unit ↔ ¬ unit.Undisturbed) ∧
      ∀ work, unit.workload? = some work → work.Quiet → unit.Undisturbed := by
  refine ⟨⟨?goesOn, goesOn_of_undisturbed entry front back unit calm⟩,
    ⟨?stops, stopsIn_of_disturbed entry front back unit calm⟩, ?quiet⟩
  case goesOn =>
    intro goesOn
    by_contra disturbed
    exact not_stopsIn_of_goesOn front unit goesOn
      (stopsIn_of_disturbed entry front back unit calm disturbed)
  case stops => exact fun stops => unit.cutShort_iff.mp stops.cut
  case quiet =>
    rintro work works quiet other otherWorks
    obtain rfl := Option.some.inj (works.symm.trans otherWorks)
    exact quiet.undisturbed

/-- A report in front, a unit whose hook panics, and behind it one whose producer panics when the
engine makes it clean up. The first panic is the failure of a test; the second ends the run in the
middle of its test. -/
theorem goes_on_iff_undisturbed_hook :
    let old : RunUnit := .error ⟨"[Old testing Keeps]", "errors", .malformed ⟨"Old"⟩ []⟩
    let suite : Suite := ⟨⟨⟨"KeepsTest"⟩, ⟨"Keeps"⟩⟩, false, [.conventional ⟨"KeepsTest"⟩],
      [⟨"keeps", ⟨"KeepsTest"⟩, .done⟩], [⟨"fill", .panic (.text "stuck")⟩], []⟩
    let stuck : RunUnit := .contract ⟨"Basket"⟩ suite fun _ =>
      some (.ok (.cycling ⟨"Cart"⟩ [.given (.integer 1)] ⟨true, none⟩))
    let leaky : RunUnit := .direct ⟨"Crate"⟩ ⟨"Cart"⟩ [⟨"opens", ⟨"Crate"⟩, .done⟩] fun _ =>
      some (.ok (.cycling ⟨"Cart"⟩ [.given (.integer 1)] ⟨true, some (.text "leaks")⟩))
    let run := (Battery.mk ⟨"Basket"⟩ [old, stuck, leaky]).run
    old.Undisturbed ∧ stuck.Undisturbed ∧ ¬ leaky.Undisturbed ∧
      run.events = [old, stuck].flatMap RunUnit.block ++
        [.unitStarted "Crate", .testStarted "Crate" "opens"] ∧
      run.escaped = some (.text "leaks") := by
  intro old suite stuck leaky run
  have oldCalm : ∀ sibling ∈ [old], sibling.Undisturbed := List.forall_mem_singleton.mpr nofun
  obtain ⟨goesOn, _, quiet⟩ := goes_on_iff_undisturbed ⟨"Basket"⟩ [old] [leaky] stuck oldCalm
  have stuckCalm : stuck.Undisturbed := by
    refine quiet _ rfl ⟨nofun, ?_⟩
    rintro producer ⟨⟩
    exact fun calls => rfl
  have bothCalm : ∀ sibling ∈ [old, stuck], sibling.Undisturbed :=
    List.forall_mem_cons.mpr ⟨oldCalm old (List.mem_singleton_self old),
      List.forall_mem_singleton.mpr stuckCalm⟩
  obtain ⟨_, stops, _⟩ := goes_on_iff_undisturbed ⟨"Basket"⟩ [old, stuck] [] leaky bothCalm
  have disturbed : ¬ leaky.Undisturbed :=
    fun undisturbed => nomatch (leaky.events_run undisturbed).2
  have stopped := stops.mpr disturbed
  exact ⟨nofun, stuckCalm, disturbed, stopped.events, stopped.escaped.1⟩

/-- In a battery that is built, a clean-up that panics takes the suite down that stands behind the
own tests of the entry point, and so does the factory of the producer, before anything is heard. -/
theorem built_takes_sibling_down :
    let own : TestCase := ⟨"adds", ⟨"CartTests"⟩, .done⟩
    let suite := ((Suite.new ⟨"KeepsTests"⟩ ⟨"Keeps"⟩).withProducerSetter).withTest "keeps" .done
    let supplying (release : Release) : Source := fun _ =>
      some (.ok (.cycling ⟨"Cart"⟩ [.given (.integer 1)] release))
    let panicking : Source := fun _ => some (.error (.text "empty"))
    let entry (source : Source) : Entry := ⟨⟨"CartTests"⟩, some ⟨⟨"Cart"⟩, []⟩,
      ⟨⟨"CartTests"⟩, false, .ok source⟩, [own], none⟩
    let graph := Graph.ofList [(TypeDecl.ofClass ⟨"Cart"⟩).extending ⟨"Keeps"⟩]
    let context (source : Source) : Context :=
      ⟨graph, Registry.register ∅ suite, [entry source]⟩
    let battery (source : Source) : Battery := ⟨⟨"CartTests"⟩,
      [.direct ⟨"CartTests"⟩ ⟨"Cart"⟩ [own] source, .contract ⟨"CartTests"⟩ suite source]⟩
    (∀ source, (build (entry source) (context source)).value = .ok (battery source)) ∧
      (battery (supplying ⟨false, none⟩)).run.events =
        [.unitStarted "CartTests", .testStarted "CartTests" "adds",
          .testFinished "CartTests" "adds" .passed, .unitFinished "CartTests",
          .unitStarted "CartTests [KeepsTests testing Keeps]",
          .testStarted "CartTests [KeepsTests testing Keeps]" "keeps",
          .testFinished "CartTests [KeepsTests testing Keeps]" "keeps" .passed,
          .unitFinished "CartTests [KeepsTests testing Keeps]"] ∧
      (battery (supplying ⟨false, some (.text "leaks")⟩)).run.events =
        [.unitStarted "CartTests", .testStarted "CartTests" "adds"] ∧
      (battery (supplying ⟨false, some (.text "leaks")⟩)).run.escaped = some (.text "leaks") ∧
      (battery panicking).run.events = [] ∧
      (battery panicking).run.escaped = some (.text "empty") := by
  intro own suite supplying panicking entry graph context battery
  refine ⟨?_, by decide +kernel, rfl, rfl, rfl, rfl⟩
  intro source
  let subject : Subject := .ofMarker (entry source) ⟨⟨"Cart"⟩, []⟩
  have closure : graph.closure subject.target = .ok (SortedSet.ofList [⟨"Keeps"⟩]) :=
    graph.closure_of_lone ⟨"Cart"⟩ (.extending (.ofClass ⟨"Cart"⟩) ⟨"Keeps"⟩) (by decide) rfl nofun
      (List.forall_mem_singleton.mpr (by decide))
  let plan := Plan.ofClosure (context source).registry subject (SortedSet.ofList [⟨"Keeps"⟩])
  have resolved : (subject.resolve graph (context source).registry).value = .ok plan := by
    rw [subject.value_resolve, closure]
  have suites : plan.suites = [suite] := by cbv
  have units : subject.unitsFor (context source).registry source plan.suites =
      (battery source).units := by
    rw [suites]
    rfl
  have together : subject.units graph (context source).registry = .ok (battery source).units := by
    rw [subject.units_of_resolved graph (context source).registry plan resolved,
      subject.assembled_of_source (context source).registry plan source rfl
        (units ▸ List.cons_ne_nil _ _), units]
  rw [value_build_of_none (entry source) (context source) rfl, Subject.ofEntry_of_marked _ _ rfl]
  exact congrArg (Except.map fun units => Battery.mk ⟨"CartTests"⟩ units) together

end Battery

end Conformance
