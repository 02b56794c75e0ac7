import Conformance.Proofs.Batteries
import Conformance.Proofs.Declarations
import Conformance.Proofs.Plans

/-!
# Malformed suites are reported in their place

A suite that breaks a rule of declaration stays on the plan. When the plan is assembled
its place is taken by an error unit, which reports all defects in one failing test.
The suite itself is bound by no unit: none of its tests and hooks runs, and no producer
is requested for it.

A plan holds each key once, so the place of a suite is the one place of its report.
Reports are told apart by their places and not by their content: two suites whose names
end in the same segments may have equal reports.
-/

namespace Conformance

/-- Every message says which suite has the defect. -/
theorem Defect.message_names_suite (defect : Defect) :
    ∃ front back, defect.message = front ++ defect.suite.text ++ back := by
  unfold message Defect.suite
  cases defect with
  | abstractType suite => exact ⟨_, _, rfl⟩
  | missingSetter suite => exact ⟨_, _, rfl⟩
  | ambiguousSetter suite count =>
    refine ⟨"contract declaration ",
      " marks " ++ toString count ++ " injection setters; exactly one is allowed", ?_⟩
    simp only [String.append_assoc]
  | abstractSetter suite method => exact ⟨_, _, rfl⟩
  | malformedSetter suite method parameters =>
    refine ⟨"injection setter " ++ method ++ " of ",
      " takes " ++ toString parameters ++ " arguments; expected 1", ?_⟩
    simp only [String.append_assoc]

namespace Suite

/-- The defects of a suite are its own. -/
theorem suite_of_mem_defects (suite : Suite) (defect : Defect) (member : defect ∈ suite.defects) :
    defect.suite = suite.declaringType := by
  cases (suite.mem_defects_iff defect).mp member <;> rfl

/-- A suite that is not well-formed has defects. -/
theorem isWellFormed_eq_false_iff (suite : Suite) :
    suite.isWellFormed = false ↔ suite.defects ≠ [] := by
  simp [isWellFormed]

end Suite

/-- What the report of a malformed suite has to be: one failing test, named after the declaring
type, with all defects in order, and nothing else. -/
structure RunUnit.Reports (unit : RunUnit) (suite : Suite) : Prop where
  testNames : unit.testNames = ["errors during parsing of suite " ++ suite.declaringType.text]
  events : unit.run.events =
    [.unitStarted unit.name,
      .testStarted unit.name ("errors during parsing of suite " ++ suite.declaringType.text),
      .testFinished unit.name ("errors during parsing of suite " ++ suite.declaringType.text)
        (.failed (.malformed suite.declaringType (suite.defects.map Defect.message))),
      .unitFinished unit.name]
  messages : suite.defects.map Defect.message ≠ []
  named : ∀ message ∈ suite.defects.map Defect.message,
    ∃ front back, message = front ++ suite.declaringType.text ++ back
  /-- Nobody is called. -/
  silent : unit.run.trace = []
  ended : unit.run.escaped = none

/-- The unit of a malformed suite reports it. -/
theorem RunUnit.reports_ofSuite (suite : Suite) (malformed : suite.isWellFormed = false) :
    (RunUnit.error (.ofSuite suite)).Reports suite where
  testNames := rfl
  events := rfl
  messages := by
    intro none
    exact suite.isWellFormed_eq_false_iff.mp malformed (List.map_eq_nil_iff.mp none)
  named message listed := by
    obtain ⟨defect, member, rfl⟩ := List.mem_map.mp listed
    rw [← suite.suite_of_mem_defects defect member]
    exact defect.message_names_suite
  silent := rfl
  ended := rfl

namespace Run

/-- A run that nobody notices and that comes to its end may be left out of a sequence: the others
are noticed as before. -/
theorem sequence_without (before after : List Run) (quiet : Run) (silent : quiet.trace = [])
    (ended : quiet.escaped = none) :
    (sequence (before ++ quiet :: after)).trace = (sequence (before ++ after)).trace ∧
      (sequence (before ++ quiet :: after)).escaped = (sequence (before ++ after)).escaped := by
  induction before with
  | nil => simp [sequence, andThen, silent, ended]
  | cons first rest inductionHypothesis =>
    obtain ⟨trace, escaped⟩ := inductionHypothesis
    simp only [List.cons_append, sequence, andThen]
    cases first.escaped with
    | some payload => exact ⟨rfl, rfl⟩
    | none => exact ⟨congrArg (first.trace ++ ·) trace, escaped⟩

end Run

namespace Plan

/-- A suite of a plan with distinct keys has one place, which divides the others. -/
theorem place_of_mem (plan : Plan) (distinct : plan.keys.Nodup) (suite : Suite)
    (member : suite ∈ plan.suites) :
    ∃ front back, plan.suites = front ++ suite :: back ∧
      ∀ other ∈ front ++ back, other.key ≠ suite.key := by
  obtain ⟨front, back, place⟩ := List.append_of_mem member
  refine ⟨front, back, place, ?_⟩
  intro other elsewhere same
  have unique : (suite :: (front ++ back)).Pairwise fun left right => left.key ≠ right.key := by
    rw [keys, List.Nodup, List.pairwise_map, place] at distinct
    exact distinct.perm List.perm_middle fun different => different.symm
  exact List.rel_of_pairwise_cons unique elsewhere same.symm

/-- The suites of an exact plan were registered, so their declaring types are known. -/
theorem Exact.type_shown {graph : Graph} {operations : List Registry.Operation}
    {subject : Subject} {plan : Plan}
    (exactly : plan.Exact graph (Registry.history operations) subject) (suite : Suite)
    (member : suite ∈ plan.suites) : suite.declaringType ∈ Registry.shownTypes operations := by
  rw [exactly.suites] at member
  obtain ⟨capability, _, standing⟩ := List.mem_flatMap.mp member
  exact Registry.declaringType_shown operations suite
    (Registry.mem_of_standing _ capability suite standing)

end Plan

/-- A run of all units calls nobody for the report of a malformed suite, and the report does not end
it. -/
theorem Subject.run_unitsFor_without (subject : Subject) (registry : Registry) (source : Source)
    (front back : List Suite) (suite : Suite) (malformed : suite.isWellFormed = false) :
    let whole := Run.sequence
      ((subject.unitsFor registry source (front ++ suite :: back)).map RunUnit.run)
    let without := Run.sequence ((subject.unitsFor registry source (front ++ back)).map RunUnit.run)
    whole.trace = without.trace ∧ whole.escaped = without.escaped := by
  have quiet := Run.sequence_without
    ((subject.unitsFor registry source front).map RunUnit.run)
    ((back.map (RunUnit.ofSuite subject.entry source)).map RunUnit.run)
    (RunUnit.error (.ofSuite suite)).run rfl rfl
  simpa [unitsFor, RunUnit.ofSuite_of_malformed subject.entry source suite malformed] using quiet

/-- What assembling has to make of a malformed suite: its report takes its place among the units,
and the suite has no other part in them. The own tests of the subject come first, then the units of
the suites in front of it, its report, and the units of the suites behind it. -/
structure Plan.ReportsInPlace (plan : Plan) (subject : Subject) (registry : Registry)
    (units : List RunUnit) (suite : Suite) (source : Source) (front back : List Suite) : Prop where
  place : plan.suites = front ++ suite :: back
  /-- The suite has this one place. -/
  once : ∀ other ∈ front ++ back, other.key ≠ suite.key
  assembled : units = subject.unitsFor registry source front ++
    .error (.ofSuite suite) :: back.map (RunUnit.ofSuite subject.entry source)
  leading : subject.directUnits registry source = [] ∨
    ∃ own, subject.directUnits registry source = [.direct subject.entry subject.target own source]
  /-- Reports stand for malformed suites, one for each of them, in the order of the plan. -/
  reports : units.filter RunUnit.isError =
    plan.malformed.map fun other => .error (.ofSuite other)
  /-- No unit binds the suite. -/
  unbound : ∀ unit ∈ units, ∀ bound, unit.suite? = some bound → bound.key ≠ suite.key
  /-- No direct unit has a test that the declaring type lends. -/
  unlent : ∀ name target tests asked, .direct name target tests asked ∈ units →
    ∀ test ∈ tests, test.declaredIn ≠ suite.declaringType
  /-- A run of all units calls the same parties and comes to the same end without the report. -/
  unnoticed :
    let whole := Run.sequence (units.map RunUnit.run)
    let without := Run.sequence ((subject.unitsFor registry source (front ++ back)).map RunUnit.run)
    whole.trace = without.trace ∧ whole.escaped = without.escaped
  /-- Without the suite on the plan the units are the same without its report, and they are
  assembled if there are any. -/
  removed : ∀ reduced : Plan, reduced.suites = front ++ back →
    let others := subject.unitsFor registry source front ++
      back.map (RunUnit.ofSuite subject.entry source)
    (∀ reassembled, (subject.assemble registry reduced).value = .ok reassembled →
      reassembled = others) ∧
    (others ≠ [] → (subject.assemble registry reduced).value = .ok others)

/-- Reports take the places of malformed suites. The source of the host is the same whatever is on
the plan, so that a suite that is taken off the plan takes nothing along but its report. -/
theorem Subject.reports_in_place (subject : Subject) (registry : Registry) (plan : Plan)
    (distinct : plan.keys.Nodup) (units : List RunUnit)
    (assembled : (subject.assemble registry plan).value = .ok units) (suite : Suite)
    (member : suite ∈ plan.suites) (malformed : suite.isWellFormed = false)
    (known : suite.declaringType ∈ registry.declaringTypes) :
    ∃ source front back, subject.host.source = .ok source ∧
      plan.ReportsInPlace subject registry units suite source front back := by
  obtain ⟨source, supplied, rfl⟩ := subject.units_of_assembled registry plan units assembled
  obtain ⟨front, back, place, once⟩ := plan.place_of_mem distinct suite member
  refine ⟨source, front, back, supplied, ?_⟩
  constructor
  case place => exact place
  case once => exact once
  case assembled =>
    rw [place, unitsFor, unitsFor, List.map_append, List.map_cons, List.append_assoc,
      RunUnit.ofSuite_of_malformed subject.entry source suite malformed]
  case leading =>
    rw [subject.directUnits_eq]
    split
    · exact .inl rfl
    · exact .inr ⟨_, rfl⟩
  case reports => exact subject.errors_of_unitsFor registry source plan.suites
  case unbound =>
    intro unit listed bound binds
    obtain ⟨onPlan, wellFormed⟩ :=
      subject.bound_of_unitsFor registry source plan.suites unit listed bound binds
    -- only well-formed suites are bound, so this is another one, and no other one has the key
    rw [place, List.perm_middle.mem_iff, List.mem_cons] at onPlan
    rcases onPlan with rfl | elsewhere
    · simp [malformed] at wellFormed
    · exact once bound elsewhere
  case unlent =>
    intro name target tests asked listed test own same
    obtain rfl :=
      subject.tests_of_unitsFor registry source plan.suites name target tests asked listed
    exact ((subject.mem_directTests_iff registry test).mp own).2 (same ▸ known)
  case unnoticed =>
    rw [place]
    exact subject.run_unitsFor_without registry source front back suite malformed
  case removed =>
    intro reduced without others
    have remaining : subject.unitsFor registry source reduced.suites = others := by
      rw [without, unitsFor, List.map_append, ← List.append_assoc]
      rfl
    constructor
    · intro reassembled succeeded
      obtain ⟨again, suppliedAgain, rfl⟩ :=
        subject.units_of_assembled registry reduced reassembled succeeded
      obtain rfl : source = again := Except.ok.inj (supplied.symm.trans suppliedAgain)
      exact remaining
    · intro something
      rw [← remaining] at something ⊢
      exact subject.assembled_of_source registry reduced source supplied something

/-- A malformed suite on the plan of whoever is assembled, static or member, is reported in its
place in the battery, and it never runs. Its report is one failing test with all defects, in order.

The plan is exact, so the suite was registered and its key has one place; hence its declaring type
is known, and the tests it lends to an entry point are not taken for the entry point's own. -/
theorem Battery.malformed_reported_in_place (graph : Graph)
    (operations : List Registry.Operation) (entries : List Entry) (entry : Entry)
    (subject : Subject) (tested : subject ∈ entry.subjects) (plan : Plan)
    (resolved : (subject.resolve graph (Registry.after operations)).value = .ok plan)
    (units : List RunUnit)
    (assembled : (subject.assemble (Registry.after operations) plan).value = .ok units)
    (suite : Suite) (member : suite ∈ plan.suites) (malformed : suite.isWellFormed = false) :
    (∃ battery, (build entry ⟨graph, Registry.after operations, entries⟩).value = .ok battery ∧
      battery.entry = entry.name ∧ units <:+: battery.units) ∧
    (RunUnit.error (.ofSuite suite)).Reports suite ∧
    ∃ source front back, subject.host.source = .ok source ∧
      plan.ReportsInPlace subject (Registry.after operations) units suite source front back := by
  have exactly : plan.Exact graph (Registry.history operations) subject :=
    subject.exact_of_resolve graph (Registry.tells_after operations) plan resolved
  have known : suite.declaringType ∈ (Registry.after operations).declaringTypes :=
    (Registry.mem_declaringTypes_after operations _).mpr (exactly.type_shown suite member)
  have together : subject.units graph (Registry.after operations) = .ok units :=
    (subject.units_of_resolved graph _ plan resolved).trans assembled
  exact ⟨block_of_subject entry ⟨graph, Registry.after operations, entries⟩ subject tested units
      together,
    RunUnit.reports_ofSuite suite malformed,
    subject.reports_in_place _ plan exactly.distinct units assembled suite member malformed known⟩

/-- A malformed suite with hooks and tests between two ready ones, for an entry point with a test of
its own and one that the malformed suite lends. Both defects are reported between the units of the
ready suites; no part of the malformed suite is run, its loan included. -/
theorem Battery.malformed_reported_in_place_between :
    let keeps := (((Suite.new ⟨"KeepsTests"⟩ ⟨"Keeps"⟩).withProducerSetter.withBefore
      ⟨"fill", .done⟩).withTest "keeps" .done).withAfter ⟨"empty", .done⟩
    let lent : TestCase := ⟨"lends", ⟨"SellsTests"⟩, .panic (.text "never run")⟩
    let sells : Suite := ⟨⟨⟨"SellsTests"⟩, ⟨"Keeps"⟩⟩, true, [], [lent],
      [⟨"open", .panic .wordless⟩], [⟨"close", .panic .wordless⟩]⟩
    let stocks := (Suite.new ⟨"StocksTests"⟩ ⟨"Keeps"⟩).withProducerSetter.withTest "stocks"
      (.request .integer fun _ => .done)
    let source : Source := fun _ =>
      some (.ok (.cycling ⟨"Cart"⟩ [.given (.integer 1)] ⟨true, none⟩))
    let host : Host := ⟨⟨"CartTests"⟩, true, .ok source⟩
    let own : TestCase := ⟨"opens", ⟨"CartTests"⟩, .done⟩
    let entry : Entry := ⟨⟨"CartTests"⟩, some ⟨⟨"Cart"⟩, []⟩, host, [own, lent], none⟩
    let subject : Subject := ⟨⟨"CartTests"⟩, ⟨"Cart"⟩, ∅, host, [own, lent], none⟩
    let graph := Graph.ofList [(TypeDecl.ofClass ⟨"Cart"⟩).extending ⟨"Keeps"⟩]
    let operations := [.register keeps, .register sells, .register stocks]
    let registry := Registry.after operations
    let units : List RunUnit := [.direct ⟨"CartTests"⟩ ⟨"Cart"⟩ [own] source,
      .contract ⟨"CartTests"⟩ keeps source, .error (.ofSuite sells),
      .contract ⟨"CartTests"⟩ stocks source]
    subject ∈ entry.subjects ∧ ∃ plan,
      (subject.resolve graph registry).value = .ok plan ∧
      plan.suites = [keeps, sells, stocks] ∧
      (subject.assemble registry plan).value = .ok units ∧
      sells.isWellFormed = false ∧
      sells.defects = [.abstractType ⟨"SellsTests"⟩, .missingSetter ⟨"SellsTests"⟩] ∧
      (∃ battery, (build entry ⟨graph, registry, []⟩).value = .ok battery ∧
        battery.entry = entry.name ∧ units <:+: battery.units) ∧
      ∃ source front back,
        plan.ReportsInPlace subject registry units sells source front back := by
  intro keeps lent sells stocks source host own entry subject graph operations registry units
  have tested : subject ∈ entry.subjects := List.mem_singleton.mpr rfl
  let closure : NameSet := SortedSet.ofList [⟨"Keeps"⟩]
  have reached : graph.closure subject.target = .ok closure :=
    graph.closure_of_lone ⟨"Cart"⟩ (.extending (.ofClass ⟨"Cart"⟩) ⟨"Keeps"⟩) (by decide) rfl nofun
      (List.forall_mem_singleton.mpr (by decide))
  let plan := Plan.ofClosure registry subject closure
  have resolved : (subject.resolve graph registry).value = .ok plan := by
    rw [subject.value_resolve, reached]
  have suites : plan.suites = [keeps, sells, stocks] := by cbv
  have member : sells ∈ plan.suites := by
    rw [suites]
    exact List.mem_cons_of_mem _ List.mem_cons_self
  have something : subject.hasTests registry plan = true :=
    (subject.hasTests_iff registry plan).mpr (.inl (List.ne_nil_of_mem member))
  have leading : subject.directUnits registry source =
      [.direct ⟨"CartTests"⟩ ⟨"Cart"⟩ [own] source] := by cbv
  have assembled : (subject.assemble registry plan).value = .ok units := by
    rw [subject.value_assemble, if_pos something, suites]
    exact congrArg (fun direct => Except.ok (direct ++ _)) leading
  obtain ⟨built, _, source, front, back, _, inPlace⟩ :=
    Battery.malformed_reported_in_place graph operations [] entry subject tested plan resolved units
      assembled sells member rfl
  exact ⟨tested, plan, resolved, suites, assembled, rfl, rfl, built, source, front, back, inPlace⟩

end Conformance
