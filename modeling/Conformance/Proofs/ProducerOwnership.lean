import Conformance.Proofs.MissingProducer

/-!
# One producer for one unit

A unit asks its source once, before it starts, and what it gets is its own: all calls of
its tests go to one handle, whose producer nobody else has, and each test ends with a
clean-up by the engine. So the calls of the run are those of the tests in their order, and
the handle that the last test leaves has counted them. A unit whose source has no producer
runs as if each access to one were refused.

Main statement: `RunUnit.owns_producer`. It asks that the factory and the clean-up do not
panic, and lets hooks, bodies and requests do what they like.
-/

namespace Conformance

/-! ## Conclusions -/

namespace Progress

/-- Without a handle the end of a test adds nothing. -/
theorem conclude_unbound (progress : Progress) (missing : progress.handle = none) :
    progress.conclude.trace = progress.trace ∧ progress.conclude.escaped = none := by
  rw [conclude, missing]
  exact ⟨rfl, rfl⟩

/-- The last call of a test on a handle is the clean-up of the engine. -/
theorem conclude_bound (progress : Progress) (bound : Handle)
    (holds : progress.handle = some bound) :
    let release := bound.producer.release bound.calls
    progress.conclude.trace = progress.trace ++
        [.entered .cleanUp, .cleaned bound.producer.capability release.shown] ∧
      progress.conclude.escaped = release.panic := by
  rw [conclude, holds]
  exact ⟨rfl, rfl⟩

end Progress

/-- All tests of a session are performed on one producer. -/
theorem TestCase.producer_performAll (suite : Name) (before after : List Hook)
    (tests : List TestCase) (handle : Option Handle) :
    ∀ performed ∈ performAll suite before after tests handle,
      performed.handle.map Handle.producer = handle.map Handle.producer := by
  induction tests generalizing handle with
  | nil => exact nofun
  | cons test rest inductionHypothesis =>
    have uses := test.uses_perform suite before after handle
    intro performed member
    rcases List.mem_cons.mp member with rfl | later
    · exact uses.producer
    · rw [inductionHypothesis _ performed later]
      exact (Progress.uses_conclude uses).producer

namespace Workload

/-- Neither the factory of the producer panics nor its clean-up. -/
structure Quiet (work : Workload) : Prop where
  supplied : ∀ payload, work.source work.target ≠ some (.error payload)
  released : ∀ producer, work.source work.target = some (.ok producer) → producer.IsQuiet

variable {work : Workload}

/-- A workload without a producer has no handle. -/
theorem handle_of_missing (missing : work.source work.target = none) : work.handle = none := by
  rw [handle, missing]

/-- A workload with a producer has a new handle on it. -/
theorem handle_of_bound {producer : Producer}
    (bound : work.source work.target = some (.ok producer)) :
    work.handle = some (Handle.new work.target producer) := by
  rw [handle, bound]

/-- Without a producer no test ends with a handle. -/
theorem unbound_performances (missing : work.source work.target = none) :
    ∀ performed ∈ work.performances, performed.handle = none := by
  intro performed member
  have same := TestCase.producer_performAll _ _ _ _ _ performed member
  rw [handle_of_missing missing] at same
  exact Option.map_eq_none_iff.mp same

/-- With a producer every test ends with a handle on it. -/
theorem bound_performances {producer : Producer}
    (bound : work.source work.target = some (.ok producer)) :
    ∀ performed ∈ work.performances,
      ∃ left, performed.handle = some left ∧ left.producer = producer := by
  intro performed member
  have same := TestCase.producer_performAll _ _ _ _ _ performed member
  rw [handle_of_bound bound] at same
  exact Option.map_eq_some_iff.mp same

/-- A quiet producer does not disturb the run. -/
theorem Quiet.undisturbed (quiet : work.Quiet) : work.Undisturbed := by
  refine ⟨quiet.supplied, ?_⟩
  intro performed member
  cases supplied : work.source work.target with
  | none =>
    exact (performed.conclude_unbound (unbound_performances supplied performed member)).2
  | some factory =>
    cases factory with
    | error payload => exact absurd supplied (quiet.supplied payload)
    | ok producer =>
      obtain ⟨left, holds, rfl⟩ := bound_performances supplied performed member
      rw [(performed.conclude_bound left holds).2]
      exact quiet.released left.producer supplied left.calls

/-- What becomes of the producer of a workload in its run, at the end of which a handle is left. -/
structure Owns (work : Workload) (producer : Producer) (left : Handle) (run : Run) : Prop where
  capability : left.capability = work.target
  same : left.producer = producer
  /-- All calls of the run are calls of the handle. -/
  observed : callsIn run.trace = left.calls
  /-- They are those that the tests make one after another, each followed by the engine. -/
  calls : left.calls = work.performances.flatMap fun performed =>
    callsIn performed.trace ++ [.cleanUp]
  concluded : ∀ performed ∈ work.performances, ∃ shown, performed.conclude.trace =
    performed.trace ++ [.entered .cleanUp, .cleaned producer.capability shown]
  /-- Requests are numbered through all tests. -/
  requested : run.trace.filter Observation.isMade =
    (List.range' 1 (requests left.calls)).map (.made producer.capability)
  /-- One clean-up for each test, and those that bodies and hooks ask for. -/
  cleaned : left.cleaned = work.tests.length +
    (work.performances.flatMap fun performed => callsIn performed.trace).count .cleanUp
  /-- Every instance that the producer gave, also those of another type than the one asked for. -/
  produced : left.produced = (producer.replies left.calls).countP Reply.isGiven

/-- The calls of a run are those of its performances, each followed by a clean-up. -/
theorem callsIn_session {producer : Producer}
    (bound : work.source work.target = some (.ok producer)) (undisturbed : work.Undisturbed)
    (unit : String) : callsIn (work.session unit).trace =
      work.performances.flatMap fun performed => callsIn performed.trace ++ [.cleanUp] := by
  rw [undisturbed.trace_session, callsIn, List.filterMap_flatMap]
  apply List.flatMap_congr
  intro performed member
  obtain ⟨left, holds, -⟩ := bound_performances bound performed member
  rw [(performed.conclude_bound left holds).1]
  exact callsIn_append _ _

/-- A clean-up after each performance adds as many as there are performances. -/
theorem count_cleanUp_flatMap (performances : List Progress) :
    (performances.flatMap fun performed => callsIn performed.trace ++ [.cleanUp]).count .cleanUp =
      performances.length +
        (performances.flatMap fun performed => callsIn performed.trace).count .cleanUp := by
  induction performances with
  | nil => rfl
  | cons first rest inductionHypothesis =>
    have last : [Call.cleanUp].count .cleanUp = 1 := rfl
    simp only [List.flatMap_cons, List.count_append, inductionHypothesis, last, List.length_cons]
    omega

/-- The handle that is left at the end of a session owns the producer. -/
theorem Quiet.owns {producer : Producer} (quiet : work.Quiet)
    (bound : work.source work.target = some (.ok producer)) (unit : String) :
    ∃ left, (work.session unit).handle = some left ∧
      work.Owns producer left (work.run unit) := by
  have undisturbed := quiet.undisturbed
  have uses : Uses work.handle (work.session unit).trace (work.session unit).handle :=
    Session.uses_ofTests unit _ _ _ _ _
  rw [handle_of_bound bound] at uses
  obtain ⟨left, holds, same⟩ := Option.map_eq_some_iff.mp uses.producer
  rw [holds] at uses
  -- the session is one use of the handle, and its calls are all that the handle has seen
  have fromStart : left.calls = callsIn (work.session unit).trace := Option.some.inj uses.calls
  have calls := fromStart.trans (callsIn_session bound undisturbed unit)
  have accounted : left.Accounted := by
    refine uses.accounted ?_ ?_ left rfl
    · rintro first ⟨⟩
      exact quiet.released producer bound
    · rintro first ⟨⟩
      exact Handle.accounted_new work.target producer
  have heard : (work.run unit).trace =
      .asked work.target (work.source work.target).isSome :: (work.session unit).trace := by
    rw [undisturbed.run_eq, undisturbed.trace_session]
  refine ⟨left, holds, ?_⟩
  constructor
  case capability => exact Option.some.inj uses.capability
  case same => exact same
  case observed =>
    rw [heard]
    exact fromStart.symm
  case calls => exact calls
  case concluded =>
    intro performed member
    obtain ⟨last, lastHolds, rfl⟩ := bound_performances bound performed member
    exact ⟨_, (performed.conclude_bound last lastHolds).1⟩
  case requested =>
    have requested := uses.requested
    rw [← fromStart] at requested
    rw [heard]
    exact requested.trans (List.flatMap_singleton _ _)
  case cleaned =>
    rw [accounted.cleaned, calls, count_cleanUp_flatMap, length_performances]
  case produced =>
    rw [accounted.produced, same]
    rfl

/-- What a workload makes of its source in its run. -/
structure OneProducer (work : Workload) (unit : String) (run : Run) : Prop where
  ended : run.escaped = none
  started : run.events.head? = some (.unitStarted unit)
  /-- The tests follow the question for a producer. -/
  trace : run.trace = .asked work.target (work.source work.target).isSome ::
    work.performances.flatMap fun performed => performed.conclude.trace
  once : run.trace.filter Observation.isAsked =
    [.asked work.target (work.source work.target).isSome]
  /-- A panic of the factory would end the run before the unit starts. -/
  first : ∀ payload, { work with source := fun _ => some (.error payload) }.run unit =
    ⟨[], [.asked work.target true], some payload⟩
  bound : ∀ producer, work.source work.target = some (.ok producer) →
    ∃ left, (work.session unit).handle = some left ∧ work.Owns producer left run
  /-- Without a producer nothing is called, and bodies run as if each access had failed. -/
  missing : work.source work.target = none → callsIn run.trace = [] ∧ run = work.refused.run unit

/-- A quiet workload has one producer. -/
theorem Quiet.oneProducer (quiet : work.Quiet) (unit : String) :
    work.OneProducer unit (work.run unit) := by
  have undisturbed := quiet.undisturbed
  have uses : Uses work.handle (work.session unit).trace (work.session unit).handle :=
    Session.uses_ofTests unit _ _ _ _ _
  rw [undisturbed.trace_session] at uses
  have run := undisturbed.run_eq unit
  constructor
  case ended => rw [run]
  case started => rw [run]; rfl
  case trace => rw [run]
  case once =>
    rw [run]
    exact congrArg (Observation.asked work.target _ :: ·) uses.asked
  case first => exact fun payload => rfl
  case bound => exact fun producer bound => quiet.owns bound unit
  case missing =>
    intro missing
    refine ⟨?_, (work.run_refused unit missing).symm⟩
    rw [run]
    exact uses.unbound (handle_of_missing missing)

end Workload

/-- A contract unit or a direct unit asks its source for a producer once, before it starts. If it
gets one, the calls of all its tests go to that one: requests are numbered through, the engine
cleans up after every test, and the handle has counted what was handed out and cleaned up. If it
gets none, nothing is called, and each access fails with the failure that names the suite. -/
theorem RunUnit.owns_producer (unit : RunUnit) (work : Workload)
    (works : unit.workload? = some work) (quiet : work.Quiet) :
    work.OneProducer unit.name unit.run := by
  rw [unit.run_of_workload work works]
  exact quiet.oneProducer unit.name

/-- Two tests and three requests: the first gives an instance of another type, the second nothing,
and the third panics. Bodies and hooks clean up three times. -/
theorem RunUnit.owns_producer_counted :
    let producer : Producer := .cycling ⟨"Cart"⟩
      [.given (.integer 1), .refused "sold out", .panic .wordless] ⟨true, none⟩
    let keeps : TestCase :=
      ⟨"keeps", ⟨"KeepsTest"⟩, .request .truth fun _ => .cleanUp fun _ => .done⟩
    let refills : TestCase := ⟨"refills", ⟨"KeepsTest"⟩,
      .request .integer fun _ => .request .integer fun _ => .done⟩
    let empty : Hook := ⟨"empty", .cleanUp fun _ => .done⟩
    let suite : Suite := ⟨⟨⟨"KeepsTest"⟩, ⟨"Keeps"⟩⟩, false, [.conventional ⟨"KeepsTest"⟩],
      [keeps, refills], [], [empty]⟩
    let source : Source := fun _ => some (.ok producer)
    let unit : RunUnit := .contract ⟨"Basket"⟩ suite source
    let work : Workload := ⟨⟨"KeepsTest"⟩, ⟨"Keeps"⟩, [], [empty], [keeps, refills], source⟩
    unit.workload? = some work ∧ work.Quiet ∧ unit.run.escaped = none ∧
      unit.run.trace.filter Observation.isMade =
        [.made ⟨"Cart"⟩ 1, .made ⟨"Cart"⟩ 2, .made ⟨"Cart"⟩ 3] ∧
      ∃ left, (work.session unit.name).handle = some left ∧
        left.cleaned = 2 + 3 ∧ left.produced = 1 := by
  intro producer keeps refills empty suite source unit work
  have quiet : work.Quiet := by
    refine ⟨nofun, ?_⟩
    rintro other ⟨⟩
    exact fun calls => rfl
  have owned := owns_producer unit work rfl quiet
  obtain ⟨left, holds, owns⟩ := owned.bound producer rfl
  have calls : left.calls = [.request, .cleanUp, .cleanUp, .cleanUp, .request, .request,
      .cleanUp, .cleanUp] := owns.calls.trans (by decide +kernel)
  refine ⟨rfl, quiet, owned.ended, ?_, left, holds, ?_, ?_⟩
  · rw [owns.requested, calls]
    rfl
  · exact owns.cleaned.trans (by decide +kernel)
  · rw [owns.produced, calls]
    rfl

end Conformance
