import Conformance.Proofs.DynamicBattery
import Conformance.Proofs.ReportedDefects
import Conformance.Proofs.ReportedRefusals

/-!
# What a report says of dynamic entry points

A report resolves the marker of every entry point, and it asks nobody for members. A build
of a dynamic entry point goes the other way: the target of its marker is looked up for
those members only that inherit it, and what is wrong with a member is reported by a unit
of the battery and refuses nobody.

So a report tells of every refused build with the same wording. It also tells of a marker
whose target is not declared, although such an entry point is built, whatever its members
do with the target. Nothing else about a dynamic entry point is told.

`DynamicReport` lists the three cases, and `Context.dynamic_alarms` says what follows.
-/

namespace Conformance

/-- How a dynamic entry point with members is reported, and what building it comes to. -/
inductive DynamicReport (context : Context) (entry : Entry) (members : List (Member Entry)) :
    EntryCoverage → Except Refusal Battery → Prop
  | missingMarker (unmarked : entry.marker = none) :
    DynamicReport context entry members (.ofRefusal (.missingMarker entry.name))
      (.error (.missingMarker entry.name))
  | unknownTarget (marker : Marker) (marked : entry.marker = some marker)
    (undeclared : context.graph.get? marker.target = none) :
    DynamicReport context entry members (.ofRefusal (.unknownTarget entry.name ⟨marker.target⟩))
      (.ok ⟨entry.name, members.flatMap (Member.share context marker entry.host)⟩)
  | planned (marker : Marker) (marked : entry.marker = some marker) (plan : Plan)
    (planned : entry.planned? context.graph context.registry = some plan) :
    DynamicReport context entry members ⟨plan.closure, [], []⟩
      (.ok ⟨entry.name, members.flatMap (Member.share context marker entry.host)⟩)

/-- Every dynamic entry point with members comes to one of the three cases. -/
theorem dynamic_report (context : Context) (entry : Entry) (members : List (Member Entry))
    (dynamic : entry.members = some members) (present : members ≠ []) :
    DynamicReport context entry members (context.contribution entry)
      (Battery.build entry context).value := by
  cases marked : entry.marker with
  | none =>
    have refused : (Battery.build entry context).value = .error (.missingMarker entry.name) := by
      rw [Battery.value_build_of_some entry context members dynamic, Subject.ofEntry, marked]
    rw [Context.contribution, entry.coverage_of_unmarked _ _ marked, refused]
    exact .missingMarker marked
  | some marker =>
    rw [Context.contribution, entry.coverage_of_marked _ _ marker marked,
      Battery.value_build_of_members entry context members dynamic present marker marked
        entry.host rfl]
    cases resolved :
        ((Subject.ofMarker entry marker).resolve context.graph context.registry).value with
    | error refusal =>
      obtain ⟨undeclared, rfl⟩ := (Subject.resolve_eq_error_iff _ _ _ refusal).mp resolved
      exact .unknownTarget marker marked undeclared
    | ok plan =>
      have planned := (entry.planned?_eq_some_iff _ _ plan).mpr ⟨marker, marked, resolved⟩
      simp only [EntryCoverage.ofPlan, Entry.isDynamic_of_some dynamic, Bool.true_or, if_true]
      exact .planned marker marked plan planned

/-- A member without a marker inherits a target that is not declared, and reports it. -/
theorem Member.share_of_undeclared (context : Context) (parent : Entry) (marker : Marker)
    (undeclared : context.graph.get? marker.target = none) (member : Entry)
    (unmarked : member.marker = none) :
    share context marker parent.host (.contract member) =
      [.error (.ofRefusal (.unknownTarget member.name ⟨marker.target⟩))] := by
  have target : (Subject.ofMember member (.ofMarker parent marker)).target = marker.target := by
    rw [Subject.ofMember, unmarked]
    rfl
  have resolved := (Subject.resolve_eq_error_iff (.ofMember member (.ofMarker parent marker))
    context.graph context.registry _).mpr ⟨target.symm ▸ undeclared, rfl⟩
  have refused : (Subject.ofMember member (.ofMarker parent marker)).units context.graph
      context.registry = .error (.unknownTarget member.name ⟨marker.target⟩) := by
    rw [Subject.units, resolved, target]
    rfl
  exact ((Member.share_exact context parent marker).failed member _ refused).1

/-- What a contribution to a report has to say of a dynamic entry point with members and of the
build. -/
structure EntryCoverage.Alarms (coverage : EntryCoverage) (context : Context) (entry : Entry)
    (members : List (Member Entry)) (outcome : Except Refusal Battery) : Prop where
  /-- There are two causes for an alarm: the build is refused, or the target of the marker is not
  declared. -/
  raised : coverage.errors ≠ [] ↔
    (∃ refusal, outcome = .error refusal) ∨
      ∃ marker, entry.marker = some marker ∧ context.graph.get? marker.target = none
  /-- A refusal of the build is reported with its wording. -/
  refused : ∀ refusal, outcome = .error refusal →
    coverage.errors = [.refusal entry.name refusal.message]
  /-- With a marker there is a battery, and it holds the shares of the members. -/
  built : ∀ marker, entry.marker = some marker →
    outcome = .ok ⟨entry.name, members.flatMap (Member.share context marker entry.host)⟩
  /-- Whatever these are, a target that is not declared is reported. -/
  undeclared : ∀ marker, entry.marker = some marker → context.graph.get? marker.target = none →
    coverage.errors =
      [.refusal entry.name (Refusal.unknownTarget entry.name ⟨marker.target⟩).message]
  /-- Members without a marker report the same target in the battery. -/
  inherited : ∀ marker, entry.marker = some marker → context.graph.get? marker.target = none →
    ∀ member, .contract member ∈ members → member.marker = none →
      Member.share context marker entry.host (.contract member) =
        [.error (.ofRefusal (.unknownTarget member.name ⟨marker.target⟩))]
  /-- A target that is declared is not reported. -/
  silent : ∀ marker, entry.marker = some marker → context.graph.get? marker.target ≠ none →
    coverage.errors = []
  /-- Nobody is said to have nothing to run. -/
  unlisted : coverage.untested = []

namespace DynamicReport

variable {context : Context} {entry : Entry} {members : List (Member Entry)}
variable {coverage : EntryCoverage} {outcome : Except Refusal Battery}

/-- In each of the three cases the alarms are those of the specification. -/
theorem alarms (report : DynamicReport context entry members coverage outcome) :
    coverage.Alarms context entry members outcome := by
  have inherited (marker : Marker) (_ : entry.marker = some marker)
      (undeclared : context.graph.get? marker.target = none) (member : Entry)
      (_ : .contract member ∈ members) (unmarked : member.marker = none) :=
    Member.share_of_undeclared context entry marker undeclared member unmarked
  cases report with
  | missingMarker unmarked =>
    constructor
    case inherited => exact inherited
    all_goals simp [unmarked, EntryCoverage.ofRefusal, Diagnostic.ofRefusal, Refusal.entry]
  | unknownTarget marker marked undeclared =>
    constructor
    case inherited => exact inherited
    all_goals simp [marked, undeclared, EntryCoverage.ofRefusal, Diagnostic.ofRefusal,
      Refusal.entry]
  | planned marker marked plan planned =>
    obtain ⟨own, ownMarked, declared⟩ := entry.marked_of_planned _ _ plan planned
    obtain rfl : marker = own := Option.some.inj (marked.symm.trans ownMarked)
    constructor
    case inherited => exact inherited
    all_goals simp [marked, declared]

end DynamicReport

namespace Context

/-- What the errors of a report say of dynamic entry points with members, in every context and for
all packages. The errors are gathered entry point by entry point, behind the defects of suites.

Gathering looks up the target of the marker, and a build of the entry point itself does not: it is
refused for a missing marker alone, which gathering comes upon too. -/
theorem dynamic_alarms (context : Context) (packages : List String) :
    (context.gather packages).value.errors = context.registry.defects.map .defect ++
        context.entries.flatMap (fun entry => (context.contribution entry).errors) ∧
      ∀ entry ∈ context.entries, ∀ members, entry.members = some members → members ≠ [] →
        (context.contribution entry).Alarms context entry members
          (Battery.build entry context).value := by
  refine ⟨context.errors_gather packages, ?_⟩
  intro entry _ members dynamic present
  exact (dynamic_report context entry members dynamic present).alarms

/-- Two entry points, one without a marker and one whose target is not declared. Both are reported,
and the second is built all the same: its member reports what it inherits. -/
theorem dynamic_alarms_both :
    let host : Host := ⟨⟨"AllCarts"⟩, false, .ok fun _ => none⟩
    let basket : Entry := ⟨⟨"Basket"⟩, none, host, [], none⟩
    let bare : Entry := ⟨⟨"BareCarts"⟩, none, host, [], some [.contract basket]⟩
    let lost : Entry := ⟨⟨"AllCarts"⟩, some ⟨⟨"Ghost"⟩, []⟩, host, [], some [.contract basket]⟩
    let context : Context := ⟨∅, ∅, [bare, lost]⟩
    let unknown (name : Name) : Refusal := .unknownTarget name ⟨⟨"Ghost"⟩⟩
    (context.gather []).value.errors =
        [.refusal ⟨"BareCarts"⟩ (Refusal.missingMarker ⟨"BareCarts"⟩).message,
          .refusal ⟨"AllCarts"⟩ (unknown ⟨"AllCarts"⟩).message] ∧
      (Battery.build lost context).value =
        .ok ⟨⟨"AllCarts"⟩, [.error (.ofRefusal (unknown ⟨"Basket"⟩))]⟩ := by
  intro host basket bare lost context unknown
  obtain ⟨errors, alarms⟩ := context.dynamic_alarms []
  have bareAlarms := alarms bare List.mem_cons_self _ rfl (List.cons_ne_nil _ _)
  have lostAlarms := alarms lost (List.mem_cons_of_mem _ (List.mem_singleton_self _)) _ rfl
    (List.cons_ne_nil _ _)
  have undeclared : context.graph.get? ⟨"Ghost"⟩ = none := rfl
  have bareReported := bareAlarms.refused (.missingMarker ⟨"BareCarts"⟩) rfl
  have lostReported := lostAlarms.undeclared _ rfl undeclared
  constructor
  · rw [errors]
    simp only [context, List.flatMap_cons, List.flatMap_nil, bareReported, lostReported]
    rfl
  · have share := lostAlarms.inherited _ rfl undeclared basket (List.mem_singleton_self _) rfl
    rw [lostAlarms.built _ rfl, List.flatMap_singleton, share]

/-- All members of an entry point are plain or name a declared target of their own, so that it is
built without the target of its marker. The report has an error for it. -/
theorem dynamic_alarms_false :
    let host : Host := ⟨⟨"AllCarts"⟩, false, .ok fun _ => none⟩
    let notes : PlainUnit := .ofOutcomes "notes" [("reads", .passed)]
    let basket : Entry :=
      ⟨⟨"Basket"⟩, some ⟨⟨"Cart"⟩, []⟩, host, [⟨"adds", ⟨"Basket"⟩, .done⟩], none⟩
    let entry : Entry := ⟨⟨"AllCarts"⟩, some ⟨⟨"Ghost"⟩, []⟩, host, [],
      some [.plain notes, .contract basket]⟩
    let context : Context := ⟨Graph.ofList [.ofClass ⟨"Cart"⟩], ∅, [entry]⟩
    (∃ battery, (Battery.build entry context).value = .ok battery) ∧
      (context.gather []).value.errors =
        [.refusal ⟨"AllCarts"⟩ (Refusal.unknownTarget ⟨"AllCarts"⟩ ⟨⟨"Ghost"⟩⟩).message] := by
  intro host notes basket entry context
  have alarms := (dynamic_report context entry _ rfl (List.cons_ne_nil _ _)).alarms
  have undeclared : context.graph.get? ⟨"Ghost"⟩ = none := by decide
  refine ⟨⟨_, alarms.built _ rfl⟩, ?_⟩
  rw [context.errors_gather, List.flatMap_singleton, alarms.undeclared _ rfl undeclared]
  rfl

end Context

end Conformance
