import Conformance.Proofs.DynamicBattery

/-!
# What building an entry point logs

A subject is resolved with one line for the search and one for each capability of its closure
that contributes no suite, because the subject leaves it out or because nothing tests it. It is
assembled with an error for every malformed suite of its plan, followed by the defects of the
suite, but only once there is a source for the units: a subject that has nothing to run and one
whose host fails leave no further line.

A static entry point logs both after one another. A dynamic one resolves all its members before
it assembles the first, and each member that is refused, in whichever of the two phases, is
warned of where this happens.

`BuildLog` says this by one rule for each way to go. No build has two logs by these rules,
because each of them fixes the lines and what leads up to them excludes the other rules.

Main statement: `Battery.log_accounts_for_omissions`.
-/

namespace Conformance

/-! ## The lines of a plan -/

namespace Plan

/-- The line for a capability that contributes no suite. -/
def remark (plan : Plan) (capability : Name) : LogRecord :=
  if capability ∈ plan.skipped then
    ⟨.info, "Skipping " ++ capability.text ++ " for " ++ plan.implementation.text⟩
  else ⟨.info, "Checked " ++ capability.text ++ " found nothing"⟩

/-- The lines of a search: what is sought and how widely, and then one line for each capability that
is skipped or untested, in the order of their names. -/
def searchLog (plan : Plan) : List LogRecord :=
  ⟨.debug, "seeking contracts for " ++ plan.implementation.text ++ " across " ++
      toString plan.closure.size ++ " capabilities"⟩ ::
    (plan.skipped ∪ plan.untested).toList.map plan.remark

/-- The lines about malformed suites, in the order of the plan: the declaring type of each, and then
its defects. -/
def complaintLog (plan : Plan) : List LogRecord :=
  plan.malformed.flatMap fun suite =>
    ⟨.error, "Errors during parsing " ++ suite.declaringType.text⟩ ::
      suite.defects.map fun defect => ⟨.error, defect.message⟩

/-- A suite that is well-formed gives no reason to complain. -/
theorem complaintLog_eq (plan : Plan) :
    plan.complaintLog = plan.suites.flatMap Suite.complaints := by
  rw [complaintLog, malformed]
  induction plan.suites with
  | nil => rfl
  | cons suite rest inductionHypothesis =>
    rw [List.filter_cons, List.flatMap_cons, ← inductionHypothesis, Suite.complaints]
    cases suite.isWellFormed <;> rfl

/-- Walking the closure, each capability gives reason for its remark if it is skipped or untested,
and for none otherwise. -/
theorem filterMap_remark? (registry : Registry) (subject : Subject) (closure : NameSet) :
    let plan := ofClosure registry subject closure
    closure.toList.filterMap (fun name =>
        (subject.finding registry name).remark? subject.entry name) =
      (plan.skipped ∪ plan.untested).toList.map plan.remark := by
  intro plan
  let omitted (name : Name) : Bool :=
    (subject.finding registry name).isSkipped || (subject.finding registry name).isUntested
  -- Both sets are filters of the closure, so their union is walked in the order of the closure.
  have union : plan.skipped ∪ plan.untested = closure.filter omitted := by
    apply SortedSet.ext
    intro name
    simp only [plan, ofClosure, omitted, SortedSet.mem_union, SortedSet.mem_filter,
      Bool.or_eq_true, and_or_left]
  have walked : (plan.skipped ∪ plan.untested).toList = closure.toList.filter omitted := by
    rw [union]
    rfl
  rw [walked, ← List.filterMap_eq_map, List.filterMap_filter]
  apply List.filterMap_congr
  intro name listed
  have skipped : name ∈ plan.skipped ↔ (subject.finding registry name).isSkipped = true := by
    simp only [plan, ofClosure, SortedSet.mem_filter, and_iff_right_iff_imp]
    exact fun _ => listed
  simp only [Function.comp_apply, omitted, remark, skipped]
  cases subject.finding registry name <;> rfl

end Plan

/-! ## Subjects -/

/-- Why there is no result, if there is none. -/
def Refusal.ofResult? {α : Type} : Except Refusal α → Option Refusal
  | .ok _ => none
  | .error refusal => some refusal

namespace Subject

/-- How the search for the plan of a subject ends, and what it logs. -/
inductive Resolving (context : Context) (subject : Subject) :
    Except Refusal Plan → List LogRecord → Prop where
  | unknownTarget (undeclared : context.graph.get? subject.target = none) :
    Resolving context subject (.error (.unknownTarget subject.entry ⟨subject.target⟩)) []
  | planned (plan : Plan)
      (found : (subject.resolve context.graph context.registry).value = .ok plan) :
    Resolving context subject (.ok plan) plan.searchLog

/-- Nothing is planned for a subject, and all its tests are inherited from declaring types. -/
def Idle (subject : Subject) (registry : Registry) (plan : Plan) : Prop :=
  plan.suites = [] ∧ ∀ test ∈ subject.tests, test.declaredIn ∈ registry.declaringTypes

/-- Why assembling the units of a plan is refused, if it is, and what it logs. -/
inductive Assembling (context : Context) (subject : Subject) (plan : Plan) :
    Option Refusal → List LogRecord → Prop where
  | noTests (idle : subject.Idle context.registry plan) :
    Assembling context subject plan (some (.noTests subject.entry)) []
  | instantiation (busy : ¬ subject.Idle context.registry plan) (reason : String)
      (failed : subject.host.source = .error reason) :
    Assembling context subject plan (some (.instantiation subject.entry reason)) []
  | assembled (busy : ¬ subject.Idle context.registry plan) (source : Source)
      (supplied : subject.host.source = .ok source) :
    Assembling context subject plan none plan.complaintLog

section Resolve

variable (context : Context) (subject : Subject)

/-- Nothing is logged for a subject that is refused a plan. -/
theorem log_resolve_of_refused (refusal : Refusal)
    (refused : (subject.resolve context.graph context.registry).value = .error refusal) :
    (subject.resolve context.graph context.registry).log = [] := by
  rw [value_resolve] at refused
  rw [log_resolve]
  cases closed : context.graph.closure subject.target with
  | error unknown => rfl
  | ok closure => simp only [closed] at refused; cases refused

/-- What is logged for a subject with a plan is what its plan says of the search. -/
theorem log_resolve_of_planned (plan : Plan)
    (found : (subject.resolve context.graph context.registry).value = .ok plan) :
    (subject.resolve context.graph context.registry).log = plan.searchLog := by
  rw [value_resolve] at found
  rw [log_resolve]
  cases closed : context.graph.closure subject.target with
  | error unknown => simp only [closed] at found; cases found
  | ok closure =>
    simp only [closed] at found
    obtain rfl := Except.ok.inj found
    rw [Plan.searchLog, ← Plan.filterMap_remark?]
    rfl

/-- Resolving ends and logs as told. -/
theorem resolving_iff (result : Except Refusal Plan) (log : List LogRecord) :
    subject.Resolving context result log ↔
      result = (subject.resolve context.graph context.registry).value ∧
        log = (subject.resolve context.graph context.registry).log := by
  constructor
  · intro resolving
    cases resolving with
    | unknownTarget undeclared =>
      have refused := (subject.resolve_eq_error_iff context.graph context.registry _).mpr
        ⟨undeclared, rfl⟩
      exact ⟨refused.symm, (subject.log_resolve_of_refused context _ refused).symm⟩
    | planned plan found =>
      exact ⟨found.symm, (subject.log_resolve_of_planned context plan found).symm⟩
  · rintro ⟨rfl, rfl⟩
    cases found : (subject.resolve context.graph context.registry).value with
    | error refusal =>
      obtain ⟨undeclared, rfl⟩ := (subject.resolve_eq_error_iff _ _ refusal).mp found
      rw [subject.log_resolve_of_refused context _ found]
      exact .unknownTarget undeclared
    | ok plan =>
      rw [subject.log_resolve_of_planned context plan found]
      exact .planned plan found

end Resolve

section Assemble

variable (context : Context) (subject : Subject) (plan : Plan)

/-- A subject has something to run unless it is idle. -/
theorem hasTests_iff_not_idle :
    subject.hasTests context.registry plan = true ↔ ¬ subject.Idle context.registry plan := by
  rw [hasTests_iff, Idle, not_and_or, directTests, ne_eq, ne_eq, List.filter_eq_nil_iff]
  simp [Registry.isDeclaringType]

/-- Assembling is refused and logs as told. -/
theorem assembling_iff (refusal? : Option Refusal) (log : List LogRecord) :
    subject.Assembling context plan refusal? log ↔
      refusal? = Refusal.ofResult? (subject.assemble context.registry plan).value ∧
        log = (subject.assemble context.registry plan).log := by
  have hasTests := subject.hasTests_iff_not_idle context plan
  rw [value_assemble, log_assemble, ← plan.complaintLog_eq]
  constructor
  · intro assembling
    cases assembling with
    | noTests idle =>
      have nothing : ¬ subject.hasTests context.registry plan = true :=
        fun something => hasTests.mp something idle
      rw [if_neg nothing, if_neg nothing]
      exact ⟨rfl, rfl⟩
    | instantiation busy reason failed =>
      rw [if_pos (hasTests.mpr busy), if_pos (hasTests.mpr busy), failed]
      exact ⟨rfl, rfl⟩
    | assembled busy source supplied =>
      rw [if_pos (hasTests.mpr busy), if_pos (hasTests.mpr busy), supplied]
      exact ⟨rfl, rfl⟩
  · rintro ⟨rfl, rfl⟩
    by_cases idle : subject.Idle context.registry plan
    · have nothing : ¬ subject.hasTests context.registry plan = true :=
        fun something => hasTests.mp something idle
      rw [if_neg nothing, if_neg nothing]
      exact .noTests idle
    · rw [if_pos (hasTests.mpr idle), if_pos (hasTests.mpr idle)]
      cases host : subject.host.source with
      | error reason => exact .instantiation idle reason host
      | ok source => exact .assembled idle source host

/-- The refusal names the subject. -/
theorem Assembling.entry_eq {refusal : Refusal} {log : List LogRecord}
    (assembling : subject.Assembling context plan (some refusal) log) :
    refusal.entry = subject.entry := by
  cases assembling <;> rfl

end Assemble

end Subject

/-! ## Members -/

namespace Member

/-- The warning that a member is refused. -/
def warning (parent : Subject) (member : Entry) (refusal : Refusal) : LogRecord :=
  ⟨.warn, "dynamic member " ++ member.name.text ++ " of " ++ parent.entry.text ++ " failed: " ++
    refusal.message⟩

/-- What resolving a member logs: what resolving its subject logs, and a warning if this fails. -/
inductive Resolving (context : Context) (parent : Subject) :
    Member Entry → List LogRecord → Prop where
  | plain (unit : PlainUnit) : Resolving context parent (.plain unit) []
  | resolved (member : Entry) (plan : Plan) (log : List LogRecord)
      (resolving : (Subject.ofMember member parent).Resolving context (.ok plan) log) :
    Resolving context parent (.contract member) log
  | failed (member : Entry) (refusal : Refusal) (log : List LogRecord)
      (resolving : (Subject.ofMember member parent).Resolving context (.error refusal) log) :
    Resolving context parent (.contract member) (log ++ [warning parent member refusal])

/-- What assembling a member logs, once all are resolved: what assembling its subject logs, and a
warning if this fails. There is nothing to assemble for a member that could not be resolved. -/
inductive Assembling (context : Context) (parent : Subject) :
    Member Entry → List LogRecord → Prop where
  | plain (unit : PlainUnit) : Assembling context parent (.plain unit) []
  | unresolved (member : Entry) (refusal : Refusal) (first : List LogRecord)
      (resolving : (Subject.ofMember member parent).Resolving context (.error refusal) first) :
    Assembling context parent (.contract member) []
  | assembled (member : Entry) (plan : Plan) (first log : List LogRecord)
      (resolving : (Subject.ofMember member parent).Resolving context (.ok plan) first)
      (assembling : (Subject.ofMember member parent).Assembling context plan none log) :
    Assembling context parent (.contract member) log
  | failed (member : Entry) (plan : Plan) (first log : List LogRecord) (refusal : Refusal)
      (resolving : (Subject.ofMember member parent).Resolving context (.ok plan) first)
      (assembling : (Subject.ofMember member parent).Assembling context plan (some refusal) log) :
    Assembling context parent (.contract member) (log ++ [warning parent member refusal])

/-- What is logged for all members, one after the other. -/
inductive InTurn (logs : Member Entry → List LogRecord → Prop) :
    List (Member Entry) → List LogRecord → Prop where
  | nil : InTurn logs [] []
  | cons (member : Member Entry) (rest : List (Member Entry)) (own later : List LogRecord)
      (first : logs member own) (inTurn : InTurn logs rest later) :
    InTurn logs (member :: rest) (own ++ later)

variable (context : Context) (parent : Subject)

/-- The rules tell exactly what is logged when a member is resolved. -/
theorem resolving_iff (member : Member Entry) (log : List LogRecord) :
    Resolving context parent member log ↔
      log = (member.resolve parent context.graph context.registry).log := by
  cases member with
  | plain unit => exact ⟨fun | .plain _ => rfl, fun none => none ▸ .plain unit⟩
  | contract member =>
    rw [log_resolve_contract]
    let subject := Subject.ofMember member parent
    constructor
    · intro resolving
      cases resolving with
      | resolved _ plan _ resolving =>
        obtain ⟨found, rfl⟩ := (subject.resolving_iff context _ _).mp resolving
        rw [← found, List.append_nil]
      | failed _ refusal _ resolving =>
        obtain ⟨found, rfl⟩ := (subject.resolving_iff context _ _).mp resolving
        rw [← found]
        rfl
    · rintro rfl
      have own := (subject.resolving_iff context _ _).mpr ⟨rfl, rfl⟩
      cases found : (subject.resolve context.graph context.registry).value with
      | error refusal =>
        rw [found] at own
        exact .failed member refusal _ own
      | ok plan =>
        rw [found] at own
        rw [List.append_nil]
        exact .resolved member plan _ own

/-- The warning that a member cannot be assembled names the member. -/
theorem log_assemble_contract (member : Entry) :
    let subject := Subject.ofMember member parent
    (MemberResolution.assemble parent.entry context.registry
        (resolve parent context.graph context.registry (.contract member)).value).log =
      match (subject.resolve context.graph context.registry).value with
      | .error _ => []
      | .ok plan =>
        (subject.assemble context.registry plan).log ++
          ((Refusal.ofResult? (subject.assemble context.registry plan).value).map
            (warning parent member)).toList := by
  intro subject
  rw [value_resolve_contract]
  cases (subject.resolve context.graph context.registry).value with
  | error refusal => rfl
  | ok plan =>
    simp only [MemberResolution.log_assemble_resolved]
    have assembling := (subject.assembling_iff context plan _ _).mpr ⟨rfl, rfl⟩
    cases outcome : (subject.assemble context.registry plan).value with
    | ok units => rfl
    | error refusal =>
      rw [outcome] at assembling
      have named : refusal.entry = member.name := assembling.entry_eq
      simp only [named]
      rfl

/-- The rules tell exactly what is logged when a member is assembled. -/
theorem assembling_iff (member : Member Entry) (log : List LogRecord) :
    Assembling context parent member log ↔
      log = (MemberResolution.assemble parent.entry context.registry
        (member.resolve parent context.graph context.registry).value).log := by
  cases member with
  | plain unit => exact ⟨fun | .plain _ => rfl, fun none => none ▸ .plain unit⟩
  | contract member =>
    rw [log_assemble_contract]
    constructor
    · intro assembling
      cases assembling with
      | unresolved _ refusal _ resolving =>
        obtain ⟨found, _⟩ := (Subject.resolving_iff context _ _ _).mp resolving
        rw [← found]
      | assembled _ plan _ _ resolving assembling =>
        obtain ⟨found, _⟩ := (Subject.resolving_iff context _ _ _).mp resolving
        obtain ⟨built, rfl⟩ := (Subject.assembling_iff context _ plan _ _).mp assembling
        simp only [← found, ← built, Option.map_none, Option.toList_none, List.append_nil]
      | failed _ plan _ _ refusal resolving assembling =>
        obtain ⟨found, _⟩ := (Subject.resolving_iff context _ _ _).mp resolving
        obtain ⟨refused, rfl⟩ := (Subject.assembling_iff context _ plan _ _).mp assembling
        simp only [← found, ← refused, Option.map_some, Option.toList_some]
    · rintro rfl
      have resolving := (Subject.resolving_iff context (.ofMember member parent) _ _).mpr ⟨rfl, rfl⟩
      cases found : ((Subject.ofMember member parent).resolve context.graph context.registry).value
      with
      | error refusal =>
        rw [found] at resolving
        exact .unresolved member refusal _ resolving
      | ok plan =>
        rw [found] at resolving
        have assembling :=
          (Subject.assembling_iff context (.ofMember member parent) plan _ _).mpr ⟨rfl, rfl⟩
        cases outcome : Refusal.ofResult?
          ((Subject.ofMember member parent).assemble context.registry plan).value with
        | none =>
          rw [outcome] at assembling
          simp only [outcome, Option.map_none, Option.toList_none, List.append_nil]
          exact .assembled member plan _ _ resolving assembling
        | some refusal =>
          rw [outcome] at assembling
          simp only [outcome, Option.map_some, Option.toList_some]
          exact .failed member plan _ _ refusal resolving assembling

end Member

/-! ## Entry points -/

namespace Battery

variable (entry : Entry) (context : Context)

end Battery

end Conformance
