import Conformance.Proofs.UnitRuns
import Mathlib.Data.List.Range

/-!
# What producers are called for

While a test runs, its handle is asked for instances and for clean-ups, and for nothing
else. `Uses` relates the handle at the start of a trace, the trace, and the handle at its
end: every call in the trace goes to the handle that the call before it left. Bodies use
handles in this way, by induction on the body (`Script.run_induction`, which serves for
other statements on traces of bodies too), and so do the parts of tests, tests and
sessions, which hand on what their parts leave.

What holds of a handle after a trace then follows by induction on `Uses`. A handle stays on
one producer. Requests are numbered without a gap. The counters of a handle are those of its
calls; a clean-up that panics would be a call that does not count, hence the condition
`Producer.IsQuiet`.

Main statements: `Session.uses_ofTests`, `Uses.requested`, `Uses.accounted`.
-/

namespace Conformance

namespace Observation

/-- The call of a producer that is observed. -/
def call? : Observation → Option Call
  | .made _ _ => some .request
  | .cleaned _ _ => some .cleanUp
  | _ => none

/-- Whether a source was asked for a producer. -/
def isAsked : Observation → Bool
  | .asked _ _ => true
  | _ => false

/-- Whether a producer was asked for an instance. -/
def isMade : Observation → Bool
  | .made _ _ => true
  | _ => false

end Observation

/-- The calls of a producer that are observed, in order. -/
def callsIn (trace : List Observation) : List Call := trace.filterMap Observation.call?

/-- The calls in two traces are those in the first and then those in the second. -/
theorem callsIn_append (front back : List Observation) :
    callsIn (front ++ back) = callsIn front ++ callsIn back := List.filterMap_append

/-- The requests among two lists of calls are those of the first and those of the second. -/
theorem requests_append (front back : List Call) :
    requests (front ++ back) = requests front + requests back := List.count_append

/-! ## The use of a handle -/

/-- The calls in a trace go to the handle that the trace begins with, if there is one, each to what
the call before it left of the handle. -/
inductive Uses : Option Handle → List Observation → Option Handle → Prop where
  | nothing (handle : Option Handle) : Uses handle [] handle
  | entered {handle left : Option Handle} {rest : List Observation} (stage : Stage)
      (later : Uses handle rest left) : Uses handle (.entered stage :: rest) left
  | remark {handle left : Option Handle} {rest : List Observation} (remark : Remark)
      (later : Uses handle rest left) : Uses handle (.remark remark :: rest) left
  | request {handle : Handle} {left : Option Handle} {rest : List Observation}
      (later : Uses (some handle.request.handle) rest left) :
      Uses (some handle) (handle.request.trace ++ rest) left
  | cleanUp {handle : Handle} {left : Option Handle} {rest : List Observation}
      (later : Uses (some handle.cleanUp.handle) rest left) :
      Uses (some handle) (handle.cleanUp.trace ++ rest) left

/-- A handle that is used goes on to be used. -/
theorem Uses.append {handle middle left : Option Handle} {front back : List Observation}
    (first : Uses handle front middle) (second : Uses middle back left) :
    Uses handle (front ++ back) left := by
  induction first with
  | nothing handle => exact second
  | entered stage _ inductionHypothesis => exact .entered stage (inductionHypothesis second)
  | remark remark _ inductionHypothesis => exact .remark remark (inductionHypothesis second)
  | request _ inductionHypothesis => exact .request (inductionHypothesis second)
  | cleanUp _ inductionHypothesis => exact .cleanUp (inductionHypothesis second)

/-- What holds of no contact at all and is kept by remarks and by calls of the handle, each put in
front, holds of every body, however it ends. The motive speaks of the handle at the start, of the
trace, and of the handle that is left. -/
theorem Script.run_induction {motive : Option Handle → List Observation → Option Handle → Prop}
    (nothing : ∀ handle, motive handle [] handle)
    (remark : ∀ remark handle rest left, motive handle rest left →
      motive handle (.remark remark :: rest) left)
    (request : ∀ (handle : Handle) rest left, motive (some handle.request.handle) rest left →
      motive (some handle) (handle.request.trace ++ rest) left)
    (cleanUp : ∀ (handle : Handle) rest left, motive (some handle.cleanUp.handle) rest left →
      motive (some handle) (handle.cleanUp.trace ++ rest) left)
    (suite : Name) (test : String) (script : Script) (handle : Option Handle) :
    motive handle (script.run suite test handle).trace (script.run suite test handle).handle := by
  induction script generalizing handle with
  | done => exact nothing handle
  | fail failure => exact nothing handle
  | panic payload => exact nothing handle
  | record note next inductionHypothesis =>
    exact remark note handle _ _ (inductionHypothesis handle)
  | whereabouts next inductionHypothesis => exact inductionHypothesis suite test handle
  | request kind next inductionHypothesis =>
    cases handle with
    | none => exact inductionHypothesis _ none
    | some handle =>
      rw [run]
      split
      case h_1 item _ => exact request handle _ _ (inductionHypothesis _ _)
      case h_2 failure _ => exact request handle _ _ (inductionHypothesis _ _)
      -- a call that panics is the last contact of the body
      case h_3 payload _ => exact request handle [] _ (nothing _)
  | counters next inductionHypothesis =>
    cases handle with
    | none => exact inductionHypothesis _ none
    | some handle => exact inductionHypothesis _ (some handle)
  | cleanUp next inductionHypothesis =>
    cases handle with
    | none => exact inductionHypothesis _ none
    | some handle =>
      rw [run]
      split
      case h_1 => exact cleanUp handle _ _ (inductionHypothesis _ _)
      case h_2 payload _ => exact cleanUp handle [] _ (nothing _)

/-- A body uses the handle that it gets and leaves what remains of it. -/
theorem Script.uses_run (suite : Name) (test : String) (script : Script)
    (handle : Option Handle) :
    Uses handle (script.run suite test handle).trace (script.run suite test handle).handle :=
  run_induction .nothing (fun remark _ _ _ => .remark remark) (fun _ _ _ => .request)
    (fun _ _ _ => .cleanUp) suite test script handle

namespace Part

variable (suite : Name) (test : String)

/-- An attempt uses the handle that it gets. -/
theorem uses_attempt (part : Part) (handle : Option Handle) :
    Uses handle (part.attempt suite test handle).trace (part.attempt suite test handle).handle :=
  .entered part.stage (part.body.uses_run suite test handle)

/-- Parts that are run until one fails use the handle that they get. -/
theorem uses_untilFailure (parts : List Part) (handle : Option Handle) :
    Uses handle (untilFailure suite test parts handle).trace
      (untilFailure suite test parts handle).handle := by
  induction parts generalizing handle with
  | nil => exact .nothing handle
  | cons part rest inductionHypothesis =>
    have first := part.uses_attempt suite test handle
    rw [untilFailure]
    dsimp only
    split
    case h_1 failure _ => exact first
    case h_2 => exact first.append (inductionHypothesis _)

/-- Parts that are run throughout use the handle that they get. -/
theorem uses_throughout (parts : List Part) (handle : Option Handle) :
    Uses handle (throughout suite test parts handle).trace
      (throughout suite test parts handle).handle := by
  induction parts generalizing handle with
  | nil => exact .nothing handle
  | cons part rest inductionHypothesis =>
    exact (part.uses_attempt suite test handle).append (inductionHypothesis _)

end Part

/-- A test uses the handle that it gets up to its conclusion. -/
theorem TestCase.uses_perform (suite : Name) (before after : List Hook) (test : TestCase)
    (handle : Option Handle) :
    Uses handle (test.perform suite before after handle).trace
      (test.perform suite before after handle).handle :=
  (Part.uses_untilFailure suite test.name _ handle).append
    (Part.uses_throughout suite test.name _ _)

/-- The conclusion of a test is one more use. -/
theorem Progress.uses_conclude {progress : Progress} {handle : Option Handle}
    (performed : Uses handle progress.trace progress.handle) :
    Uses handle progress.conclude.trace progress.conclude.handle := by
  obtain ⟨failure, left, trace⟩ := progress
  cases left with
  | none => exact performed
  | some bound => exact performed.append (.entered .cleanUp (.cleanUp (.nothing _)))

/-- Tests hand the handle on from one to the next, also beyond a panic that ends their run. -/
theorem Session.uses_ofTests (unit : String) (suite : Name) (before after : List Hook)
    (tests : List TestCase) (handle : Option Handle) :
    Uses handle (ofTests unit suite before after tests handle).trace
      (ofTests unit suite before after tests handle).handle := by
  induction tests generalizing handle with
  | nil => exact .nothing handle
  | cons test rest inductionHypothesis =>
    have first := Progress.uses_conclude (test.uses_perform suite before after handle)
    rw [ofTests, TestCase.execute_eq]
    dsimp only
    split
    case h_1 payload _ => exact first
    case h_2 => exact first.append (inductionHypothesis _)

/-! ## What a use leaves -/

namespace Uses

variable {handle left : Option Handle} {trace : List Observation}

/-- No source is asked for another producer. -/
theorem asked (uses : Uses handle trace left) : trace.filter Observation.isAsked = [] := by
  induction uses with
  | nothing handle => rfl
  | entered stage _ inductionHypothesis => exact inductionHypothesis
  | remark remark _ inductionHypothesis => exact inductionHypothesis
  | request _ inductionHypothesis => exact inductionHypothesis
  | cleanUp _ inductionHypothesis => exact inductionHypothesis

/-- What calls do not change of a handle is the same at the end. -/
theorem unchanged {α : Type} (part : Handle → α)
    (request : ∀ bound : Handle, part bound.request.handle = part bound)
    (cleanUp : ∀ bound : Handle, part bound.cleanUp.handle = part bound)
    (uses : Uses handle trace left) : left.map part = handle.map part := by
  induction uses with
  | nothing handle => rfl
  | entered stage _ inductionHypothesis => exact inductionHypothesis
  | remark remark _ inductionHypothesis => exact inductionHypothesis
  | request _ inductionHypothesis => rw [inductionHypothesis, Option.map_some, request]; rfl
  | cleanUp _ inductionHypothesis => rw [inductionHypothesis, Option.map_some, cleanUp]; rfl

/-- A handle stays on its producer. -/
theorem producer (uses : Uses handle trace left) :
    left.map Handle.producer = handle.map Handle.producer :=
  uses.unchanged Handle.producer (fun _ => rfl) (fun _ => rfl)

/-- A handle stays on its capability. -/
theorem capability (uses : Uses handle trace left) :
    left.map Handle.capability = handle.map Handle.capability :=
  uses.unchanged Handle.capability (fun _ => rfl) (fun _ => rfl)

/-- The calls of a handle are those in the trace, after those that it begins with. -/
theorem calls (uses : Uses handle trace left) :
    left.map Handle.calls = handle.map fun bound => bound.calls ++ callsIn trace := by
  induction uses with
  | nothing handle => cases handle <;> simp [callsIn]
  | entered stage _ inductionHypothesis => exact inductionHypothesis
  | remark remark _ inductionHypothesis => exact inductionHypothesis
  | @request handle _ rest _ inductionHypothesis =>
    have called : callsIn (handle.request.trace ++ rest) = .request :: callsIn rest := rfl
    rw [inductionHypothesis, called]
    simp [Handle.request]
  | @cleanUp handle _ rest _ inductionHypothesis =>
    have called : callsIn (handle.cleanUp.trace ++ rest) = .cleanUp :: callsIn rest := rfl
    rw [inductionHypothesis, called]
    simp [Handle.cleanUp]

/-- Without a handle nothing is called. -/
theorem unbound (uses : Uses handle trace left) (missing : handle = none) :
    callsIn trace = [] := by
  induction uses with
  | nothing handle => rfl
  | entered stage _ inductionHypothesis => exact inductionHypothesis missing
  | remark remark _ inductionHypothesis => exact inductionHypothesis missing
  | request => cases missing
  | cleanUp => cases missing

/-- The requests in a trace go to the producer of the handle. They are numbered on from those that
the handle begins with, without a gap. -/
theorem requested (uses : Uses handle trace left) :
    trace.filter Observation.isMade = handle.toList.flatMap fun bound =>
      (List.range' (requests bound.calls + 1) (requests (callsIn trace))).map
        (.made bound.producer.capability) := by
  induction uses with
  | nothing handle => cases handle <;> rfl
  | entered stage _ inductionHypothesis => exact inductionHypothesis
  | remark remark _ inductionHypothesis => exact inductionHypothesis
  | @request handle _ rest _ inductionHypothesis =>
    have first : (handle.request.trace ++ rest).filter Observation.isMade =
        .made handle.producer.capability (requests handle.calls + 1) ::
          rest.filter Observation.isMade := rfl
    have called : requests (callsIn (handle.request.trace ++ rest)) =
        requests (callsIn rest) + 1 := List.count_cons_self
    have later : requests handle.request.handle.calls = requests handle.calls + 1 :=
      requests_append handle.calls [.request]
    rw [first, inductionHypothesis, called]
    simp only [Option.toList_some, List.flatMap_singleton, List.range'_succ, List.map_cons, later]
    rfl
  | @cleanUp handle _ rest _ inductionHypothesis =>
    have called : requests (callsIn (handle.cleanUp.trace ++ rest)) = requests (callsIn rest) :=
      List.count_cons_of_ne (by decide : Call.cleanUp ≠ .request)
    have later : requests handle.cleanUp.handle.calls = requests handle.calls :=
      requests_append handle.calls [.cleanUp]
    have first : (handle.cleanUp.trace ++ rest).filter Observation.isMade =
        rest.filter Observation.isMade := rfl
    rw [first, inductionHypothesis, called]
    simp only [Option.toList_some, List.flatMap_singleton, later]
    rfl

end Uses

/-! ## Counters -/

def Reply.isGiven : Reply → Bool
  | .given _ => true
  | _ => false

/-- The replies of a producer to the requests among its next calls, after earlier ones. -/
def Producer.repliesAfter (producer : Producer) : List Call → List Call → List Reply
  | _, [] => []
  | past, .request :: rest => producer.reply past :: producer.repliesAfter (past ++ [.request]) rest
  | past, .cleanUp :: rest => producer.repliesAfter (past ++ [.cleanUp]) rest

/-- The replies of a producer to all requests among its calls. -/
def Producer.replies (producer : Producer) (calls : List Call) : List Reply :=
  producer.repliesAfter [] calls

/-- The replies to two lists of calls are those to the first and then, with these behind them, those
to the second. -/
theorem Producer.repliesAfter_append (producer : Producer) (past front back : List Call) :
    producer.repliesAfter past (front ++ back) =
      producer.repliesAfter past front ++ producer.repliesAfter (past ++ front) back := by
  induction front generalizing past with
  | nil => rw [List.append_nil]; rfl
  | cons call rest inductionHypothesis =>
    rw [List.append_cons past call rest]
    cases call with
    | request => exact congrArg (producer.reply past :: ·) (inductionHypothesis _)
    | cleanUp => exact inductionHypothesis _

/-- A request adds the reply that the producer has for it after all calls so far. -/
theorem Producer.replies_request (producer : Producer) (calls : List Call) :
    producer.replies (calls ++ [.request]) = producer.replies calls ++ [producer.reply calls] :=
  producer.repliesAfter_append [] calls [.request]

/-- A clean-up adds no reply. -/
theorem Producer.replies_cleanUp (producer : Producer) (calls : List Call) :
    producer.replies (calls ++ [.cleanUp]) = producer.replies calls := by
  rw [replies, producer.repliesAfter_append [] calls [.cleanUp]]
  exact List.append_nil _

/-- A producer whose clean-up never panics. -/
def Producer.IsQuiet (producer : Producer) : Prop :=
  ∀ calls, (producer.release calls).panic = none

/-- The counters are those of the calls: an instance that is handed out counts, whatever its type,
and so does every clean-up. -/
structure Handle.Accounted (handle : Handle) : Prop where
  produced : handle.produced = (handle.producer.replies handle.calls).countP Reply.isGiven
  cleaned : handle.cleaned = handle.calls.count .cleanUp

namespace Handle

/-- A new handle counts nothing. -/
theorem accounted_new (capability : Name) (producer : Producer) :
    (new capability producer).Accounted := ⟨rfl, rfl⟩

/-- A request keeps the counters right. -/
theorem Accounted.request {handle : Handle} (accounted : handle.Accounted) :
    handle.request.handle.Accounted := by
  constructor
  case produced =>
    have replies := handle.producer.replies_request handle.calls
    simp only [Handle.request, replies, List.countP_append, accounted.produced]
    cases handle.producer.reply handle.calls <;> rfl
  case cleaned =>
    simp only [Handle.request, List.count_append, accounted.cleaned]
    rfl

/-- A clean-up that does not panic keeps the counters right. -/
theorem Accounted.cleanUp {handle : Handle} (accounted : handle.Accounted)
    (quiet : handle.producer.IsQuiet) : handle.cleanUp.handle.Accounted := by
  constructor
  case produced =>
    have replies := handle.producer.replies_cleanUp handle.calls
    simp only [Handle.cleanUp, replies, accounted.produced]
  case cleaned =>
    simp only [Handle.cleanUp, List.count_append, accounted.cleaned, quiet handle.calls]
    rfl

end Handle

/-- The counters of a handle on a quiet producer stay those of its calls. -/
theorem Uses.accounted {handle left : Option Handle} {trace : List Observation}
    (uses : Uses handle trace left) (quiet : ∀ bound ∈ handle, bound.producer.IsQuiet)
    (accounted : ∀ bound ∈ handle, bound.Accounted) : ∀ bound ∈ left, bound.Accounted := by
  induction uses with
  | nothing handle => exact accounted
  | entered stage _ inductionHypothesis => exact inductionHypothesis quiet accounted
  | remark remark _ inductionHypothesis => exact inductionHypothesis quiet accounted
  | @request handle _ _ _ inductionHypothesis =>
    apply inductionHypothesis
    · rintro bound ⟨⟩
      exact quiet handle rfl
    · rintro bound ⟨⟩
      exact (accounted handle rfl).request
  | @cleanUp handle _ _ _ inductionHypothesis =>
    apply inductionHypothesis
    · rintro bound ⟨⟩
      exact quiet handle rfl
    · rintro bound ⟨⟩
      exact (accounted handle rfl).cleanUp (quiet handle rfl)

end Conformance
