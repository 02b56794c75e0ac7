import Conformance.Observation

/-!
# Recorded computations

Resolving and assembling suites yields a value and leaves two records behind: what
was logged, and which contacts with hosts and members took place. Both grow in the
order of the steps.
-/

namespace Conformance

/-- The severity of a log record. -/
inductive Level where
  | error
  | warn
  | info
  | debug
deriving DecidableEq

def Level.label : Level → String
  | .error => "error"
  | .warn => "warn"
  | .info => "info"
  | .debug => "debug"

/-- One line of the log. -/
structure LogRecord where
  level : Level
  message : String
deriving DecidableEq

/-- A value with what was logged and observed on the way to it. -/
structure Recorded (α : Type) where
  value : α
  log : List LogRecord
  trace : List Observation

namespace Recorded

variable {α β : Type}

/-- A value that nothing was recorded for. -/
def silent (value : α) : Recorded α := ⟨value, [], []⟩

/-- Goes on with a value; what is recorded later follows. -/
def andThen (first : Recorded α) (next : α → Recorded β) : Recorded β :=
  let second := next first.value
  ⟨second.value, first.log ++ second.log, first.trace ++ second.trace⟩

instance : Monad Recorded where
  pure := silent
  bind := andThen

/-- Logs one line. -/
def logged (level : Level) (message : String) : Recorded Unit := ⟨(), [⟨level, message⟩], []⟩

/-- Records one contact. -/
def observed (observation : Observation) : Recorded Unit := ⟨(), [], [observation]⟩

/-- Does the same for every item, in order. -/
def forEach (items : List α) (step : α → Recorded β) : Recorded (List β) :=
  let results := items.map step
  ⟨results.map value, results.flatMap log, results.flatMap trace⟩

/-- Nothing is done to a value that nothing was recorded for. -/
@[simp] theorem value_pure (item : α) : (pure item : Recorded α).value = item := rfl

/-- Nothing is logged for a value alone. -/
@[simp] theorem log_pure (item : α) : (pure item : Recorded α).log = [] := rfl

/-- Nothing is observed for a value alone. -/
@[simp] theorem trace_pure (item : α) : (pure item : Recorded α).trace = [] := rfl

/-- The value of two steps is that of the second. -/
@[simp] theorem value_bind (first : Recorded α) (next : α → Recorded β) :
    (first >>= next).value = (next first.value).value := rfl

/-- The log of two steps is that of the first and then that of the second. -/
@[simp] theorem log_bind (first : Recorded α) (next : α → Recorded β) :
    (first >>= next).log = first.log ++ (next first.value).log := rfl

/-- What is observed of two steps is what is observed of the first and then of the second. -/
@[simp] theorem trace_bind (first : Recorded α) (next : α → Recorded β) :
    (first >>= next).trace = first.trace ++ (next first.value).trace := rfl

/-- There is one value for every item, in order. -/
@[simp] theorem value_forEach (items : List α) (step : α → Recorded β) :
    (forEach items step).value = items.map fun item => (step item).value := by
  simp only [forEach, List.map_map]
  rfl

/-- The logs for all items follow one another in the order of the items. -/
@[simp] theorem log_forEach (items : List α) (step : α → Recorded β) :
    (forEach items step).log = items.flatMap fun item => (step item).log := by
  simp only [forEach, List.flatMap_map]

/-- So does what is observed. -/
@[simp] theorem trace_forEach (items : List α) (step : α → Recorded β) :
    (forEach items step).trace = items.flatMap fun item => (step item).trace := by
  simp only [forEach, List.flatMap_map]

/-- What a recorded walk over a list ends with is what the walk without records ends with. -/
theorem value_foldlM (step : β → α → Recorded β) (start : β) (items : List α) :
    (items.foldlM step start).value =
      items.foldl (fun state item => (step state item).value) start := by
  induction items generalizing start with
  | nil => rfl
  | cons head rest inductionHypothesis =>
    rw [List.foldlM_cons, value_bind, inductionHypothesis, List.foldl_cons]

end Recorded

end Conformance
