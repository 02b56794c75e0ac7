import Conformance.Suite.Basic

/-!
# Declarations

A suite is declared clause by clause. The clauses may be stated in any order and number, and
those of one sort do not get in the way of another: the suite holds the setters, the tests and
the hooks that were stated, each in their order (`Suite.Holds`, kept by every clause).

There are five rules of declaration. `Breaks` says of each when it is broken and which defect
tells of it, from whether the type is abstract and from the setters alone. The defects of a
suite are those of the rules that are broken, each once, in the order of the rules
(`Defect.rank`). No rule is broken exactly if the type is not abstract and the one setter is
declared on a concrete type and takes one argument: the rules leave no other case out.

Main statement: `Suite.declaration_judged`.
-/

namespace Conformance

/-- One clause of the declaration of a suite. -/
inductive Clause where
  /-- The declaring type is abstract. -/
  | abstractType
  /-- A setter is marked. -/
  | setter (setter : Setter)
  /-- The setter by convention is marked. -/
  | producerSetter
  | test (name : String) (body : Script)
  | before (hook : Hook)
  | after (hook : Hook)

namespace Clause

/-- The suite with one more clause in its declaration. -/
def apply (suite : Suite) : Clause → Suite
  | .abstractType => suite.asAbstract
  | .setter marked => suite.withSetter marked
  | .producerSetter => suite.withProducerSetter
  | .test name body => suite.withTest name body
  | .before hook => suite.withBefore hook
  | .after hook => suite.withAfter hook

/-- Whether a clause says that the declaring type is abstract. -/
@[simp] def saysAbstract : Clause → Bool
  | .abstractType => true
  | _ => false

/-- Only one clause makes a suite abstract. -/
theorem saysAbstract_iff (clause : Clause) :
    clause.saysAbstract = true ↔ clause = .abstractType := by
  cases clause <;> simp

/-- The setter that a clause marks in the declaration by a type. -/
@[simp] def setter? (declaringType : Name) : Clause → Option Setter
  | .setter marked => some marked
  | .producerSetter => some ⟨"set_producer", declaringType, false, 1⟩
  | _ => none

/-- The test that a clause adds to the declaration by a type, which is declared there. -/
@[simp] def test? (declaringType : Name) : Clause → Option TestCase
  | .test name body => some ⟨name, declaringType, body⟩
  | _ => none

@[simp] def before? : Clause → Option Hook
  | .before hook => some hook
  | _ => none

@[simp] def after? : Clause → Option Hook
  | .after hook => some hook
  | _ => none

/-- The setters that clauses mark, in their order. -/
def marked (declaringType : Name) (clauses : List Clause) : List Setter :=
  clauses.filterMap (setter? declaringType)

/-- A clause adds behind those of its sort, and leaves the other sorts as they are. -/
theorem apply_eq (clause : Clause) (suite : Suite) : clause.apply suite = {
    key := suite.key
    isAbstract := suite.isAbstract || clause.saysAbstract
    setters := suite.setters ++ (clause.setter? suite.declaringType).toList
    tests := suite.tests ++ (clause.test? suite.declaringType).toList
    before := suite.before ++ clause.before?.toList
    after := suite.after ++ clause.after?.toList } := by
  cases clause with
  | abstractType => simp [apply, Suite.asAbstract]
  | setter marked => simp [apply, Suite.withSetter]
  | producerSetter =>
    simp [apply, Suite.withProducerSetter, Suite.withSetter, Setter.conventional]
  | test name body => simp [apply, Suite.withTest]
  | before hook => simp [apply, Suite.withBefore]
  | after hook => simp [apply, Suite.withAfter]

end Clause

/-! ## The rules -/

/-- The rules that a declaration breaks, each with the defect that tells of it. -/
inductive Breaks (declaringType : Name) (isAbstract : Prop) (setters : List Setter) :
    Defect → Prop where
  | abstractType (stated : isAbstract) :
    Breaks declaringType isAbstract setters (.abstractType declaringType)
  | missingSetter (none : setters = []) :
    Breaks declaringType isAbstract setters (.missingSetter declaringType)
  | ambiguousSetter (several : 2 ≤ setters.length) :
    Breaks declaringType isAbstract setters (.ambiguousSetter declaringType setters.length)
  | abstractSetter (setter : Setter) (only : setters = [setter])
      (onAbstract : setter.onAbstract = true) :
    Breaks declaringType isAbstract setters (.abstractSetter declaringType setter.method)
  | malformedSetter (setter : Setter) (only : setters = [setter])
      (arity : setter.parameters ≠ 1) :
    Breaks declaringType isAbstract setters
      (.malformedSetter declaringType setter.method setter.parameters)

/-- The place of the rule that a defect tells of among all rules. -/
def Defect.rank : Defect → Nat
  | .abstractType _ => 0
  | .missingSetter _ => 1
  | .ambiguousSetter _ _ => 2
  | .abstractSetter _ _ => 3
  | .malformedSetter _ _ _ => 4

/-- No rule is broken exactly if the type is not abstract and one setter is marked, on a concrete
type and with one argument. -/
theorem unbroken_iff (declaringType : Name) (isAbstract : Prop) (setters : List Setter) :
    (∀ defect, ¬ Breaks declaringType isAbstract setters defect) ↔
      ¬ isAbstract ∧ ∃ setter, setters = [setter] ∧ setter.onAbstract = false ∧
        setter.parameters = 1 := by
  constructor
  · intro unbroken
    refine ⟨fun stated => unbroken _ (.abstractType stated), ?_⟩
    -- no setter and several setters each break a rule, whatever the setters are like
    match setters with
    | [] => exact absurd (.missingSetter rfl) (unbroken _)
    | [setter] =>
      refine ⟨setter, rfl, ?_, ?_⟩
      · refine Bool.eq_false_iff.mpr fun onAbstract => ?_
        exact unbroken _ (.abstractSetter setter rfl onAbstract)
      · refine Decidable.of_not_not fun arity => ?_
        exact unbroken _ (.malformedSetter setter rfl arity)
    | first :: second :: rest =>
      have several : 2 ≤ (first :: second :: rest).length := by simp
      exact absurd (.ambiguousSetter several) (unbroken _)
  · rintro ⟨concrete, setter, rfl, onConcrete, arity⟩ defect broken
    cases broken with
    | abstractType stated => exact concrete stated
    | missingSetter none => cases none
    | ambiguousSetter several => simp at several
    | abstractSetter other only onAbstract =>
      obtain rfl := List.singleton_inj.mp only
      simp [onConcrete] at onAbstract
    | malformedSetter other only otherArity =>
      obtain rfl := List.singleton_inj.mp only
      exact otherArity arity

namespace Suite

/-! ## The defects of a suite -/

/-- A setter breaks the rules that it must not be on an abstract type and must take one argument. -/
theorem mem_setterDefects_iff (declaringType : Name) (setter : Setter) (defect : Defect) :
    defect ∈ setterDefects declaringType setter ↔
      (setter.onAbstract = true ∧ defect = .abstractSetter declaringType setter.method) ∨
        (setter.parameters ≠ 1 ∧
          defect = .malformedSetter declaringType setter.method setter.parameters) := by
  rw [setterDefects, List.mem_append]
  split <;> split <;> simp_all

/-- The defects of a suite tell of the rules that are broken. -/
theorem mem_defects_iff (suite : Suite) (defect : Defect) : defect ∈ suite.defects ↔
    Breaks suite.declaringType (suite.isAbstract = true) suite.setters defect := by
  rw [defects, List.mem_append]
  constructor
  · rintro (ofType | ofSetters)
    · split at ofType
      case isTrue stated =>
        obtain rfl := List.mem_singleton.mp ofType
        exact .abstractType stated
      case isFalse => exact absurd ofType List.not_mem_nil
    · split at ofSetters
      case h_1 none =>
        obtain rfl := List.mem_singleton.mp ofSetters
        exact .missingSetter none
      case h_2 setter only =>
        rcases (mem_setterDefects_iff _ setter defect).mp ofSetters with
          ⟨onAbstract, rfl⟩ | ⟨arity, rfl⟩
        · exact .abstractSetter setter only onAbstract
        · exact .malformedSetter setter only arity
      case h_3 some notOne =>
        obtain rfl := List.mem_singleton.mp ofSetters
        refine .ambiguousSetter ?_
        match suite.setters, some, notOne with
        | [], some, _ => exact absurd rfl some
        | [setter], _, notOne => exact absurd rfl (notOne setter)
        | _ :: _ :: _, _, _ => simp
  · intro broken
    cases broken with
    | abstractType stated => simp [stated]
    | missingSetter none => simp [none]
    | ambiguousSetter several =>
      match setters : suite.setters, several with
      | _ :: _ :: _, _ => simp
    | abstractSetter setter only onAbstract =>
      simp [only, mem_setterDefects_iff, onAbstract]
    | malformedSetter setter only arity => simp [only, mem_setterDefects_iff, arity]

/-- The defects of a suite stand in the order of the rules, with no two of one rule. -/
theorem defects_inOrder (suite : Suite) :
    suite.defects.Pairwise fun earlier later => earlier.rank < later.rank := by
  have among : (suite.defects.map Defect.rank).Sublist ([0] ++ [1, 2, 3, 4]) := by
    rw [defects, List.map_append]
    refine List.Sublist.append ?ofType ?ofSetters
    case ofType => split <;> simp [Defect.rank]
    case ofSetters =>
      split
      · simp [Defect.rank]
      · rw [setterDefects]
        split <;> split <;> simp [Defect.rank]
      · simp [Defect.rank]
  exact List.pairwise_map.mp (List.Pairwise.sublist among (by decide))

/-- A suite can run if it is not abstract and has one setter that breaks no rule. -/
theorem isWellFormed_iff (suite : Suite) : suite.isWellFormed = true ↔
    suite.isAbstract = false ∧ ∃ setter, suite.setters = [setter] ∧ setter.onAbstract = false ∧
      setter.parameters = 1 := by
  rw [isWellFormed, List.isEmpty_iff, List.eq_nil_iff_forall_not_mem]
  simp only [mem_defects_iff, unbroken_iff, Bool.not_eq_true]

/-- A suite is ready exactly if it can run. -/
theorem status_eq_ready_iff (suite : Suite) :
    suite.status = .ready ↔ suite.isWellFormed = true := by
  rw [status, isWellFormed]
  split <;> simp_all

/-- A suite that cannot run is told with its defects. -/
theorem status_of_malformed (suite : Suite) (malformed : suite.isWellFormed = false) :
    suite.status = .malformed suite.defects := by
  rw [isWellFormed] at malformed
  rw [status, malformed, if_neg Bool.false_ne_true]

/-- The setter that receives the producer is the only one of a suite that can run. -/
theorem injectionPoint?_eq_some_iff (suite : Suite) (setter : Setter) :
    suite.injectionPoint? = some setter ↔
      suite.isWellFormed = true ∧ suite.setters = [setter] := by
  rw [injectionPoint?]
  split
  case h_1 only one => simp [one]
  case h_2 notOne => exact iff_of_false nofun fun ⟨_, one⟩ => notOne setter one

/-- A suite has a setter to receive the producer exactly if it can run. -/
theorem injectionPoint?_isSome_iff (suite : Suite) :
    suite.injectionPoint?.isSome = true ↔ suite.isWellFormed = true := by
  simp only [Option.isSome_iff_exists, injectionPoint?_eq_some_iff]
  constructor
  · rintro ⟨_, wellFormed, _⟩
    exact wellFormed
  · intro wellFormed
    obtain ⟨_, setter, one, _⟩ := suite.isWellFormed_iff.mp wellFormed
    exact ⟨setter, wellFormed, one⟩

/-! ## Clauses one after another -/

/-- The suite that clauses declare. -/
def declared (declaringType target : Name) (clauses : List Clause) : Suite :=
  clauses.foldl Clause.apply (.new declaringType target)

/-- What a suite holds after the clauses of its declaration. -/
structure Holds (suite : Suite) (key : SuiteKey) (clauses : List Clause) : Prop where
  key_eq : suite.key = key
  isAbstract_iff : suite.isAbstract = true ↔ .abstractType ∈ clauses
  setters : suite.setters = Clause.marked key.declaringType clauses
  /-- Every test is declared in the declaring type. -/
  tests : suite.tests = clauses.filterMap (Clause.test? key.declaringType)
  before : suite.before = clauses.filterMap Clause.before?
  after : suite.after = clauses.filterMap Clause.after?

/-- A new suite holds nothing but its key. -/
theorem holds_new (declaringType target : Name) :
    (new declaringType target).Holds ⟨declaringType, target⟩ [] where
  key_eq := rfl
  isAbstract_iff := by simp [new]
  setters := rfl
  tests := rfl
  before := rfl
  after := rfl

/-- One more clause is held behind those of its sort, and the other sorts stay as they are. -/
theorem Holds.apply {suite : Suite} {key : SuiteKey} {clauses : List Clause}
    (holds : suite.Holds key clauses) (clause : Clause) :
    (clause.apply suite).Holds key (clauses ++ [clause]) := by
  obtain rfl := holds.key_eq
  have behind {α : Type} (sort : Clause → Option α) :
      (clauses ++ [clause]).filterMap sort = clauses.filterMap sort ++ (sort clause).toList := by
    rw [List.filterMap_append]
    cases found : sort clause <;> simp [found]
  rw [clause.apply_eq suite]
  constructor
  case key_eq => rfl
  case isAbstract_iff =>
    rw [Bool.or_eq_true, holds.isAbstract_iff, clause.saysAbstract_iff, List.mem_append,
      List.mem_singleton, eq_comm (a := clause)]
  case setters => rw [Clause.marked, behind, ← Clause.marked, ← holds.setters, declaringType]
  case tests => rw [behind, ← holds.tests, declaringType]
  case before => rw [behind, ← holds.before]
  case after => rw [behind, ← holds.after]

/-- What is declared already stays in front of what further clauses state. -/
theorem Holds.applyAll {suite : Suite} {key : SuiteKey} {earlier : List Clause}
    (holds : suite.Holds key earlier) (clauses : List Clause) :
    (clauses.foldl Clause.apply suite).Holds key (earlier ++ clauses) := by
  induction clauses generalizing suite earlier with
  | nil =>
    rw [List.append_nil]
    exact holds
  | cons clause rest inductionHypothesis =>
    rw [List.append_cons]
    exact inductionHypothesis (holds.apply clause)

/-- A suite holds what the clauses of its declaration state, and nothing else. -/
theorem holds_declared (declaringType target : Name) (clauses : List Clause) :
    (declared declaringType target clauses).Holds ⟨declaringType, target⟩ clauses :=
  (holds_new declaringType target).applyAll clauses

/-- The defects are told by whether the declaring type is abstract and which setters are marked. -/
theorem defects_congr (left right : Suite) (types : left.declaringType = right.declaringType)
    (abstract : left.isAbstract = right.isAbstract) (setters : left.setters = right.setters) :
    left.defects = right.defects := by
  rw [defects, defects, types, abstract, setters]

namespace Holds

variable {suite : Suite} {key : SuiteKey} {clauses : List Clause} (holds : suite.Holds key clauses)
include holds

/-- A suite holds the declaring type of its key. -/
theorem declaringType_eq : suite.declaringType = key.declaringType := by
  rw [declaringType, holds.key_eq]

/-- Whether a suite can run is told by its clauses. -/
theorem isWellFormed_iff : suite.isWellFormed = true ↔ .abstractType ∉ clauses ∧
    ∃ setter, Clause.marked key.declaringType clauses = [setter] ∧ setter.onAbstract = false ∧
      setter.parameters = 1 := by
  rw [suite.isWellFormed_iff, ← holds.isAbstract_iff, ← holds.setters, Bool.not_eq_true]

/-- Which rules a suite breaks is told by its clauses. -/
theorem mem_defects_iff (defect : Defect) : defect ∈ suite.defects ↔
    Breaks key.declaringType (.abstractType ∈ clauses) (Clause.marked key.declaringType clauses)
      defect := by
  rw [suite.mem_defects_iff, holds.declaringType_eq, ← holds.setters, propext holds.isAbstract_iff]

end Holds

/-- What a declaration has to come to, told by its clauses. -/
structure Judged (suite : Suite) (declaringType target : Name) (clauses : List Clause) : Prop where
  /-- The suite holds what the clauses state, those of each sort in their order. -/
  holds : suite.Holds ⟨declaringType, target⟩ clauses
  /-- It can run exactly if no clause calls the type abstract and a single one marks a setter, which
  is declared on a concrete type and takes one argument. -/
  wellFormed_iff : suite.isWellFormed = true ↔ .abstractType ∉ clauses ∧
    ∃ setter, Clause.marked declaringType clauses = [setter] ∧ setter.onAbstract = false ∧
      setter.parameters = 1
  ready_iff : suite.status = .ready ↔ suite.isWellFormed = true
  faultless_iff : suite.defects = [] ↔ suite.isWellFormed = true
  injected_iff : suite.injectionPoint?.isSome = true ↔ suite.isWellFormed = true
  /-- What receives the producer is the one setter that is marked. -/
  injected : ∀ setter, suite.injectionPoint? = some setter →
    Clause.marked declaringType clauses = [setter]
  /-- The status of a suite that cannot run tells of its defects. -/
  malformed : suite.isWellFormed = false → suite.status = .malformed suite.defects
  /-- There is a defect for every rule that is broken, and for no other. -/
  broken : ∀ defect, defect ∈ suite.defects ↔ Breaks declaringType (.abstractType ∈ clauses)
    (Clause.marked declaringType clauses) defect
  /-- The defects stand in the order of the rules, with no two of one rule. -/
  inOrder : suite.defects.Pairwise fun earlier later => earlier.rank < later.rank
  /-- Declarations by one type have the same defects if they agree on whether it is abstract and
  mark the same setters, whatever else they state and in between. -/
  determined : ∀ (otherTarget : Name) (others : List Clause),
    (.abstractType ∈ others ↔ .abstractType ∈ clauses) →
    Clause.marked declaringType others = Clause.marked declaringType clauses →
    (declared declaringType otherTarget others).defects = suite.defects

/-- Whether a suite can run, and with which defects it cannot, is told by the clauses of its
declaration. -/
theorem declaration_judged (declaringType target : Name) (clauses : List Clause) :
    (declared declaringType target clauses).Judged declaringType target clauses := by
  have holds := holds_declared declaringType target clauses
  constructor
  case holds => exact holds
  case wellFormed_iff => exact holds.isWellFormed_iff
  case ready_iff => exact status_eq_ready_iff _
  case faultless_iff => rw [isWellFormed, List.isEmpty_iff]
  case injected_iff => exact injectionPoint?_isSome_iff _
  case injected =>
    intro setter bound
    rw [← holds.setters]
    exact ((injectionPoint?_eq_some_iff _ setter).mp bound).2
  case malformed => exact status_of_malformed _
  case broken => exact holds.mem_defects_iff
  case inOrder => exact defects_inOrder _
  case determined =>
    intro otherTarget others abstract setters
    have otherHolds := holds_declared declaringType otherTarget others
    apply defects_congr
    · rw [otherHolds.declaringType_eq, holds.declaringType_eq]
    · rw [Bool.eq_iff_iff, otherHolds.isAbstract_iff, holds.isAbstract_iff, abstract]
    · rw [otherHolds.setters, holds.setters, setters]

/-- Every rule that is broken is told of, those for the type before those for its setter. -/
example : (declared ⟨"Spec"⟩ ⟨"Shape"⟩
      [.setter ⟨"accept", ⟨"Base"⟩, true, 2⟩, .test "area" .done, .abstractType]).defects =
    [.abstractType ⟨"Spec"⟩, .abstractSetter ⟨"Spec"⟩ "accept",
      .malformedSetter ⟨"Spec"⟩ "accept" 2] := by
  decide

end Suite

end Conformance
