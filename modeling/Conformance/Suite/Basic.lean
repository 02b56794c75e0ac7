import Conformance.Script

/-!
# Suites

A suite is a set of tests that every implementation of one capability has to pass. It
is declared by a type and receives its producer through one marked setter. A suite
that breaks a rule of declaration is kept with its defects and reports them when its
turn comes to run.
-/

namespace Conformance

/-- One test. -/
structure TestCase where
  name : String
  /-- The type that the test was declared in. -/
  declaredIn : Name
  body : Script

/-- What runs before or after every test of a suite. -/
structure Hook where
  name : String
  body : Script

/-- A setter that is marked to receive the producer. -/
structure Setter where
  method : String
  declaredOn : Name
  /-- Whether the declaring type of the setter is abstract. -/
  onAbstract : Bool
  /-- How many arguments the setter takes. -/
  parameters : Nat
deriving DecidableEq

/-- The setter by convention: one argument, on a concrete type. -/
def Setter.conventional (declaredOn : Name) : Setter := ⟨"set_producer", declaredOn, false, 1⟩

/-- The identity of a suite: who declares it, and which capability it tests. -/
structure SuiteKey where
  declaringType : Name
  target : Name
deriving DecidableEq, Inhabited

namespace SuiteKey

/-- Keys are ordered by declaring type, then by target. -/
instance : Ord SuiteKey := ⟨compareLex (compareOn declaringType) (compareOn target)⟩

instance : Std.TransOrd SuiteKey :=
  inferInstanceAs (Std.TransCmp (compareLex (compareOn declaringType) (compareOn target)))

instance : Std.LawfulEqOrd SuiteKey where
  eq_of_compare {left right} equal := by
    obtain ⟨declaring, target⟩ := compareLex_eq_eq.mp equal
    have declaringEqual : left.declaringType = right.declaringType :=
      Std.LawfulEqOrd.eq_of_compare (α := Name) declaring
    have targetEqual : left.target = right.target :=
      Std.LawfulEqOrd.eq_of_compare (α := Name) target
    cases left
    cases right
    cases declaringEqual
    cases targetEqual
    rfl

/-- The identity as it is shown: the last segments of both names. -/
def display (key : SuiteKey) : String :=
  "[" ++ key.declaringType.simpleName ++ " testing " ++ key.target.simpleName ++ "]"

end SuiteKey

/-- A rule of declaration that a suite breaks. -/
inductive Defect where
  | abstractType (suite : Name)
  | missingSetter (suite : Name)
  | ambiguousSetter (suite : Name) (count : Nat)
  | abstractSetter (suite : Name) (method : String)
  | malformedSetter (suite : Name) (method : String) (parameters : Nat)
deriving DecidableEq

namespace Defect

/-- The declaring type of the suite with the defect. -/
def suite : Defect → Name
  | .abstractType suite => suite
  | .missingSetter suite => suite
  | .ambiguousSetter suite _ => suite
  | .abstractSetter suite _ => suite
  | .malformedSetter suite _ _ => suite

/-- The wording of a defect. -/
def message : Defect → String
  | .abstractType suite => "contract declaration " ++ suite.text ++ " must not be abstract"
  | .missingSetter suite =>
    "contract declaration " ++ suite.text ++
      " must include an injection marker on a non-abstract declared setter"
  | .ambiguousSetter suite count =>
    "contract declaration " ++ suite.text ++ " marks " ++ toString count ++
      " injection setters; exactly one is allowed"
  | .abstractSetter suite method =>
    "injection setter " ++ method ++ " of " ++ suite.text ++
      " must not be declared on an abstract type"
  | .malformedSetter suite method parameters =>
    "injection setter " ++ method ++ " of " ++ suite.text ++ " takes " ++ toString parameters ++
      " arguments; expected 1"

end Defect

/-- The tests of one capability, as one type declares them. -/
structure Suite where
  key : SuiteKey
  /-- Whether the declaring type is abstract. -/
  isAbstract : Bool
  /-- The marked setters in the order of their declaration. -/
  setters : List Setter
  tests : List TestCase
  before : List Hook
  after : List Hook

namespace Suite

/-- A suite with nothing in it yet. -/
def new (declaringType target : Name) : Suite := ⟨⟨declaringType, target⟩, false, [], [], [], []⟩

def declaringType (suite : Suite) : Name := suite.key.declaringType

/-- The capability that the suite tests. -/
def target (suite : Suite) : Name := suite.key.target

/-- Declares the suite on an abstract type. -/
def asAbstract (suite : Suite) : Suite := { suite with isAbstract := true }

/-- Marks one more setter. -/
def withSetter (suite : Suite) (setter : Setter) : Suite :=
  { suite with setters := suite.setters ++ [setter] }

/-- Marks the conventional setter on the declaring type. -/
def withProducerSetter (suite : Suite) : Suite :=
  suite.withSetter (.conventional suite.declaringType)

/-- Adds a test, declared by the suite's own type. -/
def withTest (suite : Suite) (name : String) (body : Script) : Suite :=
  { suite with tests := suite.tests ++ [⟨name, suite.declaringType, body⟩] }

def withBefore (suite : Suite) (hook : Hook) : Suite :=
  { suite with before := suite.before ++ [hook] }

def withAfter (suite : Suite) (hook : Hook) : Suite :=
  { suite with after := suite.after ++ [hook] }

/-- The defects of the only setter of a suite. -/
def setterDefects (suite : Name) (setter : Setter) : List Defect :=
  (if setter.onAbstract then [.abstractSetter suite setter.method] else []) ++
    if setter.parameters = 1 then [] else [.malformedSetter suite setter.method setter.parameters]

/-- All rules that the suite breaks: first that it must not be abstract, then that it needs one
setter, then those for this setter. -/
def defects (suite : Suite) : List Defect :=
  (if suite.isAbstract then [.abstractType suite.declaringType] else []) ++
    match suite.setters with
    | [] => [.missingSetter suite.declaringType]
    | [setter] => setterDefects suite.declaringType setter
    | setters => [.ambiguousSetter suite.declaringType setters.length]

/-- Whether the suite can run. -/
def isWellFormed (suite : Suite) : Bool := suite.defects.isEmpty

/-- Whether a suite can run, with its defects if it cannot. -/
inductive Status where
  | ready
  | malformed (defects : List Defect)
deriving DecidableEq

def status (suite : Suite) : Status :=
  if suite.defects.isEmpty then .ready else .malformed suite.defects

/-- The setter that receives the producer, if the suite can run. -/
def injectionPoint? (suite : Suite) : Option Setter :=
  match suite.setters with
  | [setter] => if suite.isWellFormed then some setter else none
  | _ => none

end Suite

end Conformance
