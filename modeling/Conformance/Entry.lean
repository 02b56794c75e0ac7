import Conformance.Graph.Closure
import Conformance.Recorded
import Conformance.Run.Event
import Conformance.Suite.Basic

/-!
# Entry points and subjects

An entry point is where testing an implementation starts: its marker names the type
under test, its host supplies producers, and it may have tests of its own. A dynamic
entry point supplies members, which are entry points themselves or plain units. A
subject is an implementation that is ready to be resolved.
-/

namespace Conformance

/-- Why an implementation cannot be resolved or assembled. -/
inductive Refusal where
  | missingMarker (entry : Name)
  | unknownTarget (entry : Name) (source : Graph.UnknownType)
  | instantiation (entry : Name) (reason : String)
  | noTests (entry : Name)
  | noMembers (entry : Name)
  | notDynamic (entry : Name)
deriving DecidableEq

namespace Refusal

/-- The entry point that is refused. -/
def entry : Refusal → Name
  | .missingMarker entry => entry
  | .unknownTarget entry _ => entry
  | .instantiation entry _ => entry
  | .noTests entry => entry
  | .noMembers entry => entry
  | .notDynamic entry => entry

/-- The wording of a refusal. -/
def message : Refusal → String
  | .missingMarker entry =>
    "entry point " ++ entry.text ++ " must declare the implementation it tests"
  | .unknownTarget entry source =>
    "implementation " ++ entry.text ++ " targets an unknown type: " ++ source.message
  | .instantiation entry reason =>
    "entry point " ++ entry.text ++ " could not be instantiated: " ++ reason
  | .noTests entry => "no tests found for implementation " ++ entry.text
  | .noMembers entry => "dynamic suite " ++ entry.text ++ " returned no classes"
  | .notDynamic entry => "entry point " ++ entry.text ++ " is not a dynamic suite"

end Refusal

/-- What an entry point tests, and which capabilities it leaves out. -/
structure Marker where
  target : Name
  skip : List Name
deriving DecidableEq

/-- What builds the source of producers of an entry point. -/
structure Host where
  /-- The entry point that the host reports itself for. -/
  owner : Name
  /-- Whether the host reports its calls. -/
  shown : Bool
  /-- The source, or the reason why there is none. -/
  source : Except String Source

/-- A unit that is run as it is. -/
structure PlainUnit where
  name : String
  testNames : List String
  /-- All that the unit lets be heard when it runs. -/
  events : List RunEvent

/-- The plain unit with one test for each name and outcome. -/
def PlainUnit.ofOutcomes (name : String) (tests : List (String × Outcome)) : PlainUnit where
  name
  testNames := tests.map (·.1)
  events := [.unitStarted name] ++
    tests.flatMap (fun (test, outcome) =>
      [.testStarted name test, .testFinished name test outcome]) ++
    [.unitFinished name]

/-- A member of a dynamic entry point. -/
inductive Member (ε : Type) where
  /-- To be resolved like an entry point. -/
  | contract (entry : ε)
  /-- To be run as it is. -/
  | plain (unit : PlainUnit)

/-- Where testing an implementation starts. -/
structure Entry where
  name : Name
  marker : Option Marker
  host : Host
  /-- All tests the entry point has, its own and inherited ones. -/
  tests : List TestCase
  /-- The members of a dynamic entry point; none for a static one. -/
  members : Option (List (Member Entry))

namespace Entry

/-- A static entry point without marker and tests. -/
def new (name : Name) (host : Host) : Entry := ⟨name, none, host, [], none⟩

/-- Sets the marker. -/
def withMarker (entry : Entry) (marker : Marker) : Entry := { entry with marker := some marker }

/-- Adds a test declared on the entry point itself. -/
def withTest (entry : Entry) (name : String) (body : Script) : Entry :=
  { entry with tests := entry.tests ++ [⟨name, entry.name, body⟩] }

/-- Adds a test declared elsewhere. -/
def withInheritedTest (entry : Entry) (test : TestCase) : Entry :=
  { entry with tests := entry.tests ++ [test] }

/-- Makes the entry point dynamic. -/
def withMembers (entry : Entry) (members : List (Member Entry)) : Entry :=
  { entry with members := some members }

def isDynamic (entry : Entry) : Bool := entry.members.isSome

/-- An entry point without members is static. -/
theorem isDynamic_of_none {entry : Entry} (static : entry.members = none) :
    entry.isDynamic = false := by
  rw [isDynamic, static]
  rfl

/-- An entry point with members, be it none of them, is dynamic. -/
theorem isDynamic_of_some {entry : Entry} {members : List (Member Entry)}
    (dynamic : entry.members = some members) : entry.isDynamic = true := by
  rw [isDynamic, dynamic]
  rfl

end Entry

/-- The dynamic entry point that a member belongs to, and what it tests. -/
structure Parent where
  entry : Name
  target : Name
deriving DecidableEq

/-- An implementation under test. -/
structure Subject where
  entry : Name
  target : Name
  skip : NameSet
  host : Host
  tests : List TestCase
  parent : Option Parent

namespace Subject

/-- The subject of an entry point on its own. -/
def ofEntry (entry : Entry) : Except Refusal Subject :=
  match entry.marker with
  | none => .error (.missingMarker entry.name)
  | some marker => .ok {
      entry := entry.name
      target := marker.target
      skip := SortedSet.ofList marker.skip
      host := entry.host
      tests := entry.tests
      parent := none }

/-- The subject of a member. Host and exclusions come from the parent; the member adds exclusions of
its own and may name another target. -/
def ofMember (member : Entry) (parent : Subject) : Subject where
  entry := member.name
  target := member.marker.elim parent.target Marker.target
  skip := parent.skip ∪ SortedSet.ofList (member.marker.elim [] Marker.skip)
  host := parent.host
  tests := member.tests
  parent := some ⟨parent.entry, parent.target⟩

/-- Whether the suites of a capability are left out. -/
def skips (subject : Subject) (capability : Name) : Bool := decide (capability ∈ subject.skip)

/-- Calls the host for the source of producers. -/
def instantiate (subject : Subject) : Recorded (Except Refusal Source) := do
  Recorded.observed (.host subject.host.owner subject.host.shown)
  return subject.host.source.mapError (.instantiation subject.entry)

end Subject

end Conformance
