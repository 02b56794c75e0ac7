import Conformance.Battery
import Conformance.Text.Quoted

/-!
# Inspection

The short forms in which values are shown to someone who looks for a mistake: the
name of the kind of value, with its fields or its parts. Bodies, hosts and producers
cannot be shown; a form that leaves something out ends in two dots.
-/

namespace Conformance.Inspect

/-- A value with named fields. -/
def record (kind : String) (fields : List (String × String)) : String :=
  kind ++ " \x7b " ++
    String.intercalate ", " (fields.map fun (name, value) => name ++ ": " ++ value) ++ " \x7d"

/-- A value with named fields, of which some are not shown. -/
def partialRecord (kind : String) (fields : List (String × String)) : String :=
  kind ++ " \x7b " ++ String.join (fields.map fun (name, value) => name ++ ": " ++ value ++ ", ") ++
    ".. \x7d"

/-- A value with one part. -/
def wrapped (kind part : String) : String := kind ++ "(" ++ part ++ ")"

def list (items : List String) : String := "[" ++ String.intercalate ", " items ++ "]"

def set (items : List String) : String := "\x7b" ++ String.intercalate ", " items ++ "\x7d"

def option : Option String → String
  | none => "None"
  | some value => wrapped "Some" value

def truth (value : Bool) : String := if value then "true" else "false"

def name (name : Name) : String := wrapped "TypeName" (Text.quoted name.text)

def names (items : List Name) : String := list (items.map name)

def key (key : SuiteKey) : String :=
  record "DeclarationKey" [("declaring_type", name key.declaringType), ("target", name key.target)]

def testCase (test : TestCase) : String :=
  partialRecord "TestCase" [("name", Text.quoted test.name), ("declared_in", name test.declaredIn)]

def testCases (tests : List TestCase) : String := list (tests.map testCase)

def hook (hook : Hook) : String := partialRecord "Hook" [("name", Text.quoted hook.name)]

def hooks (hooks : List Hook) : String := list (hooks.map hook)

def handle (handle : Handle) : String :=
  partialRecord "ProducerHandle" [("capability", name handle.capability),
    ("produced", toString handle.produced), ("cleaned", toString handle.cleaned)]

def producerTable (table : ProducerTable) : String :=
  record "ProducerMap" [("capabilities", names table.keys)]

def marker (marker : Marker) : String :=
  record "ContractImpl" [("target", name marker.target), ("skip", names marker.skip)]

def parent (parent : Parent) : String :=
  record "ParentLink" [("entry", name parent.entry), ("target", name parent.target)]

def entry (entry : Entry) : String :=
  partialRecord "EntryPoint" [("name", name entry.name),
    ("contract_impl", option (entry.marker.map marker)), ("tests", testCases entry.tests),
    ("dynamic", truth entry.isDynamic)]

def subject (subject : Subject) : String :=
  partialRecord "ImplementationDeclaration" [("entry", name subject.entry),
    ("target", name subject.target), ("skip", set (subject.skip.toList.map name)),
    ("tests", testCases subject.tests), ("parent", option (subject.parent.map parent))]

def refusal : Refusal → String
  | .missingMarker entry => record "MissingContractImpl" [("entry", name entry)]
  | .unknownTarget entry source =>
    record "UnknownImplementation" [("entry", name entry),
      ("source", wrapped "UnknownType" (name source.name))]
  | .instantiation entry reason =>
    record "Instantiation" [("entry", name entry), ("reason", Text.quoted reason)]
  | .noTests entry => record "NoTests" [("entry", name entry)]
  | .noMembers entry => record "EmptyDynamicSuite" [("entry", name entry)]
  | .notDynamic entry => record "NotDynamic" [("entry", name entry)]

def unit (unit : RunUnit) : String :=
  let kind := match unit with
    | .contract _ _ _ => "Contract"
    | .direct _ _ _ _ => "Direct"
    | .error _ => "Error"
    | .external _ => "External"
  wrapped kind (Text.quoted unit.name)

def battery (battery : Battery) : String :=
  record "ContractSuite" [("entry", name battery.entry), ("units", list (battery.units.map unit))]

def member : Member Entry → String
  | .contract entry => wrapped "Contract" (name entry.name)
  | .plain unit => wrapped "Plain" (Text.quoted unit.name)

def members (items : List (Member Entry)) : String := list (items.map member)

def resolution : MemberResolution → String
  | .resolved subject plan =>
    record "Resolved" [("implementation", name subject.entry), ("plan", list (plan.keys.map key))]
  | .failed reason => wrapped "Failed" (refusal reason)
  | .passedThrough unit => wrapped "PassThrough" (Text.quoted unit.name)

end Conformance.Inspect
