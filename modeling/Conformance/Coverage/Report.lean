import Conformance.Entry
import Conformance.JsonForm.Suites

/-!
# Coverage reports

A report lists the capabilities in scope with the suites that test them and the
classes that have them, and what is missing: suites, implementations, tests. It also
carries every diagnostic: the defects of suites and the refusals of entry points.
-/

namespace Conformance

open Json (Value)

/-- A capability with the declaring types of its suites and the classes that satisfy it. -/
structure InterfaceCoverage where
  capability : Name
  tests : List Name
  implementations : List Name
deriving DecidableEq

/-- Something wrong that a report carries. -/
inductive Diagnostic where
  | defect (defect : Defect)
  /-- An entry point that is refused, with the wording of the refusal. -/
  | refusal (entry : Name) (message : String)
deriving DecidableEq

/-- The diagnostic of a refusal. -/
def Diagnostic.ofRefusal (refusal : Refusal) : Diagnostic := .refusal refusal.entry refusal.message

/-- The wording of a diagnostic. -/
def Diagnostic.message : Diagnostic → String
  | .defect found => found.message
  | .refusal _ message => message

/-- What is tested, what is not, and what is wrong. -/
structure Report where
  /-- The packages in scope; none means all. -/
  packages : List String
  interfaces : List InterfaceCoverage
  /-- The capabilities without a suite. -/
  untested : List Name
  /-- The capabilities with suites that no entry point reaches. -/
  unimplemented : List Name
  /-- The entry points that have nothing to run. -/
  untestedImplementations : List Name
  errors : List Diagnostic
deriving DecidableEq

namespace InterfaceCoverage

/-- The line of a capability with the declaring types of its suites. -/
def line (interface : InterfaceCoverage) : String :=
  "Interface: " ++ interface.capability.text ++ " [" ++
    String.intercalate ", " (interface.tests.map Name.text) ++ "]"

def toJson (interface : InterfaceCoverage) : Value :=
  .record [("capability", interface.capability.toJson),
    ("tests", .list (interface.tests.map Name.toJson)),
    ("implementations", .list (interface.implementations.map Name.toJson))]

end InterfaceCoverage

def Diagnostic.toJson : Diagnostic → Value
  | .defect found => .record [("declaration", found.toJson)]
  | .refusal entry message =>
    .record [("resolution", .record [("entry", entry.toJson), ("message", .ofString message)])]

namespace Report

/-- Whether nothing is missing and nothing wrong. -/
def isClean (report : Report) : Bool :=
  report.untested.isEmpty && report.unimplemented.isEmpty &&
    report.untestedImplementations.isEmpty && report.errors.isEmpty

def interfaceLines (report : Report) : List String := report.interfaces.map InterfaceCoverage.line

def untestedLines (report : Report) : List String := report.untested.map Name.text

def unimplementedLines (report : Report) : List String := report.unimplemented.map Name.text

def errorLines (report : Report) : List String := report.errors.map Diagnostic.message

def toJson (report : Report) : Value :=
  .record [("packages", .ofStrings report.packages),
    ("interfaces", .list (report.interfaces.map InterfaceCoverage.toJson)),
    ("untested", .list (report.untested.map Name.toJson)),
    ("unimplemented", .list (report.unimplemented.map Name.toJson)),
    ("untested_implementations", .list (report.untestedImplementations.map Name.toJson)),
    ("errors", .list (report.errors.map Diagnostic.toJson))]

/-- The report as a JSON text, with every item on a line of its own. -/
def document (report : Report) : String := report.toJson.pretty

end Report

end Conformance
