import Conformance.Coverage.Report
import Conformance.Proofs.JsonForms

/-!
# What the text of a report tells

A report is written only, and nothing in the engine reads one. Here is a reader all the
same, so that what the text tells is said by a function: it accepts the members in the
order in which they are written and nothing else, and it takes counts of any size, unlike
the reader of stored defects. Reading what is written gives back the report with every
list, string and count.

Main statement: `Report.document_faithful`.
-/

namespace Conformance

open Json (Value)

/-- The natural number of a value, however large. -/
def Json.Value.toNat? : Value → Option Nat
  | .number value => value.toNat?
  | _ => none

/-- The names of a list. -/
def Json.Value.toNames? : Value → Option (List Name) := toItems? Name.ofJson?

/-- The names of a list are read back. -/
theorem Json.Value.toNames?_map (names : List Name) :
    toNames? (.list (names.map Name.toJson)) = some names :=
  toItems?_map Name.toJson Name.ofJson? (fun _ => rfl) names

/-- So are the texts of a list. -/
theorem Json.Value.toTexts?_ofStrings (contents : List String) :
    toItems? toText? (.ofStrings contents) = some contents :=
  toItems?_map ofString toText? (fun _ => rfl) contents

namespace Defect

/-- Reads a defect as it is written, the tag first. -/
def ofWritten? : Value → Option Defect
  | .object [(some "kind", .text (some "abstract_declaring_type")),
      (some "declaring_type", suite)] => do
    return .abstractType (← Name.ofJson? suite)
  | .object [(some "kind", .text (some "missing_injection_point")),
      (some "declaring_type", suite)] => do
    return .missingSetter (← Name.ofJson? suite)
  | .object [(some "kind", .text (some "ambiguous_injection_point")),
      (some "declaring_type", suite), (some "count", count)] => do
    return .ambiguousSetter (← Name.ofJson? suite) (← count.toNat?)
  | .object [(some "kind", .text (some "abstract_injection_point")),
      (some "declaring_type", suite), (some "method", method)] => do
    return .abstractSetter (← Name.ofJson? suite) (← method.toText?)
  | .object [(some "kind", .text (some "malformed_injection_point")),
      (some "declaring_type", suite), (some "method", method),
      (some "parameters", parameters)] => do
    return .malformedSetter (← Name.ofJson? suite) (← method.toText?) (← parameters.toNat?)
  | _ => none

/-- A defect is read back from what it is written as. -/
theorem ofWritten?_toJson (defect : Defect) : ofWritten? defect.toJson = some defect := by
  cases defect <;> rfl

end Defect

namespace Diagnostic

/-- Reads a diagnostic, whose only member tells which of the two it is. -/
def ofWritten? : Value → Option Diagnostic
  | .object [(some "declaration", found)] => do
    return .defect (← Defect.ofWritten? found)
  | .object [(some "resolution",
      .object [(some "entry", entry), (some "message", message)])] => do
    return .refusal (← Name.ofJson? entry) (← message.toText?)
  | _ => none

/-- So is a diagnostic. -/
theorem ofWritten?_toJson (diagnostic : Diagnostic) :
    ofWritten? diagnostic.toJson = some diagnostic := by
  cases diagnostic with
  | defect found =>
    calc ofWritten? (toJson (.defect found))
      _ = (Defect.ofWritten? found.toJson).bind fun found => some (.defect found) := rfl
      _ = some (.defect found) := by
        rw [found.ofWritten?_toJson]
        rfl
  | refusal entry message => rfl

end Diagnostic

namespace InterfaceCoverage

/-- Reads the coverage of one capability. -/
def ofWritten? : Value → Option InterfaceCoverage
  | .object [(some "capability", capability), (some "tests", tests),
      (some "implementations", implementations)] => do
    return ⟨← Name.ofJson? capability, ← tests.toNames?, ← implementations.toNames?⟩
  | _ => none

/-- So is the coverage of a capability. -/
theorem ofWritten?_toJson (interface : InterfaceCoverage) :
    ofWritten? interface.toJson = some interface := by
  obtain ⟨capability, tests, implementations⟩ := interface
  calc ofWritten? (toJson ⟨capability, tests, implementations⟩)
    _ = (Value.toNames? (.list (tests.map Name.toJson))).bind fun tests =>
        (Value.toNames? (.list (implementations.map Name.toJson))).bind fun implementations =>
        some ⟨capability, tests, implementations⟩ := rfl
    _ = some ⟨capability, tests, implementations⟩ := by
      rw [Value.toNames?_map, Value.toNames?_map]
      rfl

end InterfaceCoverage

namespace Report

/-- Reads a report from its value. -/
def ofWritten? : Value → Option Report
  | .object [(some "packages", packages), (some "interfaces", interfaces),
      (some "untested", untested), (some "unimplemented", unimplemented),
      (some "untested_implementations", untestedImplementations), (some "errors", errors)] => do
    return {
      packages := ← packages.toItems? Value.toText?
      interfaces := ← interfaces.toItems? InterfaceCoverage.ofWritten?
      untested := ← untested.toNames?
      unimplemented := ← unimplemented.toNames?
      untestedImplementations := ← untestedImplementations.toNames?
      errors := ← errors.toItems? Diagnostic.ofWritten? }
  | _ => none

/-- A report is read back from what it is written as. -/
theorem ofWritten?_toJson (report : Report) : ofWritten? report.toJson = some report := by
  have interfaces := Value.toItems?_map InterfaceCoverage.toJson InterfaceCoverage.ofWritten?
    InterfaceCoverage.ofWritten?_toJson report.interfaces
  have errors := Value.toItems?_map Diagnostic.toJson Diagnostic.ofWritten?
    Diagnostic.ofWritten?_toJson report.errors
  simp only [toJson, Value.record, List.map_cons, List.map_nil, ofWritten?,
    Value.toTexts?_ofStrings, interfaces, Value.toNames?_map, errors]
  rfl

/-- Reads a report from a text. -/
def read? (document : String) : Option Report := (Value.parse? document).bind ofWritten?

/-- What the text of a report tells. -/
structure Faithful (report : Report) : Prop where
  /-- The text is one object, with these members in this order. -/
  object : Value.parse? report.document = some (.record [
    ("packages", .ofStrings report.packages),
    ("interfaces", .list (report.interfaces.map InterfaceCoverage.toJson)),
    ("untested", .list (report.untested.map Name.toJson)),
    ("unimplemented", .list (report.unimplemented.map Name.toJson)),
    ("untested_implementations", .list (report.untestedImplementations.map Name.toJson)),
    ("errors", .list (report.errors.map Diagnostic.toJson))])
  /-- The report is read back from it. -/
  readBack : read? report.document = some report
  /-- No other report has the text. -/
  alone : ∀ other : Report, other.document = report.document → other = report

/-- The document of a report is the text of what the report is written as. -/
theorem parse?_document (report : Report) : Value.parse? report.document = some report.toJson :=
  Value.parse?_print .indented report.toJson

/-- A report is read back from its document. -/
theorem read?_document (report : Report) : read? report.document = some report := by
  rw [read?, parse?_document, Option.bind_some, ofWritten?_toJson]

/-- The text of a report tells the report, whatever characters its names and messages hold. -/
theorem document_faithful (report : Report) : report.Faithful := by
  constructor
  case object => exact report.parse?_document
  case readBack => exact report.read?_document
  case alone =>
    intro other same
    refine Option.some.inj ?_
    calc some other
      _ = read? other.document := other.read?_document.symm
      _ = read? report.document := congrArg read? same
      _ = some report := report.read?_document

/-- Lists are indented by two blanks, empty ones stay on their line, and names may hold anything. -/
example : (Report.mk [] [] [⟨"a\"b\\c\nd"⟩] [] [] []).document =
    "\x7b\n  \"packages\": [],\n  \"interfaces\": [],\n" ++
      "  \"untested\": [\n    \"a\\\"b\\\\c\\nd\"\n  ],\n" ++
      "  \"unimplemented\": [],\n  \"untested_implementations\": [],\n  \"errors\": []\n\x7d" := by
  decide +kernel

end Report

end Conformance
