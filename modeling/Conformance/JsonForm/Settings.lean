import Conformance.JsonForm.Basic
import Conformance.Settings.Basic

/-!
# The JSON form of settings

All parts are records whose fields may be absent. Settings that were not written as
JSON are read in the same way, once they are turned into a value; the rules then say
what is permitted besides the fields.
-/

namespace Conformance

open Json (Value)

namespace SectionSettings

def toJson (settings : SectionSettings) : Value :=
  .record [("report", .truth settings.report), ("fail_on_error", .truth settings.failOnError)]

def ofValue? (rules : RecordRules) (value : Value) : Option SectionSettings := do
  let fields ← value.fields? ["report", "fail_on_error"] rules
  return ⟨← fields.orElse "report" true Value.toBool?,
    ← fields.orElse "fail_on_error" false Value.toBool?⟩

instance : JsonForm SectionSettings := ⟨toJson, ofValue? .strict⟩

end SectionSettings

namespace ReportSettings

def toJson (settings : ReportSettings) : Value :=
  .record [("untested", settings.untested.toJson), ("unimplemented", settings.unimplemented.toJson),
    ("errors", settings.errors.toJson)]

def ofValue? (rules : RecordRules) (value : Value) : Option ReportSettings := do
  let fields ← value.fields? ["untested", "unimplemented", "errors"] rules
  return {
    untested := ← fields.orElse "untested" {} (SectionSettings.ofValue? rules)
    unimplemented := ← fields.orElse "unimplemented" {} (SectionSettings.ofValue? rules)
    errors := ← fields.orElse "errors" {} (SectionSettings.ofValue? rules) }

instance : JsonForm ReportSettings := ⟨toJson, ofValue? .strict⟩

end ReportSettings

namespace DiscoverySettings

def toJson (settings : DiscoverySettings) : Value :=
  .record [("skip_classes", .ofStrings settings.skipClasses),
    ("packages", .ofStrings settings.packages)]

def ofValue? (rules : RecordRules) (value : Value) : Option DiscoverySettings := do
  let fields ← value.fields? ["skip_classes", "packages"] rules
  return ⟨← fields.orElse "skip_classes" [] (Value.toItems? Value.toText?),
    ← fields.orElse "packages" [] (Value.toItems? Value.toText?)⟩

instance : JsonForm DiscoverySettings := ⟨toJson, ofValue? .strict⟩

end DiscoverySettings

namespace Settings

def toJson (settings : Settings) : Value :=
  .record [("discovery", settings.discovery.toJson), ("reports", settings.reports.toJson)]

def ofValue? (rules : RecordRules) (value : Value) : Option Settings := do
  let fields ← value.fields? ["discovery", "reports"] rules
  return ⟨← fields.orElse "discovery" {} (DiscoverySettings.ofValue? rules),
    ← fields.orElse "reports" {} (ReportSettings.ofValue? rules)⟩

instance : JsonForm Settings := ⟨toJson, ofValue? .strict⟩

end Settings

end Conformance
