import Conformance.JsonForm.Settings
import Conformance.Toml.Reader

/-!
# Settings in TOML

A TOML document holds settings if its table does. Tables are read as records and lists
by position, as in JSON; items of a list beyond the last field are left alone. A date is
a record none of whose fields is a setting. Everything else that is passed over is looked
at all the same, so that its numbers have to be readable.
-/

namespace Conformance

/-- The value as JSON has it. Numbers that JSON cannot spell become null, and unreadable ones a
string without a text, which cannot be read either. -/
def Toml.Value.toJson : Toml.Value → Json.Value
  | .text content => .ofString content
  | .truth value => .truth value
  | .number value => .number value
  | .notFinite => .null
  | .unreadable => .text none
  | .moment => .object []
  | .list items => .list (itemsToJson items)
  | .table entries => .object (entriesToJson entries)
where
  itemsToJson : List Toml.Value → List Json.Value
    | [] => []
    | item :: rest => item.toJson :: itemsToJson rest
  entriesToJson : List (String × Toml.Value) → List (Option String × Json.Value)
    | [] => []
    | (key, value) :: rest => (some key, value.toJson) :: entriesToJson rest

/-- How records are read from TOML. -/
def RecordRules.toml : RecordRules := ⟨true, Json.Value.isProper fun _ => true⟩

/-- Reads settings from a TOML document. -/
def Settings.ofToml? (document : String) : Option Settings :=
  (Toml.Value.parse? document).bind fun table => Settings.ofValue? .toml table.toJson

end Conformance
