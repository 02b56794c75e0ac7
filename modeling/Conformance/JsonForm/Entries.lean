import Conformance.Entry
import Conformance.JsonForm.Types

/-!
# The JSON form of markers and parents

Both are records. The capabilities that a marker leaves out may be absent.
-/

namespace Conformance

open Json (Value)

namespace Marker

def toJson (marker : Marker) : Value :=
  .record [("target", marker.target.toJson), ("skip", .list (marker.skip.map Name.toJson))]

def ofJson? (value : Value) : Option Marker := do
  let fields ← value.fields? ["target", "skip"] .strict
  return ⟨← fields.required "target" Name.ofJson?,
    ← fields.orElse "skip" [] (Value.toItems? Name.ofJson?)⟩

instance : JsonForm Marker := ⟨toJson, ofJson?⟩

end Marker

namespace Parent

def toJson (parent : Parent) : Value :=
  .record [("entry", parent.entry.toJson), ("target", parent.target.toJson)]

def ofJson? (value : Value) : Option Parent := do
  let fields ← value.fields? ["entry", "target"] .strict
  return ⟨← fields.required "entry" Name.ofJson?, ← fields.required "target" Name.ofJson?⟩

instance : JsonForm Parent := ⟨toJson, ofJson?⟩

end Parent

end Conformance
