import Conformance.Json.Magnitude
import Conformance.JsonForm.Types
import Conformance.Suite.Basic

/-!
# The JSON form of suites

Identities and setters are records. A defect is a record with a tag, `kind`, which may
stand anywhere among the fields; a list has it first. Fields are set aside until the
tag is known, so all of them have to be values that can be held: strings with a text,
numbers within range, and containers nested less than 128 deep.
-/

namespace Conformance

open Json (Value)

namespace SuiteKey

def toJson (key : SuiteKey) : Value :=
  .record [("declaring_type", key.declaringType.toJson), ("target", key.target.toJson)]

def ofJson? (value : Value) : Option SuiteKey := do
  let fields ← value.fields? ["declaring_type", "target"] .strict
  return ⟨← fields.required "declaring_type" Name.ofJson?, ← fields.required "target" Name.ofJson?⟩

instance : JsonForm SuiteKey := ⟨toJson, ofJson?⟩

end SuiteKey

namespace Setter

def toJson (setter : Setter) : Value :=
  .record [("method", .ofString setter.method), ("declared_on", setter.declaredOn.toJson),
    ("declared_on_abstract", .truth setter.onAbstract),
    ("parameter_count", .ofNat setter.parameters)]

def ofJson? (value : Value) : Option Setter := do
  let fields ←
    value.fields? ["method", "declared_on", "declared_on_abstract", "parameter_count"] .strict
  return {
    method := ← fields.required "method" Value.toText?
    declaredOn := ← fields.required "declared_on" Name.ofJson?
    onAbstract := ← fields.required "declared_on_abstract" Value.toBool?
    parameters := ← fields.required "parameter_count" Value.toCount? }

instance : JsonForm Setter := ⟨toJson, ofJson?⟩

end Setter

namespace Defect

def toJson : Defect → Value
  | .abstractType suite =>
    .record [("kind", .ofString "abstract_declaring_type"), ("declaring_type", suite.toJson)]
  | .missingSetter suite =>
    .record [("kind", .ofString "missing_injection_point"), ("declaring_type", suite.toJson)]
  | .ambiguousSetter suite count =>
    .record [("kind", .ofString "ambiguous_injection_point"), ("declaring_type", suite.toJson),
      ("count", .ofNat count)]
  | .abstractSetter suite method =>
    .record [("kind", .ofString "abstract_injection_point"), ("declaring_type", suite.toJson),
      ("method", .ofString method)]
  | .malformedSetter suite method parameters =>
    .record [("kind", .ofString "malformed_injection_point"), ("declaring_type", suite.toJson),
      ("method", .ofString method), ("parameters", .ofNat parameters)]

/-- Reads a defect whose tag is known. -/
def ofTagged? (tag : String) (value : Value) : Option Defect :=
  match tag with
  | "abstract_declaring_type" => do
    let fields ← value.fields? ["declaring_type"] .strict
    return .abstractType (← fields.required "declaring_type" Name.ofJson?)
  | "missing_injection_point" => do
    let fields ← value.fields? ["declaring_type"] .strict
    return .missingSetter (← fields.required "declaring_type" Name.ofJson?)
  | "ambiguous_injection_point" => do
    let fields ← value.fields? ["declaring_type", "count"] .strict
    return .ambiguousSetter (← fields.required "declaring_type" Name.ofJson?)
      (← fields.required "count" Value.toCount?)
  | "abstract_injection_point" => do
    let fields ← value.fields? ["declaring_type", "method"] .strict
    return .abstractSetter (← fields.required "declaring_type" Name.ofJson?)
      (← fields.required "method" Value.toText?)
  | "malformed_injection_point" => do
    let fields ← value.fields? ["declaring_type", "method", "parameters"] .strict
    return .malformedSetter (← fields.required "declaring_type" Name.ofJson?)
      (← fields.required "method" Value.toText?) (← fields.required "parameters" Value.toCount?)
  | _ => none

/-- Whether a field can be set aside until the tag is known. -/
def canWait (value : Value) : Bool :=
  value.depth + 1 < 128 && value.isProper fun number => !number.isOutOfRange

def ofJson? : Value → Option Defect
  | .object members => do
    let members ← Value.keyed? members
    let tags := members.filter fun (key, _) => key = "kind"
    let others := members.filter fun (key, _) => key ≠ "kind"
    match tags with
    | [(_, tag)] =>
      if others.all fun (_, value) => canWait value then ofTagged? (← tag.toText?) (.record others)
      else none
    | _ => none
  | .list (tag :: others) => do
    if others.all canWait then ofTagged? (← tag.toText?) (.list others) else none
  | _ => none

instance : JsonForm Defect := ⟨toJson, ofJson?⟩

end Defect

end Conformance
