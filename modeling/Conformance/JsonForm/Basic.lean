import Conformance.Json.Reader
import Conformance.Json.Printer

/-!
# Types with a JSON form

A type has a JSON form when its values can be written as JSON values and read back.
Records are written as objects. They are read from objects, whose members may come in
any order and among others, and from lists that hold the fields by position.
-/

namespace Conformance

open Json (Value)

/-- A type whose values are written as JSON and read from it. -/
class JsonForm (α : Type) where
  toJson : α → Value
  ofJson? : Value → Option α

/-- The JSON text of a value, on one line. -/
def JsonForm.write {α : Type} [JsonForm α] (value : α) : String := (toJson value).compact

/-- Reads a value from a JSON text. -/
def JsonForm.read? {α : Type} [JsonForm α] (document : String) : Option α :=
  (Value.parse? document).bind ofJson?

/-- What is permitted besides the fields of a record. -/
structure RecordRules where
  /-- Whether a list may hold more items than there are fields. -/
  surplus : Bool
  /-- Whether the value of a member that is no field can be passed over. -/
  passes : Value → Bool

/-- A list holds fields only, and any member that is no field is passed over. -/
def RecordRules.strict : RecordRules := ⟨false, fun _ => true⟩

/-- The fields of a record, as a value gives them. -/
structure Fields where
  /-- Whether the fields are told apart by their position. -/
  positional : Bool
  /-- The value of a field; none where it is absent. -/
  value? : String → Option Value

namespace Fields

/-- The value of a field that has to be there. -/
def required {α : Type} (fields : Fields) (name : String) (read? : Value → Option α) : Option α :=
  (fields.value? name).bind read?

/-- The value of a field that may be absent. -/
def orElse {α : Type} (fields : Fields) (name : String) (absent : α) (read? : Value → Option α) :
    Option α :=
  match fields.value? name with
  | none => some absent
  | some value => read? value

/-- The value of a field that may be null. By name it may also be absent. -/
def nullable {α : Type} (fields : Fields) (name : String) (read? : Value → Option α) :
    Option (Option α) :=
  match fields.value? name with
  | none => if fields.positional then none else some none
  | some .null => some none
  | some value => (read? value).map some

end Fields

namespace Json.Value

/-- The members of an object whose keys all have a text. -/
def keyed? (members : List (Option String × Value)) : Option (List (String × Value)) :=
  members.mapM fun (key, value) => key.map (·, value)

/-- Whether each of the names occurs at most once as a key. -/
def hasOnce (names : List String) (members : List (String × Value)) : Bool :=
  names.all fun name => (members.countP fun (key, _) => key = name) ≤ 1

/-- The fields of a record with the given names. An object must not repeat one of the names, and its
other members have to pass the rules. A list must not hold more items than there are names, unless
the rules permit it; the items that are too many are not looked at. -/
def fields? (names : List String) (rules : RecordRules) : Value → Option Fields
  | .object members => do
    let members ← keyed? members
    let others := members.filter fun (key, _) => !names.contains key
    if hasOnce names members && others.all fun (_, value) => rules.passes value then
      some ⟨false, fun name => List.lookup name members⟩
    else none
  | .list items =>
    if rules.surplus || items.length ≤ names.length then
      some ⟨true, fun name => List.lookup name (names.zip items)⟩
    else none
  | _ => none

/-- The text of a string. -/
def toText? : Value → Option String
  | .text content => content
  | _ => none

def toBool? : Value → Option Bool
  | .truth value => some value
  | _ => none

/-- A natural number of at most 64 bits, spelled by digits alone. -/
def toCount? : Value → Option Nat
  | .number value => value.toNat?.filter (· < Nat.pow 2 64)
  | _ => none

/-- The items of a list, each read in the same way. -/
def toItems? {α : Type} (read? : Value → Option α) : Value → Option (List α)
  | .list items => items.mapM read?
  | _ => none

end Json.Value

end Conformance
