import Conformance.Graph.Basic
import Conformance.JsonForm.Basic

/-!
# The JSON form of names and types

A name is a string. A capability is the string `capability`, a class an object that
tells whether it is abstract, and a declared type a record.
-/

namespace Conformance

open Json (Value)

namespace Name

def toJson (name : Name) : Value := .ofString name.text

def ofJson? (value : Value) : Option Name := value.toText?.map Name.mk

instance : JsonForm Name := ⟨toJson, ofJson?⟩

end Name

namespace TypeKind

def toJson : TypeKind → Value
  | .capability => .ofString "capability"
  | .ofClass isAbstract => .record [("class", .record [("is_abstract", .truth isAbstract)])]

/-- A capability may also be an object with null. -/
def ofJson? : Value → Option TypeKind
  | .text content => if content = some "capability" then some .capability else none
  | .object [(some "capability", .null)] => some .capability
  | .object [(some "class", value)] => do
    let fields ← value.fields? ["is_abstract"] .strict
    return .ofClass (← fields.required "is_abstract" Value.toBool?)
  | _ => none

instance : JsonForm TypeKind := ⟨toJson, ofJson?⟩

end TypeKind

namespace TypeDecl

def toJson (decl : TypeDecl) : Value :=
  .record [("name", decl.name.toJson), ("kind", decl.kind.toJson),
    ("interfaces", .list (decl.interfaces.map Name.toJson)),
    ("superclass", decl.superclass.elim .null Name.toJson)]

def ofJson? (value : Value) : Option TypeDecl := do
  let fields ← value.fields? ["name", "kind", "interfaces", "superclass"] .strict
  return {
    name := ← fields.required "name" Name.ofJson?
    kind := ← fields.required "kind" TypeKind.ofJson?
    interfaces := ← fields.required "interfaces" (Value.toItems? Name.ofJson?)
    superclass := ← fields.nullable "superclass" Name.ofJson? }

instance : JsonForm TypeDecl := ⟨toJson, ofJson?⟩

end TypeDecl

end Conformance
