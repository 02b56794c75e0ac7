/-!
# JSON values

A value as a document spells it: numbers keep their sign, digits and exponent, members
of objects keep their order and their repetitions. A string whose escapes name half
of a surrogate pair has no text; such strings may stand in a document all the same.
-/

namespace Conformance.Json

/-- A number as it is spelled. -/
structure Number where
  negative : Bool
  /-- The digits before the point. -/
  whole : Nat
  /-- The digits after the point; none without a point. -/
  fraction : List (Fin 10)
  exponent : Option Int
deriving DecidableEq

/-- A natural number. -/
def Number.ofNat (n : Nat) : Number := ⟨false, n, [], none⟩

/-- An integer. -/
def Number.ofInt (n : Int) : Number := ⟨n < 0, n.natAbs, [], none⟩

/-- The natural number that is spelled by digits alone. -/
def Number.toNat? (number : Number) : Option Nat :=
  if number.negative = false ∧ number.fraction = [] ∧ number.exponent = none then some number.whole
  else none

/-- The integer that is spelled by digits alone, after its sign. -/
def Number.toInt? (number : Number) : Option Int :=
  if number.fraction = [] ∧ number.exponent = none then
    some (if number.negative then -(number.whole : Int) else number.whole)
  else none

/-- A JSON value. -/
inductive Value where
  | null
  | truth (value : Bool)
  | number (value : Number)
  /-- A string; one without a text has an escape for half of a surrogate pair. -/
  | text (content : Option String)
  | list (items : List Value)
  | object (members : List (Option String × Value))

namespace Value

/-- The string of a text. -/
def ofString (content : String) : Value := .text (some content)

/-- The number of a natural number. -/
def ofNat (n : Nat) : Value := .number (.ofNat n)

/-- The list of strings. -/
def ofStrings (contents : List String) : Value := .list (contents.map ofString)

/-- The object with the given members. -/
def record (members : List (String × Value)) : Value :=
  .object (members.map fun (key, value) => (some key, value))

/-- How many containers lie around the innermost part of a value, itself counted. -/
def depth : Value → Nat
  | .list items => depthItems items + 1
  | .object members => depthMembers members + 1
  | _ => 0
where
  depthItems : List Value → Nat
    | [] => 0
    | item :: rest => max item.depth (depthItems rest)
  depthMembers : List (Option String × Value) → Nat
    | [] => 0
    | (_, value) :: rest => max value.depth (depthMembers rest)

/-- Whether all strings of a value, keys included, have a text and all its numbers pass a test. -/
def isProper (accept : Number → Bool) : Value → Bool
  | .number value => accept value
  | .text content => content.isSome
  | .list items => properItems items
  | .object members => properMembers members
  | _ => true
where
  properItems : List Value → Bool
    | [] => true
    | item :: rest => item.isProper accept && properItems rest
  properMembers : List (Option String × Value) → Bool
    | [] => true
    | (key, value) :: rest => key.isSome && value.isProper accept && properMembers rest

end Value

end Conformance.Json
