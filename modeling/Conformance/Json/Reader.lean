import Conformance.Json.Token

/-!
# Reading JSON

The tokens of a document are read one by one. What has been opened and not yet closed
lies on a stack, innermost first, so no document is nested too deeply to be read, and
every token is looked at once.
-/

namespace Conformance.Json

/-- Members of an object. -/
abbrev Members := List (Option String × Value)

/-- A container that is still open, with what it holds so far, last first. -/
inductive Open where
  | list (items : List Value)
  /-- An object that waits for the value of a key. -/
  | object (members : Members) (key : Option String)

/-- What may come next. -/
inductive Expecting where
  /-- A value. -/
  | value
  /-- A value, or the end of a list without items. -/
  | firstItem
  /-- A key, or the end of an object without members. -/
  | firstKey
  /-- A key of an object with members. -/
  | key (members : Members)
  /-- The colon after a key. -/
  | colon (members : Members) (key : Option String)
  /-- What follows the value that was just completed. -/
  | afterValue (value : Value)

/-- Where the reader stands. -/
structure Reader where
  stack : List Open
  expecting : Expecting

namespace Reader

/-- Before the first token. -/
def start : Reader := ⟨[], .value⟩

/-- Takes the first token of a value. -/
def beginValue (stack : List Open) : Token → Option Reader
  | .openList => some ⟨stack, .firstItem⟩
  | .openObject => some ⟨stack, .firstKey⟩
  | .null => some ⟨stack, .afterValue .null⟩
  | .truth value => some ⟨stack, .afterValue (.truth value)⟩
  | .number value => some ⟨stack, .afterValue (.number value)⟩
  | .text content => some ⟨stack, .afterValue (.text content)⟩
  | _ => none

/-- Takes the token after a value inside the innermost open container. -/
def continueAfter (value : Value) : List Open → Token → Option Reader
  | .list items :: stack, .comma => some ⟨.list (value :: items) :: stack, .value⟩
  | .list items :: stack, .closeList => some ⟨stack, .afterValue (.list (value :: items).reverse)⟩
  | .object members key :: stack, .comma => some ⟨stack, .key ((key, value) :: members)⟩
  | .object members key :: stack, .closeObject =>
    some ⟨stack, .afterValue (.object ((key, value) :: members).reverse)⟩
  | _, _ => none

/-- Takes one token. -/
def step (reader : Reader) (token : Token) : Option Reader :=
  match reader.expecting, token with
  | .value, token => beginValue reader.stack token
  | .firstItem, .closeList => some ⟨reader.stack, .afterValue (.list [])⟩
  | .firstItem, token => beginValue (.list [] :: reader.stack) token
  | .firstKey, .closeObject => some ⟨reader.stack, .afterValue (.object [])⟩
  | .firstKey, .text key => some ⟨reader.stack, .colon [] key⟩
  | .key members, .text key => some ⟨reader.stack, .colon members key⟩
  | .colon members key, .colon => some ⟨.object members key :: reader.stack, .value⟩
  | .afterValue value, token => continueAfter value reader.stack token
  | _, _ => none

/-- The value that was read, once nothing is open any more. -/
def result? (reader : Reader) : Option Value :=
  match reader.stack, reader.expecting with
  | [], .afterValue value => some value
  | _, _ => none

end Reader

/-- The value that tokens spell. -/
def Value.ofTokens? (tokens : List Token) : Option Value :=
  (tokens.foldlM Reader.step Reader.start).bind Reader.result?

/-- Reads a document. -/
def Value.parse? (document : String) : Option Value :=
  (Token.scanAll [] document.toList).bind Value.ofTokens?

end Conformance.Json
