import Conformance.Json.Value

/-!
# Printing JSON

Values are printed in one of two layouts: on one line without blanks, or with every
item on a line of its own, indented by two blanks for each level. Strings escape the
quote, the backslash and the control characters of ASCII, and nothing else.
-/

namespace Conformance.Json

/-- A hexadecimal digit, in lower case. -/
def hexDigit (n : Nat) : Char :=
  if n < 10 then Char.ofNat ('0'.toNat + n) else Char.ofNat ('a'.toNat + (n - 10))

/-- A character inside a string. -/
def escape (c : Char) : List Char :=
  match c with
  | '"' => ['\\', '"']
  | '\\' => ['\\', '\\']
  | '\x08' => ['\\', 'b']
  | '\x0c' => ['\\', 'f']
  | '\n' => ['\\', 'n']
  | '\r' => ['\\', 'r']
  | '\t' => ['\\', 't']
  | c =>
    if c.toNat < 0x20 then ['\\', 'u', '0', '0', hexDigit (c.toNat / 16), hexDigit (c.toNat % 16)]
    else [c]

/-- A string with its quotes. A string without a text is half of a surrogate pair. -/
def quote : Option String → List Char
  | some content => '"' :: content.toList.flatMap escape ++ ['"']
  | none => ['"', '\\', 'u', 'd', '8', '0', '0', '"']

/-- The digits of a natural number. -/
def decimal (n : Nat) : List Char := Nat.toDigits 10 n

/-- The spelling of a number. -/
def Number.spelling (number : Number) : List Char :=
  (if number.negative then ['-'] else []) ++ decimal number.whole ++
    (match number.fraction with
      | [] => []
      | digits => '.' :: digits.map fun digit => Char.ofNat ('0'.toNat + digit.val)) ++
    match number.exponent with
    | none => []
    | some (.ofNat n) => 'e' :: decimal n
    | some (.negSucc n) => 'e' :: '-' :: decimal (n + 1)

/-- Where the parts of a value go. -/
inductive Layout where
  /-- All on one line. -/
  | compact
  /-- Every item on a line of its own. -/
  | indented
deriving DecidableEq

namespace Layout

/-- What stands before an item of a container that lies in so many others. -/
def lineBreak (layout : Layout) (level : Nat) : List Char :=
  match layout with
  | .compact => []
  | .indented => '\n' :: List.replicate (2 * level) ' '

/-- What stands between a key and its value. -/
def colon : Layout → List Char
  | .compact => [':']
  | .indented => [':', ' ']

end Layout

namespace Value

/-- The characters of a value that lies in so many containers. -/
def print (layout : Layout) (level : Nat) : Value → List Char
  | .null => "null".toList
  | .truth true => "true".toList
  | .truth false => "false".toList
  | .number value => value.spelling
  | .text content => quote content
  | .list [] => ['[', ']']
  | .list (item :: rest) =>
    '[' :: layout.lineBreak (level + 1) ++ item.print layout (level + 1) ++
      printItems layout level rest ++ layout.lineBreak level ++ [']']
  | .object [] => ['\x7b', '\x7d']
  | .object ((key, value) :: rest) =>
    '\x7b' :: layout.lineBreak (level + 1) ++ quote key ++ layout.colon ++
      value.print layout (level + 1) ++ printMembers layout level rest ++
      layout.lineBreak level ++ ['\x7d']
where
  printItems (layout : Layout) (level : Nat) : List Value → List Char
    | [] => []
    | item :: rest =>
      ',' :: layout.lineBreak (level + 1) ++ item.print layout (level + 1) ++
        printItems layout level rest
  printMembers (layout : Layout) (level : Nat) : List (Option String × Value) → List Char
    | [] => []
    | (key, value) :: rest =>
      ',' :: layout.lineBreak (level + 1) ++ quote key ++ layout.colon ++
        value.print layout (level + 1) ++ printMembers layout level rest

/-- A value on one line. -/
def compact (value : Value) : String := String.ofList (value.print .compact 0)

/-- A value with every item on a line of its own. -/
def pretty (value : Value) : String := String.ofList (value.print .indented 0)

end Value

end Conformance.Json
