import Conformance.Json.Token

/-!
# TOML strings

Strings stand between quotes, single or tripled. In double quotes a backslash begins
an escape; in single quotes it is a character like any other. Only strings between
tripled quotes run over several lines. Control characters other than the tabulator
stand in no string.
-/

namespace Conformance.Toml

open Json (hexValue?)

/-- Whether a character is a space or a tabulator. -/
def isBlank (c : Char) : Bool := c = ' ' || c = '\t'

/-- Whether a character must not occur in strings and comments. -/
def isControl (c : Char) : Bool := (c.toNat < 0x20 && c ≠ '\t') || c.toNat = 0x7F

/-- The character of a code point that hexadecimal digits name. -/
def character? (digits : List Char) : Option Char := do
  let values ← digits.mapM hexValue?
  let code := values.foldl (fun n value => n * 16 + value) 0
  if code < 0xD800 || (0xE000 ≤ code && code < 0x110000) then return Char.ofNat code else none

/-- What a backslash makes of a single character. -/
def unescape? : Char → Option Char
  | '"' => some '"'
  | '\\' => some '\\'
  | 'b' => some '\x08'
  | 't' => some '\t'
  | 'n' => some '\n'
  | 'f' => some '\x0c'
  | 'r' => some '\r'
  | 'e' => some '\x1b'
  | _ => none

/-- The character of an escape and what follows it. -/
def scanEscape : List Char → Option (Char × List Char)
  | 'x' :: a :: b :: rest => (character? [a, b]).map (·, rest)
  | 'u' :: a :: b :: c :: d :: rest => (character? [a, b, c, d]).map (·, rest)
  | 'U' :: a :: b :: c :: d :: e :: f :: g :: h :: rest =>
    (character? [a, b, c, d, e, f, g, h]).map (·, rest)
  | c :: rest => (unescape? c).map (·, rest)
  | [] => none

/-- What follows a line break at the front. -/
def afterBreak? : List Char → Option (List Char)
  | '\n' :: rest => some rest
  | '\r' :: '\n' :: rest => some rest
  | _ => none

/-- The rest of a text after the blanks and line breaks at its front. -/
def skipBreaks : List Char → List Char
  | ' ' :: rest => skipBreaks rest
  | '\t' :: rest => skipBreaks rest
  | '\n' :: rest => skipBreaks rest
  | '\r' :: '\n' :: rest => skipBreaks rest
  | chars => chars

/-- What follows a backslash that stands at the end of its line: the next character that is neither
a blank nor a line break. -/
def afterContinuation? (chars : List Char) : Option (List Char) :=
  (afterBreak? (chars.dropWhile isBlank)).map skipBreaks

/-- Reads a string in double quotes after its opening quote, given the characters before, last
first. The fuel bounds the number of characters. -/
def scanBasic : Nat → List Char → List Char → Option (String × List Char)
  | 0, _, _ => none
  | fuel + 1, before, chars =>
    match chars with
    | '"' :: rest => some (String.ofList before.reverse, rest)
    | '\\' :: rest =>
      match scanEscape rest with
      | some (c, rest) => scanBasic fuel (c :: before) rest
      | none => none
    | c :: rest => if isControl c then none else scanBasic fuel (c :: before) rest
    | [] => none

/-- Reads a string in single quotes after its opening quote. -/
def scanLiteral (before : List Char) : List Char → Option (String × List Char)
  | '\'' :: rest => some (String.ofList before.reverse, rest)
  | c :: rest => if isControl c then none else scanLiteral (c :: before) rest
  | [] => none

/-- The end of a string between tripled quotes: up to two more quotes belong to the string. The
answer is how many, and what follows. -/
def closing? (quote : Char) : List Char → Option (Nat × List Char)
  | a :: b :: c :: rest =>
    if a = quote && b = quote && c = quote then
      match rest with
      | d :: e :: others =>
        if d = quote && e = quote then some (2, others)
        else if d = quote then some (1, e :: others)
        else some (0, rest)
      | [d] => if d = quote then some (1, []) else some (0, rest)
      | [] => some (0, [])
    else none
  | _ => none

/-- Reads a string between tripled double quotes after the opening ones. -/
def scanBasicLines : Nat → List Char → List Char → Option (String × List Char)
  | 0, _, _ => none
  | fuel + 1, before, chars =>
    match closing? '"' chars with
    | some (quotes, rest) =>
      some (String.ofList (before.reverse ++ List.replicate quotes '"'), rest)
    | none =>
      match chars with
      | '\\' :: rest =>
        match afterContinuation? rest with
        | some rest => scanBasicLines fuel before rest
        | none =>
          match scanEscape rest with
          | some (c, rest) => scanBasicLines fuel (c :: before) rest
          | none => none
      | '\r' :: '\n' :: rest => scanBasicLines fuel ('\n' :: '\r' :: before) rest
      | c :: rest =>
        if isControl c && c ≠ '\n' then none else scanBasicLines fuel (c :: before) rest
      | [] => none

/-- Reads a string between tripled single quotes after the opening ones. -/
def scanLiteralLines : Nat → List Char → List Char → Option (String × List Char)
  | 0, _, _ => none
  | fuel + 1, before, chars =>
    match closing? '\'' chars with
    | some (quotes, rest) =>
      some (String.ofList (before.reverse ++ List.replicate quotes '\''), rest)
    | none =>
      match chars with
      | '\r' :: '\n' :: rest => scanLiteralLines fuel ('\n' :: '\r' :: before) rest
      | c :: rest =>
        if isControl c && c ≠ '\n' then none else scanLiteralLines fuel (c :: before) rest
      | [] => none

/-- A string on one line at the front. -/
def scanLineString (fuel : Nat) : List Char → Option (String × List Char)
  | '"' :: rest => scanBasic fuel [] rest
  | '\'' :: rest => scanLiteral [] rest
  | _ => none

/-- A string of any kind at the front. A line break right after the opening quotes is dropped. -/
def scanString (fuel : Nat) (chars : List Char) : Option (String × List Char) :=
  match chars with
  | '"' :: '"' :: '"' :: rest => scanBasicLines fuel [] ((afterBreak? rest).getD rest)
  | '\'' :: '\'' :: '\'' :: rest => scanLiteralLines fuel [] ((afterBreak? rest).getD rest)
  | _ => scanLineString fuel chars

end Conformance.Toml
