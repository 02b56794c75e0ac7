import Conformance.Toml.Scalar
import Conformance.Toml.Text
import Conformance.Toml.Value

/-!
# Reading TOML

A document is a sequence of statements, one to a line: a key with its value, or the
header of a table. Each statement is applied to the table read so far; one that cannot
be applied refuses the document. Where a count of steps has to be known in advance, the
length of the document bounds it, since every step takes at least one character.
-/

namespace Conformance.Toml

/-- How deep lists and inline tables may be nested, and how many parts a key may have. -/
def maxDepth : Nat := 80

/-- What follows blanks, line breaks and comments at the front. -/
def skipFiller (inComment : Bool) (chars : List Char) : Option (List Char) :=
  match chars with
  | [] => some []
  | '\n' :: rest => skipFiller false rest
  | '\r' :: '\n' :: rest => skipFiller false rest
  | c :: rest =>
    if inComment then if isControl c then none else skipFiller true rest
    else if isBlank c then skipFiller false rest
    else if c = '#' then skipFiller true rest
    else some chars

/-- Whether nothing but a comment may follow on the line. -/
def endsLine (chars : List Char) : Bool :=
  match chars.dropWhile isBlank with
  | [] => true
  | '#' :: _ => true
  | rest => (afterBreak? rest).isSome

/-- Whether a character can stand in a key without quotes. -/
def isKeyChar (c : Char) : Bool :=
  Json.isDigit c || ('a' ≤ c && c ≤ 'z') || ('A' ≤ c && c ≤ 'Z') || c = '_' || c = '-'

/-- One part of a key at the front. -/
def scanKeyPart (fuel : Nat) (chars : List Char) : Option (String × List Char) :=
  match chars with
  | '"' :: _ => scanLineString fuel chars
  | '\'' :: _ => scanLineString fuel chars
  | _ =>
    match chars.takeWhile isKeyChar with
    | [] => none
    | part => some (String.ofList part, chars.dropWhile isKeyChar)

/-- A key at the front: the parts before the last, and the last one. Blanks may surround dots. -/
def scanKey : Nat → List String → List Char → Option (List String × String × List Char)
  | 0, _, _ => none
  | fuel + 1, before, chars =>
    match scanKeyPart (fuel + 1) (chars.dropWhile isBlank) with
    | none => none
    | some (part, rest) =>
      match rest.dropWhile isBlank with
      | '.' :: rest => scanKey fuel (part :: before) rest
      | rest => if before.length < maxDepth then some (before.reverse, part, rest) else none

/-- What follows blanks at the front; inside an inline table, line breaks and comments as well. -/
def skipSpace (inline : Bool) (chars : List Char) : Option (List Char) :=
  if inline then skipFiller false chars else some (chars.dropWhile isBlank)

/-- What follows the equals sign after a key, without the space around it. -/
def afterEquals? (inline : Bool) (chars : List Char) : Option (List Char) :=
  match skipSpace inline chars with
  | some ('=' :: rest) => skipSpace inline rest
  | _ => none

/-- A truth value, a number or a date at the front. -/
def scanScalar (chars : List Char) : Option (Value × List Char) :=
  let (run, rest) := scalarRun chars
  if run = "true".toList then some (.truth true, rest)
  else if run = "false".toList then some (.truth false, rest)
  else (measure? run).map (·, rest)

mutual

/-- A value at the front, with room for so many containers in each other. -/
def scanValue : Nat → Nat → List Char → Option (Value × List Char)
  | 0, _, _ => none
  | fuel + 1, room, chars =>
    match chars, room with
    | '[' :: rest, room + 1 => scanItems fuel room [] rest
    | '[' :: _, 0 => none
    | '\x7b' :: rest, room + 1 => scanEntries fuel room [] rest
    | '\x7b' :: _, 0 => none
    | '"' :: _, _ => (scanString (fuel + 1) chars).map fun (content, rest) => (.text content, rest)
    | '\'' :: _, _ => (scanString (fuel + 1) chars).map fun (content, rest) => (.text content, rest)
    | _, _ => scanScalar chars

/-- The items of a list that are still to come, given those before, last first. -/
def scanItems : Nat → Nat → List Value → List Char → Option (Value × List Char)
  | 0, _, _, _ => none
  | fuel + 1, room, before, chars =>
    match skipFiller false chars with
    | none => none
    | some (']' :: rest) => some (.list before.reverse, rest)
    | some chars =>
      match scanValue fuel room chars with
      | none => none
      | some (item, rest) =>
        match skipFiller false rest with
        | some (',' :: rest) => scanItems fuel room (item :: before) rest
        | some (']' :: rest) => some (.list (item :: before).reverse, rest)
        | _ => none

/-- The entries of an inline table that are still to come. Line breaks and comments may stand
anywhere but inside a key. -/
def scanEntries : Nat → Nat → Entries → List Char → Option (Value × List Char)
  | 0, _, _, _ => none
  | fuel + 1, room, entries, chars =>
    match skipFiller false chars with
    | none => none
    | some ('\x7d' :: rest) => some ((Node.table false false entries).value, rest)
    | some chars =>
      match scanKey (fuel + 1) [] chars with
      | none => none
      | some (keys, key, rest) =>
        match afterEquals? true rest with
        | none => none
        | some rest =>
          match scanValue fuel room rest with
          | none => none
          | some (value, rest) =>
            match entries.assign keys key value false with
            | none => none
            | some entries =>
              match skipFiller false rest with
              | some (',' :: rest) => scanEntries fuel room entries rest
              | some ('\x7d' :: rest) => some ((Node.table false false entries).value, rest)
              | _ => none

end

/-- The rest of a header after its opening brackets: the path of the table, and what follows. -/
def scanHeader (fuel : Nat) (double : Bool) (chars : List Char) :
    Option (List String × String × List Char) :=
  match scanKey fuel [] chars with
  | none => none
  | some (keys, key, rest) =>
    match double, rest with
    | false, ']' :: rest => some (keys, key, rest)
    | true, ']' :: ']' :: rest => some (keys, key, rest)
    | _, _ => none

/-- One statement: the header in force after it, the table after it, and what follows. -/
def scanStatement (fuel : Nat) (header : List String) (table : Entries) (chars : List Char) :
    Option (List String × Entries × List Char) :=
  match chars with
  | '[' :: '[' :: rest => do
    let (keys, key, rest) ← scanHeader fuel true rest
    return (keys ++ [key], ← table.change false (Entries.openElement key) false keys, rest)
  | '[' :: rest => do
    let (keys, key, rest) ← scanHeader fuel false rest
    return (keys ++ [key], ← table.change false (Entries.openTable key) false keys, rest)
  | _ => do
    let (keys, key, rest) ← scanKey fuel [] chars
    let (value, rest) ← scanValue fuel maxDepth (← afterEquals? false rest)
    return (header, ← table.change false (Entries.assign keys key value) false header, rest)

/-- All statements that are still to come. -/
def scanStatements : Nat → List String → Entries → List Char → Option Entries
  | 0, _, _, _ => none
  | fuel + 1, header, table, chars =>
    match skipFiller false chars with
    | none => none
    | some [] => some table
    | some chars =>
      match scanStatement (fuel + 1) header table chars with
      | none => none
      | some (header, table, rest) =>
        if endsLine rest then scanStatements fuel header table rest else none

/-- Reads a document. A mark of the byte order may stand at its front. -/
def Value.parse? (document : String) : Option Value :=
  let chars := match document.toList with
    | '\uFEFF' :: rest => rest
    | chars => chars
  (scanStatements (chars.length + 1) [] [] chars).map fun table =>
    (Node.table false false table).value

end Conformance.Toml
