import Conformance.Json.Magnitude
import Conformance.Json.Token
import Conformance.Toml.Text
import Conformance.Toml.Value

/-!
# TOML numbers and dates

Settings have no use for numbers and dates, but a document with a malformed one is no
document. Digits may be grouped by underscores, which have to stand between digits.
Dates and times have to exist. How much is asked of a number depends on whether anybody
looks at it: only then an integer has to fit in 128 bits, a float must not round to
infinity, and an integer with groups or a base has to consist of digits.
-/

namespace Conformance.Toml

open Json (isDigit digitValue naturalOf hexValue?)

/-- The digits of a group, without the underscores between them. -/
def ungroup? (accept : Char → Bool) (afterDigit : Bool) (digits : List Char) :
    List Char → Option (List Char)
  | [] => if afterDigit then some digits.reverse else none
  | c :: rest =>
    if c = '_' then if afterDigit then ungroup? accept false digits rest else none
    else if accept c then ungroup? accept true (c :: digits) rest
    else none

/-- The sign of a number and what follows it. -/
def unsigned : List Char → Bool × List Char
  | '+' :: rest => (false, rest)
  | '-' :: rest => (true, rest)
  | chars => (false, chars)

/-- The digits of a decimal number. Only zero begins with a zero. -/
def decimalDigits? (chars : List Char) : Option (List Char) :=
  (ungroup? isDigit false [] chars).filter fun digits =>
    digits.head? ≠ some '0' || digits.length = 1

/-- The number that digits of a base spell. -/
def inBase (base : Nat) (digits : List Char) : Nat :=
  digits.foldl (fun n c => n * base + (hexValue? c).getD 0) 0

/-- The number that is spelled in a base other than ten. -/
def based? (base : Nat) (chars : List Char) : Option Int :=
  (ungroup? (fun c => (hexValue? c).any (· < base)) false [] chars).map fun digits =>
    inBase base digits

/-- The integer that characters spell. -/
def integer? : List Char → Option Int
  | '0' :: 'x' :: rest => based? 16 rest
  | '0' :: 'o' :: rest => based? 8 rest
  | '0' :: 'b' :: rest => based? 2 rest
  | chars =>
    let (negative, digits) := unsigned chars
    (decimalDigits? digits).map fun digits =>
      if negative then -(naturalOf digits : Int) else naturalOf digits

/-- Whether an integer fits in 128 bits, with a sign or without. -/
def fits (n : Int) : Bool := decide (-(Nat.pow 2 127 : Int) ≤ n ∧ n < (Nat.pow 2 128 : Int))

/-- Whether a float rounds to infinity. -/
def roundsToInfinity (number : Json.Number) : Bool :=
  let significand := number.fraction.foldl (fun n digit => n * 10 + digit.val) number.whole
  let exponent := number.exponent.getD 0 - number.fraction.length
  let scale := exponent + (Nat.toDigits 10 significand).length
  if significand = 0 || scale < 300 then false
  else if 310 < scale then true
  else if 0 ≤ exponent then Json.beyondDoubles ≤ significand * Nat.pow 10 exponent.toNat
  else Json.beyondDoubles * Nat.pow 10 (-exponent).toNat ≤ significand

/-- Whether a number is small enough to be looked at. -/
def inRange (number : Json.Number) : Bool :=
  match number.toInt? with
  | some n => fits n
  | none => !roundsToInfinity number

/-- Cuts at the first character that passes the test, which is dropped. -/
def cutAt (test : Char → Bool) (chars : List Char) : List Char × Option (List Char) :=
  match chars.dropWhile fun c => !test c with
  | [] => (chars, none)
  | _ :: rest => (chars.takeWhile fun c => !test c, some rest)

/-- The exponent of a float; zero without one. -/
def exponent? : Option (List Char) → Option Int
  | none => some 0
  | some chars =>
    let (negative, digits) := unsigned chars
    (ungroup? isDigit false [] digits).map fun digits =>
      if negative then -(naturalOf digits : Int) else naturalOf digits

/-- The digits after the point of a float; none without a point. -/
def fraction? : Option (List Char) → Option (List Char)
  | none => some []
  | some chars => ungroup? isDigit false [] chars

/-- Whether characters spell a number that is infinite or undefined. -/
def isNotFinite (chars : List Char) : Bool :=
  let (_, magnitude) := unsigned chars
  magnitude = ['i', 'n', 'f'] || magnitude = ['n', 'a', 'n']

/-- The float that characters spell, with a point, an exponent, or both. -/
def float? (chars : List Char) : Option Json.Number :=
  let (negative, magnitude) := unsigned chars
  let (mantissa, exponentPart) := cutAt (fun c => c = 'e' || c = 'E') magnitude
  let (wholePart, fractionPart) := cutAt (· = '.') mantissa
  match decimalDigits? wholePart, fraction? fractionPart, exponent? exponentPart with
  | some whole, some fraction, some exponent =>
    if fractionPart.isSome || exponentPart.isSome then
      some ⟨negative, naturalOf whole, fraction.map Json.digitOf, some exponent⟩
    else none
  | _, _, _ => none

/-- The number of two digits, if it is in a range. -/
def twoDigits? (least most : Nat) (tens ones : Char) : Option Nat :=
  if isDigit tens && isDigit ones then
    some (digitValue tens * 10 + digitValue ones) |>.filter fun n => least ≤ n && n ≤ most
  else none

/-- The number of days of a month. -/
def daysOf (year month : Nat) : Nat :=
  if month = 2 then
    if year % 4 = 0 && (year % 100 ≠ 0 || year % 400 = 0) then 29 else 28
  else if month = 4 || month = 6 || month = 9 || month = 11 then 30
  else 31

/-- What follows a date at the front. -/
def afterDate? : List Char → Option (List Char)
  | a :: b :: c :: d :: '-' :: e :: f :: '-' :: g :: h :: rest => do
    let century ← twoDigits? 0 99 a b
    let year ← twoDigits? 0 99 c d
    let month ← twoDigits? 1 12 e f
    let _ ← twoDigits? 1 (daysOf (century * 100 + year) month) g h
    return rest
  | _ => none

/-- What follows the fraction of a second at the front; there need not be one. -/
def afterFraction? : List Char → Option (List Char)
  | '.' :: rest => if rest.head?.any isDigit then some (rest.dropWhile isDigit) else none
  | chars => some chars

/-- What follows the seconds of a time at the front; there need not be any. -/
def afterSeconds? : List Char → Option (List Char)
  | ':' :: rest =>
    match rest with
    | a :: b :: rest => (twoDigits? 0 60 a b).bind fun _ => afterFraction? rest
    | _ => none
  | chars => some chars

/-- What follows a time at the front. -/
def afterTime? : List Char → Option (List Char)
  | a :: b :: ':' :: c :: d :: rest => do
    let _ ← twoDigits? 0 23 a b
    let _ ← twoDigits? 0 59 c d
    afterSeconds? rest
  | _ => none

/-- Whether characters spell the distance to universal time, or nothing at all. -/
def isOffset : List Char → Bool
  | [] => true
  | [c] => c = 'Z' || c = 'z'
  | [sign, a, b, ':', c, d] =>
    (sign = '+' || sign = '-') && (twoDigits? 0 23 a b).isSome && (twoDigits? 0 59 c d).isSome
  | _ => false

/-- Whether characters spell a date, a time, or both. -/
def isDateTime (chars : List Char) : Bool :=
  match afterDate? chars with
  | some [] => true
  | some (c :: rest) => (c = 'T' || c = 't' || c = ' ') && (afterTime? rest).any isOffset
  | none => afterTime? chars = some []

/-- Whether every underscore stands between hexadecimal digits, given whether one is in front. -/
def separatesDigits (afterDigit : Bool) : List Char → Bool
  | [] => true
  | c :: rest =>
    if c = '_' then
      afterDigit && rest.head?.any (fun next => (hexValue? next).isSome) &&
        separatesDigits false rest
    else separatesDigits (hexValue? c).isSome rest

/-- Whether characters stand in the place of an integer although they spell none: a base without
digits, or groups whose first is of digits alone. A point, an exponent or a space tells that
something else was meant. -/
def isUnreadableInteger (chars : List Char) : Bool :=
  let (_, magnitude) := unsigned chars
  chars = ['0', 'x'] || chars = ['0', 'o'] || chars = ['0', 'b'] ||
    (magnitude.head?.any (fun c => isDigit c && c ≠ '0') &&
      (magnitude.dropWhile isDigit).head? = some '_' &&
      !magnitude.any (fun c => c = '.' || c = 'e' || c = 'E' || c = ' ') &&
      separatesDigits false magnitude)

/-- The number that characters stand for, be it readable or not. -/
def number? (chars : List Char) : Option Value :=
  match (integer? chars).map Json.Number.ofInt <|> float? chars with
  | some number => some (if inRange number then .number number else .unreadable)
  | none => if isUnreadableInteger chars then some .unreadable else none

/-- The number or date that characters spell. -/
def measure? (chars : List Char) : Option Value :=
  if isDateTime chars then some .moment
  else if isNotFinite chars then some .notFinite
  else number? chars

/-- Whether a character ends a number, a date or a word, wherever it stands. -/
def isDelimiter (c : Char) : Bool :=
  c = '\n' || c = '\r' || c = '#' || c = ',' || c = '=' || c = '[' || c = ']' || c = '\x7b' ||
    c = '\x7d'

/-- Whether a character begins a string. -/
def isQuote (c : Char) : Bool := c = '"' || c = '\''

/-- The characters at the front that belong together, the blanks between them and after them too.
After a blank a quote begins something else. -/
def scalarSpan (afterBlank : Bool) : List Char → List Char × List Char
  | [] => ([], [])
  | c :: rest =>
    if isDelimiter c || (afterBlank && isQuote c) then ([], c :: rest)
    else
      let (span, others) := scalarSpan (isBlank c) rest
      (c :: span, others)

/-- The number, date or word at the front, and what follows the blanks after it. -/
def scalarRun (chars : List Char) : List Char × List Char :=
  let (span, rest) := scalarSpan false chars
  ((span.reverse.dropWhile isBlank).reverse, rest)

end Conformance.Toml
