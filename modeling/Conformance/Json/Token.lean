import Conformance.Json.Value

/-!
# JSON tokens

A document is cut into tokens first: punctuation, words, numbers and strings, with
blanks between them. Each scanner takes characters from the front and returns what
remains, which is shorter than what it was given.
-/

namespace Conformance.Json

/-- The smallest parts of a document. -/
inductive Token where
  | openList
  | closeList
  | openObject
  | closeObject
  | comma
  | colon
  | null
  | truth (value : Bool)
  | number (value : Number)
  | text (content : Option String)
deriving DecidableEq

/-- The blanks that may stand between tokens. -/
def isBlank (c : Char) : Bool := c = ' ' || c = '\n' || c = '\r' || c = '\t'

/-- The value of a hexadecimal digit of either case. -/
def hexValue? (c : Char) : Option Nat :=
  if '0' ≤ c ∧ c ≤ '9' then some (c.toNat - '0'.toNat)
  else if 'a' ≤ c ∧ c ≤ 'f' then some (c.toNat - 'a'.toNat + 10)
  else if 'A' ≤ c ∧ c ≤ 'F' then some (c.toNat - 'A'.toNat + 10)
  else none

/-- The code unit that four hexadecimal digits name. -/
def unitOf? (a b c d : Char) : Option Nat := do
  return (((← hexValue? a) * 16 + (← hexValue? b)) * 16 + (← hexValue? c)) * 16 + (← hexValue? d)

/-- What a backslash makes of a single character. -/
def unescape? : Char → Option Char
  | '"' => some '"'
  | '\\' => some '\\'
  | '/' => some '/'
  | 'b' => some '\x08'
  | 'f' => some '\x0c'
  | 'n' => some '\n'
  | 'r' => some '\r'
  | 't' => some '\t'
  | _ => none

/-- Whether a code unit is the first half of a surrogate pair. -/
def isHighHalf (unit : Nat) : Bool := 0xD800 ≤ unit && unit < 0xDC00

/-- Whether a code unit is the second half of a surrogate pair. -/
def isLowHalf (unit : Nat) : Bool := 0xDC00 ≤ unit && unit < 0xE000

/-- The characters that code units stand for: a pair of halves is one character, and half a pair
is none. -/
def characters? : List Nat → Option (List Char)
  | [] => some []
  | high :: low :: rest =>
    if isHighHalf high && isLowHalf low then do
      return Char.ofNat (0x10000 + (high - 0xD800) * 0x400 + (low - 0xDC00)) :: (← characters? rest)
    else if isHighHalf high || isLowHalf high then none
    else do return Char.ofNat high :: (← characters? (low :: rest))
  | [unit] => if isHighHalf unit || isLowHalf unit then none else some [Char.ofNat unit]

/-- Reads a string after its opening quote, given the code units before, last first. Control
characters have to be escaped. -/
def scanText (units : List Nat) : List Char → Option (Option String × List Char)
  | [] => none
  | '"' :: rest => some ((characters? units.reverse).map String.ofList, rest)
  | '\\' :: 'u' :: a :: b :: c :: d :: rest =>
    match unitOf? a b c d with
    | some unit => scanText (unit :: units) rest
    | none => none
  | '\\' :: c :: rest =>
    match unescape? c with
    | some escaped => scanText (escaped.toNat :: units) rest
    | none => none
  | c :: rest => if c.toNat < 0x20 || c = '\\' then none else scanText (c.toNat :: units) rest

/-- Whether a character is a decimal digit. -/
def isDigit (c : Char) : Bool := '0' ≤ c && c ≤ '9'

/-- The value of a decimal digit. -/
def digitValue (c : Char) : Nat := c.toNat - '0'.toNat

/-- The digit that a character spells. -/
def digitOf (c : Char) : Fin 10 := Fin.ofNat 10 (digitValue c)

/-- The natural number that decimal digits spell. -/
def naturalOf (digits : List Char) : Nat := digits.foldl (fun n c => n * 10 + digitValue c) 0

/-- Digits at the front, at least one. -/
def scanDigits (chars : List Char) : Option (List Char × List Char) :=
  match chars.takeWhile isDigit with
  | [] => none
  | digits => some (digits, chars.dropWhile isDigit)

/-- The digits before the point. A zero stands alone. -/
def scanWhole (chars : List Char) : Option (Nat × List Char) :=
  match chars with
  | '0' :: rest => some (0, rest)
  | _ => (scanDigits chars).map fun (digits, rest) => (naturalOf digits, rest)

/-- The digits after the point, if there is one. -/
def scanFraction (chars : List Char) : Option (List (Fin 10) × List Char) :=
  match chars with
  | '.' :: rest =>
    (scanDigits rest).map fun (digits, rest) => (digits.map digitOf, rest)
  | _ => some ([], chars)

/-- The digits of an exponent after its sign. -/
def scanMagnitude (negative : Bool) (chars : List Char) : Option (Option Int × List Char) :=
  (scanDigits chars).map fun (digits, rest) =>
    let magnitude : Int := naturalOf digits
    (some (if negative then -magnitude else magnitude), rest)

/-- The exponent, if there is one. -/
def scanExponent (chars : List Char) : Option (Option Int × List Char) :=
  match chars with
  | c :: rest =>
    if c = 'e' || c = 'E' then
      match rest with
      | '-' :: rest => scanMagnitude true rest
      | '+' :: rest => scanMagnitude false rest
      | _ => scanMagnitude false rest
    else some (none, chars)
  | [] => some (none, [])

/-- A number without its sign. -/
def scanNumber (negative : Bool) (chars : List Char) : Option (Number × List Char) := do
  let (whole, rest) ← scanWhole chars
  let (fraction, rest) ← scanFraction rest
  let (exponent, rest) ← scanExponent rest
  return (⟨negative, whole, fraction, exponent⟩, rest)

/-- The tokens of one character. -/
def Token.punctuation? : Char → Option Token
  | '[' => some .openList
  | ']' => some .closeList
  | '\x7b' => some .openObject
  | '\x7d' => some .closeObject
  | ',' => some .comma
  | ':' => some .colon
  | _ => none

/-- A word at the front. -/
def scanWord : List Char → Option (Token × List Char)
  | 'n' :: 'u' :: 'l' :: 'l' :: rest => some (.null, rest)
  | 't' :: 'r' :: 'u' :: 'e' :: rest => some (.truth true, rest)
  | 'f' :: 'a' :: 'l' :: 's' :: 'e' :: rest => some (.truth false, rest)
  | _ => none

/-- The token at the front. -/
def Token.scan (chars : List Char) : Option (Token × List Char) :=
  match chars with
  | [] => none
  | c :: rest =>
    match punctuation? c with
    | some token => some (token, rest)
    | none =>
      if c = '"' then (scanText [] rest).map fun (content, rest) => (.text content, rest)
      else if c = '-' then (scanNumber true rest).map fun (value, rest) => (.number value, rest)
      else if isDigit c then (scanNumber false chars).map fun (value, rest) => (.number value, rest)
      else scanWord chars

/-- A text ends before the characters do. -/
theorem scanText_shorter (units : List Nat) (chars : List Char) (content : Option String)
    (rest : List Char) (scanned : scanText units chars = some (content, rest)) :
    rest.length < chars.length := by
  fun_induction scanText units chars with
  | case1 => cases scanned
  | case2 =>
    obtain ⟨_, rfl⟩ := Prod.mk.inj (Option.some.inj scanned)
    simp
  | case3 _ _ _ _ _ _ _ _ inductionHypothesis =>
    have shorter := inductionHypothesis scanned
    simp only [List.length_cons]
    omega
  | case4 => cases scanned
  | case5 _ _ _ _ _ _ inductionHypothesis =>
    have shorter := inductionHypothesis scanned
    simp only [List.length_cons]
    omega
  | case6 => cases scanned
  | case7 => cases scanned
  | case8 _ _ _ _ _ _ _ inductionHypothesis =>
    have shorter := inductionHypothesis scanned
    simp only [List.length_cons]
    omega

/-- Digits take at least one character. -/
theorem scanDigits_shorter (chars digits rest : List Char)
    (scanned : scanDigits chars = some (digits, rest)) : rest.length < chars.length := by
  unfold scanDigits at scanned
  split at scanned
  · cases scanned
  · next notEmpty =>
    obtain ⟨_, rfl⟩ := Prod.mk.inj (Option.some.inj scanned)
    have whole := congrArg List.length (List.takeWhile_append_dropWhile (p := isDigit) (l := chars))
    have positive : 0 < (chars.takeWhile isDigit).length := List.length_pos_iff.mpr notEmpty
    rw [List.length_append] at whole
    omega

/-- A whole number takes at least one character. -/
theorem scanWhole_shorter (chars : List Char) (whole : Nat) (rest : List Char)
    (scanned : scanWhole chars = some (whole, rest)) : rest.length < chars.length := by
  unfold scanWhole at scanned
  split at scanned
  · obtain ⟨_, rfl⟩ := Prod.mk.inj (Option.some.inj scanned)
    simp
  · obtain ⟨⟨digits, remaining⟩, found, same⟩ := Option.map_eq_some_iff.mp scanned
    obtain ⟨_, rfl⟩ := Prod.mk.inj same
    exact scanDigits_shorter chars digits remaining found

/-- A fraction takes no character that is not there. -/
theorem scanFraction_le (chars : List Char) (fraction : List (Fin 10)) (rest : List Char)
    (scanned : scanFraction chars = some (fraction, rest)) : rest.length ≤ chars.length := by
  unfold scanFraction at scanned
  split at scanned
  · obtain ⟨⟨digits, remaining⟩, found, same⟩ := Option.map_eq_some_iff.mp scanned
    obtain ⟨_, rfl⟩ := Prod.mk.inj same
    have shorter := scanDigits_shorter _ digits remaining found
    simp only [List.length_cons]
    omega
  · obtain ⟨_, rfl⟩ := Prod.mk.inj (Option.some.inj scanned)
    exact Nat.le_refl _

/-- The magnitude of an exponent takes at least one character. -/
theorem scanMagnitude_shorter (negative : Bool) (chars : List Char) (exponent : Option Int)
    (rest : List Char) (scanned : scanMagnitude negative chars = some (exponent, rest)) :
    rest.length < chars.length := by
  obtain ⟨⟨digits, remaining⟩, found, same⟩ := Option.map_eq_some_iff.mp scanned
  obtain ⟨_, rfl⟩ := Prod.mk.inj same
  exact scanDigits_shorter chars digits remaining found

/-- An exponent takes no character that is not there. -/
theorem scanExponent_le (chars : List Char) (exponent : Option Int) (rest : List Char)
    (scanned : scanExponent chars = some (exponent, rest)) : rest.length ≤ chars.length := by
  unfold scanExponent at scanned
  split at scanned
  · split at scanned
    · split at scanned <;>
      · have shorter := scanMagnitude_shorter _ _ exponent rest scanned
        simp only [List.length_cons]
        omega
    · obtain ⟨_, rfl⟩ := Prod.mk.inj (Option.some.inj scanned)
      exact Nat.le_refl _
  · obtain ⟨_, rfl⟩ := Prod.mk.inj (Option.some.inj scanned)
    exact Nat.le_refl _

/-- A number takes at least one character. -/
theorem scanNumber_shorter (negative : Bool) (chars : List Char) (number : Number)
    (rest : List Char)
    (scanned : scanNumber negative chars = some (number, rest)) : rest.length < chars.length := by
  simp only [scanNumber, Option.bind_eq_bind, Option.bind_eq_some_iff, Prod.exists] at scanned
  obtain ⟨whole, afterWhole, wholeScanned, fraction, afterFraction, fractionScanned, exponent,
    afterExponent, exponentScanned, same⟩ := scanned
  obtain ⟨_, rfl⟩ := Prod.mk.inj (Option.some.inj same)
  have first := scanWhole_shorter chars whole afterWhole wholeScanned
  have second := scanFraction_le afterWhole fraction afterFraction fractionScanned
  have third := scanExponent_le afterFraction exponent afterExponent exponentScanned
  omega

/-- A word takes at least one character. -/
theorem scanWord_shorter (chars : List Char) (token : Token) (rest : List Char)
    (scanned : scanWord chars = some (token, rest)) : rest.length < chars.length := by
  unfold scanWord at scanned
  split at scanned
  case h_4 => cases scanned
  all_goals
    obtain ⟨_, rfl⟩ := Prod.mk.inj (Option.some.inj scanned)
    simp only [List.length_cons]
    omega

/-- A token takes at least one character. -/
theorem Token.scan_shorter (chars : List Char) (token : Token) (rest : List Char)
    (scanned : Token.scan chars = some (token, rest)) : rest.length < chars.length := by
  unfold Token.scan at scanned
  split at scanned
  · cases scanned
  · next c after =>
    split at scanned
    · obtain ⟨_, rfl⟩ := Prod.mk.inj (Option.some.inj scanned)
      simp
    · split at scanned
      · obtain ⟨⟨content, remaining⟩, found, same⟩ := Option.map_eq_some_iff.mp scanned
        obtain ⟨_, rfl⟩ := Prod.mk.inj same
        have shorter := scanText_shorter [] after content remaining found
        simp only [List.length_cons]
        omega
      · split at scanned
        · obtain ⟨⟨value, remaining⟩, found, same⟩ := Option.map_eq_some_iff.mp scanned
          obtain ⟨_, rfl⟩ := Prod.mk.inj same
          have shorter := scanNumber_shorter true after value remaining found
          simp only [List.length_cons]
          omega
        · split at scanned
          · obtain ⟨⟨value, remaining⟩, found, same⟩ := Option.map_eq_some_iff.mp scanned
            obtain ⟨_, rfl⟩ := Prod.mk.inj same
            exact scanNumber_shorter false (c :: after) value remaining found
          · exact scanWord_shorter (c :: after) token rest scanned

/-- The tokens of a document, given those before, last first. -/
def Token.scanAll (before : List Token) (chars : List Char) : Option (List Token) :=
  match chars with
  | [] => some before.reverse
  | c :: rest =>
    if isBlank c then scanAll before rest
    else
      match _scanned : Token.scan (c :: rest) with
      | none => none
      | some (token, remaining) => scanAll (token :: before) remaining
termination_by chars.length
decreasing_by
  · simp
  · exact Token.scan_shorter _ token remaining _scanned

end Conformance.Json
