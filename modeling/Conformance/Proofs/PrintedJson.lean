import Conformance.Json.Reader
import Conformance.Json.Printer
import Mathlib.Data.List.Basic

/-!
# Printed JSON is read back

Every value is read back from its text, whichever layout it was printed in. The text is cut
into the tokens that the value stands for, and these build the value up again.

Main statement: `Json.Value.parse?_print`.
-/

namespace Conformance.Json

/-! ## Numbers -/

/-- Nothing that a predicate holds of comes first. -/
def HeadAvoids (refused : Char → Bool) (chars : List Char) : Prop :=
  ∀ c ∈ chars.head?, refused c = false

/-- What avoids more avoids less. -/
theorem HeadAvoids.mono {refused fewer : Char → Bool} {chars : List Char}
    (avoids : HeadAvoids refused chars) (weaker : ∀ c, fewer c = true → refused c = true) :
    HeadAvoids fewer chars := by
  intro c first
  cases fewerRefuses : fewer c with
  | false => rfl
  | true => exact absurd (weaker c fewerRefuses) (by simp [avoids c first])

/-- Only the first character decides what a text avoids. -/
theorem HeadAvoids.of_cons {refused : Char → Bool} (c : Char) (rest : List Char)
    (avoids : refused c = false) : HeadAvoids refused (c :: rest) := by
  rintro _ ⟨⟩
  exact avoids

/-- The number of digits is read in base ten. -/
theorem naturalOf_eq (digits : List Char) : naturalOf digits = Nat.ofDigitChars 10 digits 0 := by
  rw [naturalOf, Nat.ofDigitChars_eq_foldl]
  congr 1
  funext n c
  rw [digitValue, Nat.mul_comm]

/-- A natural number is read back from its digits. -/
theorem naturalOf_decimal (n : Nat) : naturalOf (decimal n) = n := by
  rw [naturalOf_eq, decimal, Nat.ofDigitChars_ten_toDigits]

/-- Digits of natural numbers are digits. -/
theorem isDigit_of_mem_decimal (n : Nat) : ∀ c ∈ decimal n, isDigit c = true :=
  fun _ member => Nat.isDigit_of_mem_toDigits (by decide) (by decide) member

/-- Only zero begins with a zero. -/
theorem decimal_eq_cons (n : Nat) (positive : n ≠ 0) :
    ∃ c rest, decimal n = c :: rest ∧ c ≠ '0' := by
  induction n using Nat.strongRecOn with
  | ind n inductionHypothesis =>
    by_cases small : n < 10
    · refine ⟨n.digitChar, [], Nat.toDigits_of_lt_base small, ?_⟩
      have digits : ∀ digit < 10, digit ≠ 0 → digit.digitChar ≠ '0' := by decide
      exact digits n small positive
    · obtain ⟨c, rest, front, notZero⟩ := inductionHypothesis (n / 10) (by omega) (by omega)
      have split := Nat.toDigits_of_base_le (b := 10) (by decide) (Nat.le_of_not_lt small)
      refine ⟨c, rest ++ [(n % 10).digitChar], ?_, notZero⟩
      rw [decimal, split, ← decimal, front, List.cons_append]

/-- Digits are scanned as far as they go. -/
theorem scanDigits_append (digits rest : List Char) (present : digits ≠ [])
    (all : ∀ c ∈ digits, isDigit c = true) (stops : HeadAvoids isDigit rest) :
    scanDigits (digits ++ rest) = some (digits, rest) := by
  have front : rest.takeWhile isDigit = [] := by
    cases rest with
    | nil => rfl
    | cons c rest => exact List.takeWhile_cons_of_neg (by simp [stops c rfl])
  have back : rest.dropWhile isDigit = rest := by
    cases rest with
    | nil => rfl
    | cons c rest => exact List.dropWhile_cons_of_neg (by simp [stops c rfl])
  rw [scanDigits, List.takeWhile_append_of_pos all, List.dropWhile_append_of_pos all, front, back,
    List.append_nil]
  cases digits with
  | nil => exact absurd rfl present
  | cons c digits => rfl

/-- A natural number is scanned as its digits. -/
theorem scanDigits_decimal (n : Nat) (rest : List Char) (stops : HeadAvoids isDigit rest) :
    scanDigits (decimal n ++ rest) = some (decimal n, rest) :=
  scanDigits_append (decimal n) rest Nat.toDigits_ne_nil (isDigit_of_mem_decimal n) stops

/-- A natural number is scanned as a whole number, since only zero begins with a zero. -/
theorem scanWhole_decimal (n : Nat) (rest : List Char) (stops : HeadAvoids isDigit rest) :
    scanWhole (decimal n ++ rest) = some (n, rest) := by
  by_cases zero : n = 0
  · subst zero
    rfl
  · obtain ⟨c, digits, spelled, notZero⟩ := decimal_eq_cons n zero
    have scanned := scanDigits_decimal n rest stops
    rw [scanWhole.eq_def]
    split
    · next other same =>
      rw [spelled, List.cons_append] at same
      exact absurd (List.cons.inj same).1 notZero
    · simp only [scanned, Option.map_some, naturalOf_decimal]

/-- The spelling of a digit after the point. -/
def digitChar (digit : Fin 10) : Char := Char.ofNat ('0'.toNat + digit.val)

/-- A digit after the point is spelled by a digit. -/
theorem isDigit_digitChar (digit : Fin 10) : isDigit (digitChar digit) = true := by
  revert digit
  decide

/-- A digit after the point is read back from its spelling. -/
theorem digitOf_digitChar (digit : Fin 10) : digitOf (digitChar digit) = digit := by
  revert digit
  decide

/-- The spelling of the digits after the point. -/
def fractionPart : List (Fin 10) → List Char
  | [] => []
  | digits => '.' :: digits.map digitChar

/-- A fraction is scanned from its spelling. -/
theorem scanFraction_part (fraction : List (Fin 10)) (rest : List Char)
    (stops : HeadAvoids (fun c => isDigit c || c = '.') rest) :
    scanFraction (fractionPart fraction ++ rest) = some (fraction, rest) := by
  cases fraction with
  | nil =>
    cases rest with
    | nil => rfl
    | cons c rest =>
      have notPoint : c ≠ '.' := by
        have refused := stops c rfl
        simp at refused
        exact refused.2
      simp only [fractionPart, List.nil_append]
      rw [scanFraction.eq_def]
      split
      · next other same => exact absurd (List.cons.inj same).1 notPoint
      · rfl
  | cons digit digits =>
    have scanned := scanDigits_append ((digit :: digits).map digitChar) rest (by simp)
      (by
        intro c member
        obtain ⟨digit, _, rfl⟩ := List.mem_map.mp member
        exact isDigit_digitChar digit)
      (stops.mono fun c isDigit => by simp [isDigit])
    have same : digitOf ∘ digitChar = id := funext digitOf_digitChar
    rw [fractionPart, List.cons_append, scanFraction]
    · simp only [scanned, Option.map_some, List.map_map, same, List.map_id]
    · exact nofun

/-- The spelling of an exponent. -/
def exponentPart : Option Int → List Char
  | none => []
  | some (.ofNat n) => 'e' :: decimal n
  | some (.negSucc n) => 'e' :: '-' :: decimal (n + 1)

/-- The magnitude of an exponent is scanned from its spelling. -/
theorem scanMagnitude_decimal (negative : Bool) (n : Nat) (rest : List Char)
    (stops : HeadAvoids isDigit rest) :
    scanMagnitude negative (decimal n ++ rest) =
      some (some (if negative then -(n : Int) else n), rest) := by
  simp only [scanMagnitude, scanDigits_decimal n rest stops, Option.map_some, naturalOf_decimal]

/-- An exponent is scanned from its spelling. -/
theorem scanExponent_part (exponent : Option Int) (rest : List Char)
    (stops : HeadAvoids (fun c => isDigit c || c = 'e' || c = 'E') rest) :
    scanExponent (exponentPart exponent ++ rest) = some (exponent, rest) := by
  have noDigit : HeadAvoids isDigit rest := stops.mono fun c isDigit => by simp [isDigit]
  match exponent with
  | none =>
    cases rest with
    | nil => rfl
    | cons c rest =>
      have refused := stops c rfl
      simp only [Bool.or_eq_false_iff, decide_eq_false_iff_not] at refused
      simp [exponentPart, scanExponent, refused]
  | some (.ofNat n) =>
    have scanned := scanMagnitude_decimal false n rest noDigit
    obtain ⟨c, digits, spelled⟩ : ∃ c digits, decimal n = c :: digits :=
      List.exists_cons_of_ne_nil Nat.toDigits_ne_nil
    have digit : isDigit c = true := isDigit_of_mem_decimal n c (spelled ▸ List.mem_cons_self)
    have noMinus : c ≠ '-' := by rintro rfl; revert digit; decide
    have noPlus : c ≠ '+' := by rintro rfl; revert digit; decide
    rw [spelled, List.cons_append] at scanned
    simp only [exponentPart, spelled, List.cons_append, scanExponent, decide_true,
      Bool.true_or, if_true]
    split
    · next other same => exact absurd (List.cons.inj same).1 noMinus
    · next other same => exact absurd (List.cons.inj same).1 noPlus
    · exact scanned
  | some (.negSucc n) =>
    have scanned := scanMagnitude_decimal true (n + 1) rest noDigit
    simp only [exponentPart, List.cons_append, scanExponent, decide_true, Bool.true_or, if_true,
      scanned]
    rfl

/-- What would go on with a number that stands in front. -/
def continuesNumber (c : Char) : Bool := isDigit c || c = '.' || c = 'e' || c = 'E'

/-- A number is spelled by its sign and its three parts. -/
theorem Number.spelling_eq (number : Number) :
    number.spelling = (if number.negative then ['-'] else []) ++
      (decimal number.whole ++ (fractionPart number.fraction ++ exponentPart number.exponent)) := by
  obtain ⟨negative, whole, fraction, exponent⟩ := number
  simp only [spelling, List.append_assoc]
  rcases fraction with _ | ⟨digit, digits⟩ <;> rcases exponent with _ | n | n <;> rfl

/-- A fraction begins with a point if it is there, and gives way to what follows if not. -/
theorem headAvoids_fractionPart (refused : Char → Bool) (fraction : List (Fin 10))
    (rest : List Char) (point : refused '.' = false) (stops : HeadAvoids refused rest) :
    HeadAvoids refused (fractionPart fraction ++ rest) := by
  cases fraction with
  | nil => exact stops
  | cons digit digits =>
    rintro c ⟨⟩
    exact point

/-- An exponent begins with its letter if it is there, and gives way to what follows if not. -/
theorem headAvoids_exponentPart (refused : Char → Bool) (exponent : Option Int)
    (rest : List Char) (sign : refused 'e' = false) (stops : HeadAvoids refused rest) :
    HeadAvoids refused (exponentPart exponent ++ rest) := by
  match exponent with
  | none => exact stops
  | some (.ofNat n) =>
    rintro c ⟨⟩
    exact sign
  | some (.negSucc n) =>
    rintro c ⟨⟩
    exact sign

/-- A number is scanned from its spelling, if what follows does not go on with it. -/
theorem scanNumber_spelling (number : Number) (rest : List Char)
    (stops : HeadAvoids continuesNumber rest) :
    scanNumber number.negative (decimal number.whole ++
      (fractionPart number.fraction ++ (exponentPart number.exponent ++ rest))) =
        some (number, rest) := by
  have afterExponent : HeadAvoids (fun c => isDigit c || c = 'e' || c = 'E') rest := by
    refine stops.mono fun c goesOn => ?_
    simp only [continuesNumber]
    grind
  have afterFraction : HeadAvoids (fun c => isDigit c || c = '.')
      (exponentPart number.exponent ++ rest) := by
    refine headAvoids_exponentPart _ _ rest (by decide) (stops.mono fun c goesOn => ?_)
    simp only [continuesNumber]
    grind
  have afterWhole : HeadAvoids isDigit
      (fractionPart number.fraction ++ (exponentPart number.exponent ++ rest)) := by
    refine headAvoids_fractionPart _ _ _ (by decide) (afterFraction.mono fun c digit => ?_)
    simp [digit]
  simp only [scanNumber, scanWhole_decimal _ _ afterWhole, scanFraction_part _ _ afterFraction,
    scanExponent_part _ _ afterExponent, Option.bind_eq_bind, Option.bind_some]
  rfl

/-! ## Strings -/

/-- A digit in base sixteen is read back from its spelling. -/
theorem hexValue?_hexDigit (n : Nat) (small : n < 16) : hexValue? (hexDigit n) = some n := by
  revert n
  decide

/-- The code unit that an escaped control character names. -/
theorem unitOf?_hexDigits (n : Nat) (small : n < 0x20) :
    unitOf? '0' '0' (hexDigit (n / 16)) (hexDigit (n % 16)) = some n := by
  have high := hexValue?_hexDigit (n / 16) (by omega)
  have low := hexValue?_hexDigit (n % 16) (by omega)
  have zero : hexValue? '0' = some 0 := rfl
  simp only [unitOf?, high, low, zero, Option.bind_eq_bind, Option.bind_some]
  exact congrArg some (by omega)

/-- A character is read back from what it is escaped to. -/
theorem scanText_escape (units : List Nat) (c : Char) (rest : List Char) :
    scanText units (escape c ++ rest) = scanText (c.toNat :: units) rest := by
  unfold escape
  split
  case h_8 notQuote notBackslash _ _ _ _ _ =>
    split
    case isTrue control =>
      simp only [List.cons_append, List.nil_append]
      rw [scanText, unitOf?_hexDigits c.toNat control]
    case isFalse plain =>
      rw [List.singleton_append, scanText]
      · rw [if_neg (by simpa [plain] using notBackslash)]
      · exact notQuote
      · exact fun _ _ _ _ _ same _ => notBackslash same
      · exact fun _ _ same _ => notBackslash same
  all_goals rfl

/-- Characters are never halves of surrogate pairs. -/
theorem not_half (c : Char) : isHighHalf c.toNat = false ∧ isLowHalf c.toNat = false := by
  have valid : c.toNat < 0xD800 ∨ 0xDFFF < c.toNat ∧ c.toNat < 0x110000 := c.valid
  simp only [isHighHalf, isLowHalf, Bool.and_eq_false_iff, decide_eq_false_iff_not]
  omega

/-- The code points of a text stand for the text. -/
theorem characters?_map_toNat (chars : List Char) :
    characters? (chars.map Char.toNat) = some chars := by
  induction chars with
  | nil => rfl
  | cons c rest inductionHypothesis =>
    obtain ⟨notHigh, notLow⟩ := not_half c
    cases rest with
    | nil => simp [characters?, notHigh, notLow, Char.ofNat_toNat]
    | cons next others =>
      rw [List.map_cons, List.map_cons, characters?]
      simp only [notHigh, notLow, Bool.false_and, Bool.false_or, Bool.false_eq_true, if_false]
      rw [← List.map_cons, inductionHypothesis, Char.ofNat_toNat]
      rfl

/-- Escaped characters are scanned up to the quotation mark behind them, one by one. -/
theorem scanText_flatMap_escape (units : List Nat) (chars rest : List Char) :
    scanText units (chars.flatMap escape ++ '"' :: rest) =
      some ((characters? (units.reverse ++ chars.map Char.toNat)).map String.ofList, rest) := by
  induction chars generalizing units with
  | nil => simp [scanText]
  | cons c others inductionHypothesis =>
    rw [List.flatMap_cons, List.append_assoc, scanText_escape, inductionHypothesis,
      List.reverse_cons, List.append_assoc, List.singleton_append, List.map_cons]

/-- A string is read back from its quoted form. One without a text has none afterwards either. -/
theorem scan_quote (content : Option String) (rest : List Char) :
    Token.scan (quote content ++ rest) = some (.text content, rest) := by
  cases content with
  | none => rfl
  | some content =>
    have scanned := scanText_flatMap_escape [] content.toList rest
    rw [List.reverse_nil, List.nil_append, characters?_map_toNat, Option.map_some,
      String.ofList_toList] at scanned
    have noPunctuation : Token.punctuation? '"' = none := rfl
    simp only [quote, List.cons_append, List.append_assoc, List.nil_append, Token.scan,
      noPunctuation, if_true, scanned, Option.map_some]

/-! ## Tokens -/

namespace Value

/-- The tokens that a value is printed as. -/
def tokens : Value → List Token
  | .null => [.null]
  | .truth value => [.truth value]
  | .number value => [.number value]
  | .text content => [.text content]
  | .list [] => [.openList, .closeList]
  | .list (item :: rest) => .openList :: item.tokens ++ tokensOfItems rest ++ [.closeList]
  | .object [] => [.openObject, .closeObject]
  | .object ((key, value) :: rest) =>
    .openObject :: .text key :: .colon :: value.tokens ++ tokensOfMembers rest ++ [.closeObject]
where
  tokensOfItems : List Value → List Token
    | [] => []
    | item :: rest => .comma :: item.tokens ++ tokensOfItems rest
  tokensOfMembers : List (Option String × Value) → List Token
    | [] => []
    | (key, value) :: rest =>
      .comma :: .text key :: .colon :: value.tokens ++ tokensOfMembers rest

end Value

namespace Token

/-- No token begins with a blank. -/
theorem scan_of_blank (c : Char) (rest : List Char) (blank : isBlank c = true) :
    scan (c :: rest) = none := by
  simp only [isBlank, Bool.or_eq_true, decide_eq_true_eq] at blank
  rcases blank with ((rfl | rfl) | rfl) | rfl <;> rfl

/-- A token that is scanned is put in front of those scanned before it. -/
theorem scanAll_of_scan (before : List Token) (chars rest : List Char) (token : Token)
    (scanned : scan chars = some (token, rest)) :
    scanAll before chars = scanAll (token :: before) rest := by
  cases chars with
  | nil => cases scanned
  | cons c others =>
    have notBlank : isBlank c = false := by
      cases blank : isBlank c with
      | false => rfl
      | true => simp [scan_of_blank c others blank] at scanned
    rw [scanAll, notBlank, if_neg Bool.false_ne_true]
    split
    · next failed => simp [failed] at scanned
    · next other remaining found =>
      obtain ⟨rfl, rfl⟩ : other = token ∧ remaining = rest := by simpa [found] using scanned
      rfl

/-- Blanks are passed over. -/
theorem scanAll_blanks (before : List Token) (blanks rest : List Char)
    (all : ∀ c ∈ blanks, isBlank c = true) :
    scanAll before (blanks ++ rest) = scanAll before rest := by
  induction blanks with
  | nil => rfl
  | cons c others inductionHypothesis =>
    obtain ⟨blank, othersBlank⟩ := List.forall_mem_cons.mp all
    rw [List.cons_append, scanAll, if_pos blank, inductionHypothesis othersBlank]

/-- A punctuation mark is a token. -/
theorem scanAll_punctuation (before : List Token) (c : Char) (rest : List Char) (token : Token)
    (stands : punctuation? c = some token) :
    scanAll before (c :: rest) = scanAll (token :: before) rest :=
  scanAll_of_scan before (c :: rest) rest token (by rw [scan, stands])

/-- A quoted string is a token. -/
theorem scanAll_quote (before : List Token) (content : Option String) (rest : List Char) :
    scanAll before (quote content ++ rest) = scanAll (.text content :: before) rest :=
  scanAll_of_scan before _ rest _ (scan_quote content rest)

/-- A digit begins a number. -/
theorem scan_of_digit (c : Char) (rest : List Char) (digit : isDigit c = true) :
    scan (c :: rest) =
      (scanNumber false (c :: rest)).map fun (value, rest) => (.number value, rest) := by
  have noPunctuation : punctuation? c = none := by
    unfold punctuation?
    split
    case h_7 => rfl
    all_goals
      revert digit
      decide
  have notQuote : c ≠ '"' := by
    rintro rfl
    revert digit
    decide
  have notMinus : c ≠ '-' := by
    rintro rfl
    revert digit
    decide
  simp only [scan, noPunctuation, notQuote, notMinus, digit, if_false, if_true]

/-- A number is a token, if what follows does not go on with it. -/
theorem scanAll_spelling (before : List Token) (number : Number) (rest : List Char)
    (stops : HeadAvoids continuesNumber rest) :
    scanAll before (number.spelling ++ rest) = scanAll (.number number :: before) rest := by
  have scanned := scanNumber_spelling number rest stops
  refine scanAll_of_scan before _ rest _ ?_
  rw [number.spelling_eq, List.append_assoc, List.append_assoc, List.append_assoc]
  cases sign : number.negative with
  | true =>
    have noPunctuation : punctuation? '-' = none := rfl
    simp only [sign] at scanned
    simp only [if_true, List.cons_append, List.nil_append, scan, noPunctuation, scanned]
    rfl
  | false =>
    simp only [sign] at scanned
    obtain ⟨c, digits, spelled⟩ : ∃ c digits, decimal number.whole = c :: digits :=
      List.exists_cons_of_ne_nil Nat.toDigits_ne_nil
    have digit : isDigit c = true :=
      isDigit_of_mem_decimal number.whole c (spelled ▸ List.mem_cons_self)
    rw [spelled, List.cons_append] at scanned ⊢
    rw [if_neg Bool.false_ne_true, List.nil_append, scan_of_digit c _ digit, scanned]
    rfl

end Token

namespace Layout

/-- A line break consists of blanks. -/
theorem blank_of_lineBreak (layout : Layout) (level : Nat) :
    ∀ c ∈ layout.lineBreak level, isBlank c = true := by
  intro c member
  cases layout with
  | compact => cases member
  | indented =>
    rcases List.mem_cons.mp member with rfl | space
    · rfl
    · obtain rfl := List.eq_of_mem_replicate space
      rfl

/-- A line break is passed over. -/
theorem scanAll_lineBreak (layout : Layout) (level : Nat) (before : List Token)
    (rest : List Char) :
    Token.scanAll before (layout.lineBreak level ++ rest) = Token.scanAll before rest :=
  Token.scanAll_blanks before _ rest (layout.blank_of_lineBreak level)

/-- A colon is a token, with a blank behind it or without one. -/
theorem scanAll_colon (layout : Layout) (before : List Token) (rest : List Char) :
    Token.scanAll before (layout.colon ++ rest) = Token.scanAll (.colon :: before) rest := by
  cases layout with
  | compact => exact Token.scanAll_punctuation before ':' rest .colon rfl
  | indented =>
    rw [colon, List.cons_append, Token.scanAll_punctuation before ':' _ .colon rfl]
    exact Token.scanAll_blanks _ [' '] rest (List.forall_mem_singleton.mpr rfl)

/-- A container goes on with what ends a number. -/
theorem stops_lineBreak (layout : Layout) (level : Nat) (rest : List Char)
    (stops : HeadAvoids continuesNumber rest) :
    HeadAvoids continuesNumber (layout.lineBreak level ++ rest) := by
  cases layout with
  | compact => exact stops
  | indented =>
    rintro c ⟨⟩
    rfl

end Layout

namespace Value

/-- What is printed of more items ends a number. -/
theorem stops_printItems (layout : Layout) (level : Nat) (items : List Value) (rest : List Char)
    (stops : HeadAvoids continuesNumber rest) :
    HeadAvoids continuesNumber (print.printItems layout level items ++ rest) := by
  cases items with
  | nil => exact stops
  | cons item items => exact .of_cons ',' _ rfl

/-- What is printed of more members ends a number. -/
theorem stops_printMembers (layout : Layout) (level : Nat)
    (members : List (Option String × Value)) (rest : List Char)
    (stops : HeadAvoids continuesNumber rest) :
    HeadAvoids continuesNumber (print.printMembers layout level members ++ rest) := by
  cases members with
  | nil => exact stops
  | cons member members => exact .of_cons ',' _ rfl

mutual

/-- A value is cut into its tokens, wherever it stands. -/
theorem scanAll_print (layout : Layout) (level : Nat) (value : Value) (before : List Token)
    (rest : List Char) (stops : HeadAvoids continuesNumber rest) :
    Token.scanAll before (value.print layout level ++ rest) =
      Token.scanAll (value.tokens.reverse ++ before) rest := by
  match value with
  | .null => exact Token.scanAll_of_scan before _ rest .null rfl
  | .truth true => exact Token.scanAll_of_scan before _ rest (.truth true) rfl
  | .truth false => exact Token.scanAll_of_scan before _ rest (.truth false) rfl
  | .number spelled => exact Token.scanAll_spelling before spelled rest stops
  | .text content => exact Token.scanAll_quote before content rest
  | .list [] =>
    simp only [print, List.cons_append, List.nil_append]
    rw [Token.scanAll_punctuation before '[' _ .openList rfl,
      Token.scanAll_punctuation _ ']' _ .closeList rfl]
    rfl
  | .list (item :: items) =>
    -- a number at the end of the list must not run on into the bracket
    have close : HeadAvoids continuesNumber (layout.lineBreak level ++ ']' :: rest) :=
      layout.stops_lineBreak level _ (.of_cons ']' rest rfl)
    have itemScanned := scanAll_print layout (level + 1) item (.openList :: before)
      (print.printItems layout level items ++ (layout.lineBreak level ++ ']' :: rest))
      (stops_printItems layout level items _ close)
    have itemsScanned := scanAll_printItems layout level items
    simp only [print, List.cons_append, List.append_assoc, List.nil_append, tokens]
    rw [Token.scanAll_punctuation before '[' _ .openList rfl, layout.scanAll_lineBreak,
      itemScanned, itemsScanned _ _ close, layout.scanAll_lineBreak,
      Token.scanAll_punctuation _ ']' rest .closeList rfl]
    simp
  | .object [] =>
    simp only [print, List.cons_append, List.nil_append]
    rw [Token.scanAll_punctuation before '\x7b' _ .openObject rfl,
      Token.scanAll_punctuation _ '\x7d' _ .closeObject rfl]
    rfl
  | .object ((key, value) :: members) =>
    have close : HeadAvoids continuesNumber (layout.lineBreak level ++ '\x7d' :: rest) :=
      layout.stops_lineBreak level _ (.of_cons '\x7d' rest rfl)
    have valueScanned := scanAll_print layout (level + 1) value
      (.colon :: .text key :: .openObject :: before)
      (print.printMembers layout level members ++ (layout.lineBreak level ++ '\x7d' :: rest))
      (stops_printMembers layout level members _ close)
    have membersScanned := scanAll_printMembers layout level members
    simp only [print, List.cons_append, List.append_assoc, List.nil_append, tokens]
    rw [Token.scanAll_punctuation before '\x7b' _ .openObject rfl, layout.scanAll_lineBreak,
      Token.scanAll_quote, layout.scanAll_colon, valueScanned, membersScanned _ _ close,
      layout.scanAll_lineBreak, Token.scanAll_punctuation _ '\x7d' rest .closeObject rfl]
    simp

/-- Further items are cut into their tokens. -/
theorem scanAll_printItems (layout : Layout) (level : Nat) (items : List Value)
    (before : List Token) (rest : List Char) (stops : HeadAvoids continuesNumber rest) :
    Token.scanAll before (print.printItems layout level items ++ rest) =
      Token.scanAll ((tokens.tokensOfItems items).reverse ++ before) rest := by
  match items with
  | [] => rfl
  | item :: items =>
    have itemScanned := scanAll_print layout (level + 1) item (.comma :: before)
      (print.printItems layout level items ++ rest) (stops_printItems layout level items rest stops)
    have itemsScanned := scanAll_printItems layout level items
    simp only [print.printItems, List.cons_append, List.append_assoc, tokens.tokensOfItems]
    rw [Token.scanAll_punctuation before ',' _ .comma rfl, layout.scanAll_lineBreak, itemScanned,
      itemsScanned _ rest stops]
    simp

/-- Further members are cut into their tokens. -/
theorem scanAll_printMembers (layout : Layout) (level : Nat)
    (members : List (Option String × Value)) (before : List Token) (rest : List Char)
    (stops : HeadAvoids continuesNumber rest) :
    Token.scanAll before (print.printMembers layout level members ++ rest) =
      Token.scanAll ((tokens.tokensOfMembers members).reverse ++ before) rest := by
  match members with
  | [] => rfl
  | (key, value) :: members =>
    have valueScanned := scanAll_print layout (level + 1) value
      (.colon :: .text key :: .comma :: before)
      (print.printMembers layout level members ++ rest)
      (stops_printMembers layout level members rest stops)
    have membersScanned := scanAll_printMembers layout level members
    simp only [print.printMembers, List.cons_append, List.append_assoc, tokens.tokensOfMembers]
    rw [Token.scanAll_punctuation before ',' _ .comma rfl, layout.scanAll_lineBreak,
      Token.scanAll_quote, layout.scanAll_colon, valueScanned, membersScanned _ rest stops]
    simp

end

/-! ## Building values up -/

/-- Every value begins with a token that ends no list. -/
theorem tokens_eq_cons (value : Value) :
    ∃ first rest, value.tokens = first :: rest ∧ first ≠ .closeList := by
  match value with
  | .null | .truth _ | .number _ | .text _ => exact ⟨_, _, rfl, nofun⟩
  | .list [] | .list (_ :: _) => exact ⟨.openList, _, rfl, nofun⟩
  | .object [] | .object (_ :: _) => exact ⟨.openObject, _, rfl, nofun⟩

/-- The first item of a list is read as any other value. -/
theorem foldlM_firstItem (stack : List Open) (value : Value) (rest : List Token) :
    (value.tokens ++ rest).foldlM Reader.step ⟨stack, .firstItem⟩ =
      (value.tokens ++ rest).foldlM Reader.step ⟨.list [] :: stack, .value⟩ := by
  obtain ⟨first, others, begins, notClose⟩ := value.tokens_eq_cons
  have same : Reader.step ⟨stack, .firstItem⟩ first =
      Reader.step ⟨.list [] :: stack, .value⟩ first := by
    cases first with
    | closeList => exact absurd rfl notClose
    | _ => rfl
  rw [begins, List.cons_append, List.foldlM_cons, List.foldlM_cons, same]

mutual

/-- The tokens of a value build it up, whatever is open around it. -/
theorem foldlM_tokens (value : Value) (stack : List Open) (rest : List Token) :
    (value.tokens ++ rest).foldlM Reader.step ⟨stack, .value⟩ =
      rest.foldlM Reader.step ⟨stack, .afterValue value⟩ := by
  match value with
  | .null | .truth _ | .number _ | .text _ => rfl
  | .list [] => rfl
  | .list (item :: items) =>
    -- the first item finds the list just opened, every further one the items before it
    have itemRead := foldlM_tokens item (.list [] :: stack)
    have itemsRead := foldlM_tokensOfItems items [] item stack rest
    have opened : Reader.step ⟨stack, .value⟩ .openList = some ⟨stack, .firstItem⟩ := rfl
    simp only [tokens, List.cons_append, List.append_assoc, List.nil_append, List.foldlM_cons,
      opened, Option.bind_eq_bind, Option.bind_some, foldlM_firstItem, itemRead, itemsRead,
      List.reverse_nil]
  | .object [] => rfl
  | .object ((key, value) :: members) =>
    have valueRead := foldlM_tokens value (.object [] key :: stack)
    have membersRead := foldlM_tokensOfMembers members [] key value stack rest
    have opened : Reader.step ⟨stack, .value⟩ .openObject = some ⟨stack, .firstKey⟩ := rfl
    have keyed : Reader.step ⟨stack, .firstKey⟩ (.text key) = some ⟨stack, .colon [] key⟩ := rfl
    have colon : Reader.step ⟨stack, .colon [] key⟩ .colon =
      some ⟨.object [] key :: stack, .value⟩ := rfl
    simp only [tokens, List.cons_append, List.append_assoc, List.nil_append, List.foldlM_cons,
      opened, keyed, colon, Option.bind_eq_bind, Option.bind_some, valueRead, membersRead,
      List.reverse_nil]

/-- The tokens of further items add them to the list that is open. -/
theorem foldlM_tokensOfItems (items : List Value) (before : List Value) (value : Value)
    (stack : List Open) (rest : List Token) :
    (tokens.tokensOfItems items ++ .closeList :: rest).foldlM Reader.step
        ⟨.list before :: stack, .afterValue value⟩ =
      rest.foldlM Reader.step
        ⟨stack, .afterValue (.list (before.reverse ++ value :: items))⟩ := by
  match items with
  | [] =>
    have closed : Reader.step ⟨.list before :: stack, .afterValue value⟩ .closeList =
      some ⟨stack, .afterValue (.list (value :: before).reverse)⟩ := rfl
    rw [tokens.tokensOfItems, List.nil_append, List.foldlM_cons, closed, List.reverse_cons]
    rfl
  | item :: items =>
    have itemRead := foldlM_tokens item (.list (value :: before) :: stack)
    have itemsRead := foldlM_tokensOfItems items (value :: before) item stack rest
    have comma : Reader.step ⟨.list before :: stack, .afterValue value⟩ .comma =
      some ⟨.list (value :: before) :: stack, .value⟩ := rfl
    simp only [tokens.tokensOfItems, List.cons_append, List.append_assoc, List.foldlM_cons, comma,
      Option.bind_eq_bind, Option.bind_some, itemRead, itemsRead, List.reverse_cons,
      List.nil_append]

/-- The tokens of further members add them to the object that is open. -/
theorem foldlM_tokensOfMembers (members before : Members) (key : Option String) (value : Value)
    (stack : List Open) (rest : List Token) :
    (tokens.tokensOfMembers members ++ .closeObject :: rest).foldlM Reader.step
        ⟨.object before key :: stack, .afterValue value⟩ =
      rest.foldlM Reader.step
        ⟨stack, .afterValue (.object (before.reverse ++ (key, value) :: members))⟩ := by
  match members with
  | [] =>
    have closed : Reader.step ⟨.object before key :: stack, .afterValue value⟩ .closeObject =
      some ⟨stack, .afterValue (.object ((key, value) :: before).reverse)⟩ := rfl
    rw [tokens.tokensOfMembers, List.nil_append, List.foldlM_cons, closed, List.reverse_cons]
    rfl
  | (next, content) :: members =>
    have contentRead := foldlM_tokens content (.object ((key, value) :: before) next :: stack)
    have membersRead :=
      foldlM_tokensOfMembers members ((key, value) :: before) next content stack rest
    have comma : Reader.step ⟨.object before key :: stack, .afterValue value⟩ .comma =
      some ⟨stack, .key ((key, value) :: before)⟩ := rfl
    have keyed : Reader.step ⟨stack, .key ((key, value) :: before)⟩ (.text next) =
      some ⟨stack, .colon ((key, value) :: before) next⟩ := rfl
    have colon : Reader.step ⟨stack, .colon ((key, value) :: before) next⟩ .colon =
      some ⟨.object ((key, value) :: before) next :: stack, .value⟩ := rfl
    simp only [tokens.tokensOfMembers, List.cons_append, List.append_assoc, List.foldlM_cons,
      comma, keyed, colon, Option.bind_eq_bind, Option.bind_some, contentRead, membersRead,
      List.reverse_cons, List.nil_append]

end

/-- Every value is read back from its text, in both layouts.

What ends a number is never part of one, so the text falls apart into the tokens of the value; and
the reader builds each part up on top of what is open around it. -/
theorem parse?_print (layout : Layout) (value : Value) :
    parse? (String.ofList (value.print layout 0)) = some value := by
  have scanned := value.scanAll_print layout 0 [] [] nofun
  have read := value.foldlM_tokens [] []
  rw [List.append_nil, List.append_nil, Token.scanAll, List.reverse_reverse] at scanned
  rw [List.append_nil] at read
  rw [parse?, String.toList_ofList, scanned, Option.bind_some, ofTokens?, Reader.start, read]
  rfl

end Value

end Conformance.Json
