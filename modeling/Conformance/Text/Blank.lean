/-!
# Blank characters

The blank characters are those with the Unicode property White_Space. Text is
trimmed by dropping the blank characters at both of its ends.
-/

namespace Conformance.Text

/-- Whether a character has the Unicode property White_Space. -/
def isBlank (c : Char) : Bool :=
  let code := c.toNat
  (0x09 ≤ code && code ≤ 0x0D) || code == 0x20 || code == 0x85 || code == 0xA0 || code == 0x1680 ||
    (0x2000 ≤ code && code ≤ 0x200A) || code == 0x2028 || code == 0x2029 || code == 0x202F ||
    code == 0x205F || code == 0x3000

/-- The characters that remain when the blank ones at both ends are dropped. -/
def trimChars (chars : List Char) : List Char :=
  ((chars.dropWhile isBlank).reverse.dropWhile isBlank).reverse

/-- A text without the blank characters at its ends. -/
def trim (text : String) : String := String.ofList (trimChars text.toList)

/-- Whether a text has a blank character anywhere. -/
def hasBlank (text : String) : Bool := text.toList.any isBlank

/-- What begins and ends with no blank character is not trimmed. -/
theorem trimChars_eq_self (chars : List Char)
    (front : ∀ c, chars.head? = some c → isBlank c = false)
    (back : ∀ c, chars.getLast? = some c → isBlank c = false) : trimChars chars = chars := by
  have stays (chars : List Char) (front : ∀ c, chars.head? = some c → isBlank c = false) :
      chars.dropWhile isBlank = chars := by
    cases chars with
    | nil => rfl
    | cons c rest => rw [List.dropWhile_cons, front c rfl, if_neg Bool.false_ne_true]
  have backReversed : ∀ c, chars.reverse.head? = some c → isBlank c = false := by
    intro c first
    exact back c (List.head?_reverse ▸ first)
  rw [trimChars, stays chars front, stays chars.reverse backReversed, List.reverse_reverse]

/-- Dropping stops at a character that is not blank. -/
theorem isBlank_of_head?_dropWhile (chars : List Char) (c : Char)
    (first : (chars.dropWhile isBlank).head? = some c) : isBlank c = false := by
  have stopped := List.head?_dropWhile_not isBlank chars
  rw [first] at stopped
  exact stopped

/-- What is trimmed begins with no blank character: it begins where the first pass stopped. -/
theorem isBlank_of_head?_trimChars (chars : List Char) (c : Char)
    (first : (trimChars chars).head? = some c) : isBlank c = false := by
  have kept : trimChars chars <+: chars.dropWhile isBlank := by
    rw [← List.reverse_suffix, trimChars, List.reverse_reverse]
    exact List.dropWhile_suffix isBlank
  obtain ⟨rest, whole⟩ := kept
  apply isBlank_of_head?_dropWhile chars c
  rw [← whole, List.head?_append, first]
  rfl

/-- What is trimmed ends with no blank character: it ends where the second pass stopped. -/
theorem isBlank_of_getLast?_trimChars (chars : List Char) (c : Char)
    (last : (trimChars chars).getLast? = some c) : isBlank c = false := by
  rw [trimChars, List.getLast?_reverse] at last
  exact isBlank_of_head?_dropWhile _ c last

/-- Trimming what is trimmed changes nothing. -/
theorem trimChars_trimChars (chars : List Char) : trimChars (trimChars chars) = trimChars chars :=
  trimChars_eq_self _ (isBlank_of_head?_trimChars chars) (isBlank_of_getLast?_trimChars chars)

/-- What is trimmed stays as it is when it is trimmed again. -/
@[simp] theorem trim_trim (text : String) : trim (trim text) = trim text := by
  rw [trim, trim, String.toList_ofList, trimChars_trimChars]

end Conformance.Text
