import Conformance.Text.Segments

/-!
# Texts as the operating system has them

Paths and variables are bytes. Most of them are UTF-8 and read as a text, which `text?`
tells. All of them can be shown: what is no character is shown as U+FFFD, once for every
longest run of bytes that a character could start with, and once for every byte that no
character starts with (`lossy`). The bytes are read one after another, and what is known
of a character that has not ended is a `Fragment`.

A text is shown as it is (`lossy_ofString`) and is cut where its bytes are
(`segments_ofString`), since only the slash itself has its byte.
-/

namespace Conformance

/-- A text as the operating system has it: bytes, which need not be UTF-8. -/
structure NativeText where
  bytes : List UInt8
deriving DecidableEq

namespace NativeText

/-- A text in UTF-8. -/
def ofString (text : String) : NativeText := ⟨text.toList.flatMap String.utf8EncodeChar⟩

/-- The text that the bytes encode. There is none if they are not UTF-8. -/
def text? (text : NativeText) : Option String := String.fromUTF8? text.bytes.toByteArray

/-- The bytes of a text in UTF-8 are its encoding as a whole. -/
theorem toByteArray_ofString (text : String) :
    (ofString text).bytes.toByteArray = text.toByteArray := by
  have kept : text.toList.utf8Encode = text.toByteArray := by
    rw [← String.toByteArray_ofList, String.ofList_toList]
  rw [← kept]
  rfl

/-- Encoding a text and decoding it again gives back the text. -/
theorem fromUTF8?_toUTF8 (text : String) : String.fromUTF8? text.toUTF8 = some text := by
  have valid : text.toUTF8.IsValidUTF8 := text.isValidUTF8
  rw [String.fromUTF8?, dif_pos valid]
  rfl

/-- A text in UTF-8 reads as itself. -/
@[simp]
theorem text?_ofString (text : String) : (ofString text).text? = some text := by
  rw [text?, toByteArray_ofString]
  exact fromUTF8?_toUTF8 text

/-- What reads as a text is that text in UTF-8. -/
theorem ofString_of_text? (native : NativeText) (text : String) (reads : native.text? = some text) :
    ofString text = native := by
  rw [text?, String.fromUTF8?] at reads
  split at reads
  case isFalse => cases reads
  case isTrue valid =>
    obtain rfl := Option.some.inj reads
    have same : (ofString (String.fromUTF8 _ valid)).bytes.toByteArray = native.bytes.toByteArray :=
      toByteArray_ofString _
    have bytes := congrArg (fun bytes => bytes.data.toList) same
    simp only [List.toList_data_toByteArray] at bytes
    exact congrArg NativeText.mk bytes

/-! ## Replacing what is no character -/

/-- What stands for bytes that are no character. -/
def replacement : Char := '\uFFFD'

/-- The least and the greatest of the bytes that may stand at one place in a character. -/
abbrev ByteRange := Nat × Nat

/-- The bytes that go on with a character, unless its first byte says otherwise. -/
def tail : ByteRange := (0x80, 0xBF)

/-- A character that has not ended: what its next byte may be, what those after it may be, and the
number that the bytes so far spell. -/
structure Fragment where
  next : ByteRange
  later : List ByteRange
  value : Nat

/-- What the bytes after the first one may be, and the number that the first one spells. Longer
spellings of a shorter character, surrogates and what lies beyond the last character are left
out. -/
def lead? (byte : Nat) : Option (List ByteRange × Nat) :=
  if byte ≤ 0x7F then some ([], byte)
  else if byte < 0xC2 then none
  else if byte ≤ 0xDF then some ([tail], byte - 0xC0)
  else if byte = 0xE0 then some ([(0xA0, 0xBF), tail], 0)
  else if byte = 0xED then some ([(0x80, 0x9F), tail], 0xD)
  else if byte ≤ 0xEF then some ([tail, tail], byte - 0xE0)
  else if byte = 0xF0 then some ([(0x90, 0xBF), tail, tail], 0)
  else if byte ≤ 0xF3 then some ([tail, tail, tail], byte - 0xF0)
  else if byte = 0xF4 then some ([(0x80, 0x8F), tail, tail], 4)
  else none

/-- What is shown once a byte fits, and what is left of the character. -/
def goOn (expected : List ByteRange) (value : Nat) : List Char × Option Fragment :=
  match expected with
  | [] => ([Char.ofNat value], none)
  | next :: later => ([], some ⟨next, later, value⟩)

/-- Reads a byte between characters. -/
def start (byte : Nat) : List Char × Option Fragment :=
  match lead? byte with
  | none => ([replacement], none)
  | some (expected, value) => goOn expected value

/-- Reads a byte. One that does not go on with a character ends it, and is read again as a first
byte. -/
def step (state : Option Fragment) (byte : Nat) : List Char × Option Fragment :=
  match state with
  | none => start byte
  | some fragment =>
    if fragment.next.1 ≤ byte ∧ byte ≤ fragment.next.2 then
      goOn fragment.later (fragment.value * 64 + (byte - 0x80))
    else
      let (shown, state) := start byte
      (replacement :: shown, state)

/-- Reads bytes, with what is known of a character that has not ended. -/
def decode : Option Fragment → List UInt8 → List Char
  | none, [] => []
  | some _, [] => [replacement]
  | state, byte :: rest =>
    let (shown, state) := step state byte.toNat
    shown ++ decode state rest

/-- The text with what is no character replaced. -/
def lossy (text : NativeText) : String := String.ofList (decode none text.bytes)

/-- Bytes are read one after another. -/
theorem decode_ofNat_cons (state : Option Fragment) (byte : Nat) (small : byte < 256)
    (rest : List UInt8) :
    decode state (UInt8.ofNat byte :: rest) =
      (step state byte).1 ++ decode (step state byte).2 rest := by
  have spelled : (UInt8.ofNat byte).toNat = byte := UInt8.toNat_ofNat_of_lt' small
  cases state <;> rw [decode, spelled]

/-- A byte that fits adds its last six bits to what the bytes before it spell. -/
theorem step_fits (least greatest : Nat) (later : List ByteRange) (value bits : Nat)
    (above : least ≤ bits + 0x80) (below : bits + 0x80 ≤ greatest) :
    step (some ⟨(least, greatest), later, value⟩) (bits + 0x80) =
      goOn later (value * 64 + bits) := by
  simp only [step, above, below, and_self, if_true, Nat.add_sub_cancel]

/-- A byte inside a character adds its bits, whatever else is expected. -/
theorem step_tail (later : List ByteRange) (value number : Nat) :
    step (some ⟨tail, later, value⟩) (number % 0x40 + 0x80) =
      goOn later (value * 64 + number % 0x40) :=
  step_fits 0x80 0xBF later value (number % 0x40) (by omega) (by omega)

/-- The first of two bytes. -/
theorem lead?_of_two (number : Nat) (least : 0x80 ≤ number) (greatest : number ≤ 0x7FF) :
    lead? (number / 64 % 0x20 + 0xC0) = some ([tail], number / 64) := by
  rw [lead?, if_neg (by omega), if_neg (by omega), if_pos (by omega), Nat.add_sub_cancel,
    Nat.mod_eq_of_lt (by omega)]

/-- The first of three bytes, and that the second one may follow it. Only two first bytes restrict
what follows them: the least one, and the one that surrogates start with. -/
theorem lead?_of_three (number : Nat) (least : 0x800 ≤ number) (greatest : number ≤ 0xFFFF)
    (proper : number < 0xD800 ∨ 0xDFFF < number) :
    ∃ low high, lead? (number / 4096 % 0x10 + 0xE0) = some ([(low, high), tail], number / 4096) ∧
      low ≤ number / 64 % 0x40 + 0x80 ∧ number / 64 % 0x40 + 0x80 ≤ high := by
  rw [lead?, if_neg (by omega), if_neg (by omega), if_neg (by omega)]
  by_cases first : number / 4096 = 0
  · refine ⟨0xA0, 0xBF, ?_, by omega, by omega⟩
    rw [if_pos (by omega), first]
  rw [if_neg (by omega)]
  by_cases surrogate : number / 4096 = 0xD
  · refine ⟨0x80, 0x9F, ?_, by omega, by omega⟩
    rw [if_pos (by omega), surrogate]
  · refine ⟨0x80, 0xBF, ?_, by omega, by omega⟩
    rw [if_neg (by omega), if_pos (by omega), Nat.add_sub_cancel, Nat.mod_eq_of_lt (by omega), tail]

/-- The first of four bytes, and that the second one may follow it. Only two first bytes restrict
what follows them: the least one and the greatest one. -/
theorem lead?_of_four (number : Nat) (least : 0x10000 ≤ number) (greatest : number ≤ 0x10FFFF) :
    ∃ low high,
      lead? (number / 262144 % 0x08 + 0xF0) = some ([(low, high), tail, tail], number / 262144) ∧
      low ≤ number / 4096 % 0x40 + 0x80 ∧ number / 4096 % 0x40 + 0x80 ≤ high := by
  rw [lead?, if_neg (by omega), if_neg (by omega), if_neg (by omega), if_neg (by omega),
    if_neg (by omega), if_neg (by omega)]
  by_cases first : number / 262144 = 0
  · refine ⟨0x90, 0xBF, ?_, by omega, by omega⟩
    rw [if_pos (by omega), first]
  rw [if_neg (by omega)]
  by_cases last : number / 262144 = 4
  · refine ⟨0x80, 0x8F, ?_, by omega, by omega⟩
    rw [if_neg (by omega), if_pos (by omega), last]
  · refine ⟨0x80, 0xBF, ?_, by omega, by omega⟩
    rw [if_pos (by omega), Nat.add_sub_cancel, Nat.mod_eq_of_lt (by omega), tail]

/-- The bytes of a character are read as that character, whatever follows them. -/
theorem decode_encoded (character : Char) (rest : List UInt8) :
    decode none (String.utf8EncodeChar character ++ rest) = character :: decode none rest := by
  have kept : Char.ofNat character.toNat = character := Char.ofNat_toNat character
  have valid : character.toNat < 0xD800 ∨ 0xDFFF < character.toNat ∧ character.toNat < 0x110000 :=
    character.valid
  generalize numbered : character.toNat = number at kept valid
  have numbered : character.val.toNat = number := numbered
  rw [String.utf8EncodeChar, numbered]
  -- one case for each number of bytes, as in the definition of the encoding
  split
  case isTrue one =>
    have lead : lead? number = some ([], number) := by rw [lead?, if_pos one]
    rw [List.singleton_append, decode_ofNat_cons none number (by omega)]
    simp only [step, start, lead, goOn, kept, List.singleton_append]
  split
  case isTrue more two =>
    have lead := lead?_of_two number (by omega) two
    have value : number / 64 * 64 + number % 64 = number := by omega
    simp (disch := omega) only [List.cons_append, List.nil_append, decode_ofNat_cons, step.eq_1,
      start, lead, goOn, step_tail, value, kept]
  split
  case isTrue more three =>
    obtain ⟨low, high, lead, above, below⟩ := lead?_of_three number (by omega) three (by omega)
    have value : (number / 4096 * 64 + number / 64 % 64) * 64 + number % 64 = number := by omega
    simp (disch := omega) only [List.cons_append, List.nil_append, decode_ofNat_cons, step.eq_1,
      start, lead, goOn, step_fits _ _ _ _ _ above below, step_tail, value, kept]
  case isFalse more =>
    obtain ⟨low, high, lead, above, below⟩ := lead?_of_four number (by omega) (by omega)
    have value : ((number / 262144 * 64 + number / 4096 % 64) * 64 + number / 64 % 64) * 64 +
        number % 64 = number := by omega
    simp (disch := omega) only [List.cons_append, List.nil_append, decode_ofNat_cons, step.eq_1,
      start, lead, goOn, step_fits _ _ _ _ _ above below, step_tail, value, kept]

/-- A text is shown as it is. -/
@[simp]
theorem lossy_ofString (text : String) : (ofString text).lossy = text := by
  have decoded (characters : List Char) :
      decode none (characters.flatMap String.utf8EncodeChar) = characters := by
    induction characters with
    | nil => rfl
    | cons character rest inductionHypothesis =>
      rw [List.flatMap_cons, decode_encoded, inductionHypothesis]
  rw [lossy, ofString, decoded, String.ofList_toList]

/-- Only texts are shown as they are. -/
theorem text?_eq_none_iff (native : NativeText) :
    native.text? = none ↔ ofString native.lossy ≠ native := by
  constructor
  · intro garbled same
    rw [← same, text?_ofString] at garbled
    cases garbled
  · intro changed
    cases reads : native.text? with
    | none => rfl
    | some text =>
      have same := native.ofString_of_text? text reads
      refine absurd ?_ changed
      rw [← same, lossy_ofString]

/-- What a character could start with is shown once, here both of its bytes. -/
example : (⟨[0x4B, 0xFF, 0xE2, 0x82]⟩ : NativeText).lossy = "K\uFFFD\uFFFD" := by decide

/-! ## Segments -/

/-- The byte of a slash. -/
def slash : UInt8 := 0x2F

/-- The segments between slashes. -/
def segments (text : NativeText) : List NativeText :=
  (Text.segments slash text.bytes).map NativeText.mk

/-- No byte of a longer character is that of a slash. -/
theorem slash_ne_ofNat (number : Nat) (least : 0x80 ≤ number) (small : number < 256) :
    slash ≠ UInt8.ofNat number := by
  intro same
  have spelled : (UInt8.ofNat number).toNat = number := UInt8.toNat_ofNat_of_lt' small
  have ofSlash : slash.toNat = 0x2F := rfl
  rw [← same, ofSlash] at spelled
  omega

/-- Of all characters only the slash has its byte. -/
theorem slash_not_mem_of_ne (character : Char) (different : character ≠ '/') :
    slash ∉ String.utf8EncodeChar character := by
  rw [String.utf8EncodeChar]
  split
  case isTrue one =>
    intro member
    have same := congrArg UInt8.toNat (List.mem_singleton.mp member)
    rw [UInt8.toNat_ofNat_of_lt' (Nat.lt_of_le_of_lt one (by decide))] at same
    exact different (Char.toNat_inj.mp same.symm)
  split
  case isTrue more two =>
    simp only [List.mem_cons, List.not_mem_nil, or_false, not_or]
    exact ⟨slash_ne_ofNat _ (by omega) (by omega), slash_ne_ofNat _ (by omega) (by omega)⟩
  split
  case isTrue more three =>
    simp only [List.mem_cons, List.not_mem_nil, or_false, not_or]
    exact ⟨slash_ne_ofNat _ (by omega) (by omega), slash_ne_ofNat _ (by omega) (by omega),
      slash_ne_ofNat _ (by omega) (by omega)⟩
  case isFalse more =>
    simp only [List.mem_cons, List.not_mem_nil, or_false, not_or]
    exact ⟨slash_ne_ofNat _ (by omega) (by omega), slash_ne_ofNat _ (by omega) (by omega),
      slash_ne_ofNat _ (by omega) (by omega), slash_ne_ofNat _ (by omega) (by omega)⟩

/-- The segments of a text are cut as its bytes are. -/
theorem segments_ofString (text : String) :
    (ofString text).segments = (Text.split '/' text).map ofString := by
  have cut := Text.segments_flatMap String.utf8EncodeChar '/' slash (by decide)
    slash_not_mem_of_ne text.toList
  simp only [segments, ofString, Text.split, cut, List.map_map, Function.comp_def,
    String.toList_ofList]

end NativeText

end Conformance
