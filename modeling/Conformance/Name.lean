import Conformance.Sorted.Map
import Conformance.Sorted.Set
import Conformance.Text.Blank
import Conformance.Text.Segments

/-!
# Type names

A type is known by its fully qualified name, a text whose segments are separated by
double colons. Names are opaque: two names are equal when their texts are, and they
are ordered by code points. Text that comes from outside is checked by `Name.parse`.
-/

namespace Conformance

/-- The fully qualified name of a type. -/
structure Name where
  text : String
deriving DecidableEq, Inhabited

namespace Name

/-- Names are ordered as their texts. -/
instance : Ord Name := ⟨compareOn Name.text⟩

instance : Std.TransOrd Name := inferInstanceAs (Std.TransCmp (compareOn Name.text))

instance : Std.LawfulEqOrd Name where
  eq_of_compare {left right} equal := by
    have texts : left.text = right.text := Std.LawfulEqOrd.eq_of_compare (α := String) equal
    cases left
    cases right
    cases texts
    rfl

/-- The separator between the segments of a name. -/
def separator : String := "::"

/-- The greatest number of bytes that a name read from outside may have. -/
def maxBytes : Nat := 1024

/-- Why a text is not a name. -/
inductive Malformed where
  /-- Nothing but blanks. -/
  | empty
  /-- More than `maxBytes` bytes after trimming. -/
  | tooLong
  /-- A blank inside the trimmed text. -/
  | blank (text : String)
deriving DecidableEq

/-- The wording of a refusal. -/
def Malformed.message : Malformed → String
  | .empty => "type name must not be empty"
  | .tooLong => "type name exceeds maximum length"
  | .blank text => "type name `" ++ text ++ "` must not contain whitespace"

/-- Reads a name from outside. The blanks around it are dropped; what remains has to be neither
empty nor too long nor blank inside, and the first of these that fails is reported. -/
def parse (raw : String) : Except Malformed Name :=
  let trimmed := Text.trim raw
  if trimmed.isEmpty then .error .empty
  else if maxBytes < trimmed.utf8ByteSize then .error .tooLong
  else if Text.hasBlank trimmed then .error (.blank trimmed)
  else .ok ⟨trimmed⟩

/-- Blanks around a text do not matter. -/
theorem parse_trim (raw : String) : parse (Text.trim raw) = parse raw := by
  simp only [parse, Text.trim_trim]

/-- A name that was read is the trimmed text. -/
theorem eq_trim_of_parse (raw : String) (name : Name) (read : parse raw = .ok name) :
    name = ⟨Text.trim raw⟩ := by
  unfold parse at read
  simp only at read
  split at read
  · cases read
  · split at read
    · cases read
    · split at read
      · cases read
      · exact (Except.ok.inj read).symm

/-- The last segment: all that follows the last separator, or the whole name without one. -/
def simpleName (name : Name) : String :=
  match Text.cutLast? name.text.toList with
  | some (_, back) => String.ofList back
  | none => name.text

/-- All that precedes the last separator, or nothing without one. -/
def modulePath (name : Name) : String :=
  match Text.cutLast? name.text.toList with
  | some (front, _) => String.ofList front
  | none => ""

/-- Whether the name begins with the given text. Every name begins with the empty text. -/
def isWithin (name : Name) (path : String) : Bool := path.toList.isPrefixOf name.text.toList

/-- A name is within a path if it begins with it. -/
theorem isWithin_iff (name : Name) (path : String) :
    name.isWithin path = true ↔ ∃ rest, name.text = path ++ rest := by
  rw [isWithin, List.isPrefixOf_iff_prefix]
  constructor
  · rintro ⟨rest, divided⟩
    refine ⟨String.ofList rest, String.ext ?_⟩
    rw [String.toList_append, String.toList_ofList, divided]
  · rintro ⟨rest, divided⟩
    rw [divided, String.toList_append]
    exact List.prefix_append _ _

end Name

/-- A set of names, least first. -/
abbrev NameSet := SortedSet Name

end Conformance
