import Conformance.Name

/-!
# The two parts of a name

A name with separators is divided at the last of them: the path of a module stands before it
and the simple name behind it. Separators overlap where three or more colons stand in a row,
and all of them count. So the last one is told by what follows its first colon, where no other
one begins (`Name.DividedAtLast`). Every separator before it leaves more behind, so no other
division has as short a simple name.

A name without separators is its own simple name, and its path is empty. Names with separators
are told apart by their parts; a name `a` and a name `::a` have the same ones.

Main statement: `Name.divided_at_last_separator`.
-/

namespace Conformance.Name

/-- Whether a text holds the separator of names anywhere. -/
def HoldsSeparator (text : String) : Prop := ∃ front back, text = front ++ separator ++ back

/-- A separator is two colons next to each other. -/
theorem holdsSeparator_iff (text : String) :
    HoldsSeparator text ↔ [':', ':'] <:+: text.toList := by
  constructor
  · rintro ⟨front, back, rfl⟩
    exact ⟨front.toList, back.toList, by simp [separator]⟩
  · rintro ⟨front, back, whole⟩
    exact ⟨String.ofList front, String.ofList back, String.ext (by simp [separator, ← whole])⟩

/-- A text is divided at a separator that no other one follows, not even one that begins with its
second colon. -/
structure DividedAtLast (text path simple : String) : Prop where
  whole : text = path ++ separator ++ simple
  last : ¬ HoldsSeparator (":" ++ simple)

/-- Such a division is the one that is cut out of the text. -/
theorem dividedAtLast_iff (text path simple : String) : DividedAtLast text path simple ↔
    Text.cutLast? text.toList = some (path.toList, simple.toList) := by
  have last : HoldsSeparator (":" ++ simple) ↔ [':', ':'] <:+: ':' :: simple.toList := by
    simp [holdsSeparator_iff]
  have whole : text = path ++ separator ++ simple ↔
      text.toList = path.toList ++ ':' :: ':' :: simple.toList := by
    simp [← String.toList_inj, separator]
  rw [Text.cutLast?_eq_some_iff, ← whole, ← last]
  exact ⟨fun divided => ⟨divided.whole, divided.last⟩, fun ⟨whole, last⟩ => ⟨whole, last⟩⟩

/-- Wherever there is a separator, there is a last one. -/
theorem exists_dividedAtLast (text : String) (holds : HoldsSeparator text) :
    ∃ path simple, DividedAtLast text path simple := by
  cases cut : Text.cutLast? text.toList with
  | none => exact absurd ((holdsSeparator_iff text).mp holds) ((Text.cutLast?_eq_none_iff _).mp cut)
  | some parts =>
    refine ⟨String.ofList parts.1, String.ofList parts.2, (dividedAtLast_iff _ _ _).mpr ?_⟩
    rw [cut, String.toList_ofList, String.toList_ofList]

namespace DividedAtLast

variable {text path simple : String} (divided : DividedAtLast text path simple)
include divided

/-- There is no separator behind the last one. -/
theorem bare : ¬ HoldsSeparator simple := by
  rintro ⟨front, back, whole⟩
  exact divided.last ⟨":" ++ front, back, by simp only [whole, String.append_assoc]⟩

/-- Any other division leaves more behind its separator, and what it leaves ends in what the last
one does. -/
theorem shortest (otherPath otherSimple : String)
    (other : text = otherPath ++ separator ++ otherSimple) :
    (otherPath = path ∧ otherSimple = simple) ∨
      ∃ more, more ≠ "" ∧ otherSimple = more ++ simple := by
  have chars : text.toList = otherPath.toList ++ ':' :: ':' :: otherSimple.toList := by
    simp [other, separator]
  have cut := (dividedAtLast_iff text path simple).mp divided
  rw [chars] at cut
  rcases Text.cutLast?_shortest _ _ _ _ cut with ⟨samePath, sameSimple⟩ | ⟨more, proper, longer⟩
  · exact .inl ⟨String.ext samePath, String.ext sameSimple⟩
  · refine .inr ⟨String.ofList more, ?_, String.ext ?_⟩
    · rwa [ne_eq, ← String.toList_eq_nil_iff, String.toList_ofList]
    · rw [longer, String.toList_append, String.toList_ofList]

end DividedAtLast

section

variable (name : Name)

/-- The parts of a name are those of the division at its last separator. -/
theorem parts_of_divided {path simple : String} (divided : DividedAtLast name.text path simple) :
    name.modulePath = path ∧ name.simpleName = simple := by
  rw [modulePath, simpleName, (dividedAtLast_iff _ _ _).mp divided]
  exact ⟨String.ofList_toList, String.ofList_toList⟩

/-- The parts of a name with a separator divide it at the last one. -/
theorem dividedAtLast_parts (holds : HoldsSeparator name.text) :
    DividedAtLast name.text name.modulePath name.simpleName := by
  obtain ⟨path, simple, divided⟩ := exists_dividedAtLast name.text holds
  obtain ⟨rfl, rfl⟩ := name.parts_of_divided divided
  exact divided

/-- A name without a separator is its own simple name, and has no module. -/
theorem parts_of_undivided (bare : ¬ HoldsSeparator name.text) :
    name.simpleName = name.text ∧ name.modulePath = "" := by
  rw [holdsSeparator_iff, ← Text.cutLast?_eq_none_iff] at bare
  rw [modulePath, simpleName, bare]
  exact ⟨rfl, rfl⟩

/-- What the parts of a name have to be. -/
structure Parted : Prop where
  /-- The simple name holds no separator. -/
  bare : ¬ HoldsSeparator name.simpleName
  /-- Around a separator, the parts are the whole name. -/
  whole : HoldsSeparator name.text → name.text = name.modulePath ++ separator ++ name.simpleName
  /-- Of all ways to divide the name at a separator, this is the one with the shortest second part:
  in each of the others, there is more before the simple name. -/
  shortest : ∀ path simple, name.text = path ++ separator ++ simple →
    (path = name.modulePath ∧ simple = name.simpleName) ∨
      (name.simpleName.length < simple.length ∧ ∃ more, simple = more ++ name.simpleName)
  undivided : ¬ HoldsSeparator name.text → name.simpleName = name.text ∧ name.modulePath = ""
  within : name.isWithin name.modulePath = true
  /-- No other name with a separator has the same parts. -/
  alone : HoldsSeparator name.text → ∀ other : Name, HoldsSeparator other.text →
    other.modulePath = name.modulePath → other.simpleName = name.simpleName → other = name

/-- A name with separators is divided at the last of them, and one without is left whole. -/
theorem divided_at_last_separator : name.Parted := by
  constructor
  case bare =>
    by_cases holds : HoldsSeparator name.text
    · exact (name.dividedAtLast_parts holds).bare
    · rwa [(name.parts_of_undivided holds).1]
  case whole => exact fun holds => (name.dividedAtLast_parts holds).whole
  case shortest =>
    intro path simple divided
    have parts := name.dividedAtLast_parts ⟨path, simple, divided⟩
    rcases parts.shortest path simple divided with same | longer
    · exact .inl same
    · obtain ⟨more, proper, rfl⟩ := longer
      refine .inr ⟨?_, more, rfl⟩
      have positive : more.length ≠ 0 := by simpa [← String.length_toList] using proper
      rw [String.length_append]
      omega
  case undivided => exact name.parts_of_undivided
  case within =>
    rw [isWithin_iff]
    by_cases holds : HoldsSeparator name.text
    · refine ⟨separator ++ name.simpleName, ?_⟩
      rw [← String.append_assoc, ← (name.dividedAtLast_parts holds).whole]
    · refine ⟨name.text, ?_⟩
      rw [(name.parts_of_undivided holds).2, String.empty_append]
  case alone =>
    intro holds other otherHolds samePath sameSimple
    have same := (other.dividedAtLast_parts otherHolds).whole
    rw [samePath, sameSimple, ← (name.dividedAtLast_parts holds).whole] at same
    exact congrArg Name.mk same

/-- Of separators that overlap, the last one counts. -/
example : ["a:::b", "a::::", "::", "a:b"].map (fun text =>
      (Name.modulePath ⟨text⟩, Name.simpleName ⟨text⟩)) =
    [("a:", "b"), ("a::", ""), ("", ""), ("", "a:b")] := by
  decide

end

end Conformance.Name
