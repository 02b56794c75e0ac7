import Conformance.JsonForm.Basic
import Conformance.Proofs.FirstOccurrences
import Mathlib.Data.List.Basic
import Mathlib.Logic.Relation

/-!
# Edits that records do not notice

An object is read as a record by looking its fields up. So the order of its members does
not matter, nor do members that are no fields. `RecordEdit` is one such change, also
inside the value of a field, and `Value.fields_alike` says that the fields stay the same
or are changed inside. What reads a record through its fields respects these edits if
what reads each field does (`Respects.record`).
-/

namespace Conformance

open Json (Value Members)

/-! ## Edits -/

/-- What may be added to a record under a name that is no field: a string, a truth value or null. -/
inductive Json.Value.IsPlain : Value → Prop where
  | text (content : String) : IsPlain (.ofString content)
  | truth (value : Bool) : IsPlain (.truth value)
  | null : IsPlain .null

/-- No change at all. -/
def NoEdit (_before _after : Value) : Prop := False

/-- One change of a record with the given fields, whose values may change as told for each name. -/
inductive RecordEdit (known : List String) (inside : String → Value → Value → Prop) :
    Value → Value → Prop where
  /-- The members change their order. -/
  | reorder (before after : Members) (same : before.Perm after) :
    RecordEdit known inside (.object before) (.object after)
  /-- A member that is no field is added. -/
  | add (members : Members) (name : String) (value : Value) (unknown : name ∉ known)
      (plain : value.IsPlain) :
    RecordEdit known inside (.object members) (.object ((some name, value) :: members))
  /-- The value of a field changes. -/
  | inside (front back : Members) (name : String) (before after : Value)
      (changed : inside name before after) :
    RecordEdit known inside (.object (front ++ (some name, before) :: back))
      (.object (front ++ (some name, after) :: back))

/-- Changes of a record whose fields hold no objects. -/
abbrev FlatEdit (known : List String) : Value → Value → Prop := RecordEdit known fun _ => NoEdit

/-- Edits make no difference to a reader. -/
def Respects {α : Type} (edit : Value → Value → Prop) (read? : Value → Option α) : Prop :=
  ∀ before after, edit before after → read? before = read? after

namespace Respects

variable {α : Type} {edit : Value → Value → Prop} {read? : Value → Option α}

/-- Where there is no edit, there is nothing to respect. -/
theorem noEdit : Respects NoEdit read? := fun _ _ => False.elim

/-- Any number of edits make no difference either. -/
theorem closure (respects : Respects edit read?) :
    Respects (Relation.ReflTransGen edit) read? := by
  intro before after edits
  induction edits with
  | refl => rfl
  | tail _ edited inductionHypothesis => exact inductionHypothesis.trans (respects _ _ edited)

end Respects

/-! ## Members and fields -/

namespace Json.Value

/-- The members whose keys have a text. -/
def texts (members : Members) : List (String × Value) :=
  members.filterMap fun (key, value) => key.map (·, value)

/-- Whether the keys of all members have a text. -/
def allTexts (members : Members) : Bool := members.all fun (key, _) => key.isSome

/-- If all keys have a text, the members by key are those texts and their values. -/
theorem keyed?_eq (members : Members) :
    keyed? members = if allTexts members then some (texts members) else none := by
  induction members with
  | nil => rfl
  | cons member rest inductionHypothesis =>
    obtain ⟨key, value⟩ := member
    rw [keyed?, List.mapM_cons, ← keyed?, inductionHypothesis]
    cases key with
    | none => rfl
    | some key =>
      simp only [allTexts, texts, List.all_cons, Option.isSome_some, Bool.true_and,
        Option.map_some]
      split <;> rfl

/-- A member whose key has a text stands among the texts. -/
theorem texts_cons (name : String) (value : Value) (members : Members) :
    texts ((some name, value) :: members) = (name, value) :: texts members := rfl

/-- Whether all members that are no fields can be passed over. -/
def othersPass (known : List String) (rules : RecordRules) (members : List (String × Value)) :
    Bool :=
  (members.filter fun (key, _) => !known.contains key).all fun (_, value) => rules.passes value

/-- The fields of an object are looked up among its members. -/
theorem fields?_members (known : List String) (rules : RecordRules) (members : Members) :
    fields? known rules (.object members) =
      if allTexts members && (hasOnce known (texts members) &&
          othersPass known rules (texts members)) then
        some ⟨false, fun name => List.lookup name (texts members)⟩
      else none := by
  rw [fields?, keyed?_eq]
  cases allTexts members <;> rfl

/-- Read strictly, an object gives its fields if all keys have a text and every field occurs at most
once. -/
theorem fields?_object (known : List String) (members : Members) :
    fields? known .strict (.object members) =
      if allTexts members && hasOnce known (texts members) then
        some ⟨false, fun name => List.lookup name (texts members)⟩
      else none := by
  have passed : othersPass known .strict (texts members) = true :=
    List.all_eq_true.mpr fun _ _ => rfl
  rw [fields?_members, passed, Bool.and_true]

/-- The order of members does not matter to whether all keys have a text. -/
theorem allTexts_perm {before after : Members} (same : before.Perm after) :
    allTexts before = allTexts after := same.all_eq

/-- Members in another order have the same texts in another order. -/
theorem texts_perm {before after : Members} (same : before.Perm after) :
    (texts before).Perm (texts after) := same.filterMap _

/-- The order of members does not matter to whether every field occurs at most once. -/
theorem hasOnce_perm (known : List String) {before after : List (String × Value)}
    (same : before.Perm after) : hasOnce known before = hasOnce known after := by
  simp only [hasOnce, same.countP_eq]

/-- The order of members does not matter to a lookup of a name that occurs once. -/
theorem lookup_perm (name : String) {before after : List (String × Value)}
    (same : before.Perm after) (once : (before.countP fun (key, _) => key = name) ≤ 1) :
    List.lookup name before = List.lookup name after := by
  induction same with
  | nil => rfl
  | cons member _ inductionHypothesis =>
    obtain ⟨key, value⟩ := member
    by_cases found : name = key
    · simp [found]
    · rw [List.countP_cons_of_neg (by simpa using Ne.symm found)] at once
      rw [lookup_cons_of_ne _ _ found, lookup_cons_of_ne _ _ found, inductionHypothesis once]
  | swap first second rest =>
    obtain ⟨firstKey, firstValue⟩ := first
    obtain ⟨secondKey, secondValue⟩ := second
    by_cases firstFound : name = firstKey
    · subst firstFound
      by_cases secondFound : name = secondKey
      · simp [secondFound] at once
      · rw [lookup_cons_of_ne _ _ secondFound, List.lookup_cons_self, List.lookup_cons_self]
    · rw [lookup_cons_of_ne _ (_ :: _) firstFound]
      by_cases secondFound : name = secondKey
      · subst secondFound
        rw [List.lookup_cons_self, List.lookup_cons_self]
      · rw [lookup_cons_of_ne _ _ secondFound, lookup_cons_of_ne _ _ secondFound,
          lookup_cons_of_ne _ _ firstFound]
  | trans one _ firstHypothesis secondHypothesis =>
    exact (firstHypothesis once).trans (secondHypothesis (one.countP_eq _ ▸ once))

end Json.Value

/-- The fields of two records are the same, or changed inside. -/
structure Fields.Alike (known : List String) (inside : String → Value → Value → Prop)
    (left right : Fields) : Prop where
  positional : left.positional = right.positional
  values : ∀ name ∈ known, left.value? name = right.value? name ∨
    ∃ before after, left.value? name = some before ∧ right.value? name = some after ∧
      inside name before after

namespace Json.Value

variable (known : List String) (inside : String → Value → Value → Prop)

/-- Two objects whose members differ only where it does not matter have fields alike, or none. -/
theorem fields_alike_of_members (before after : Members)
    (texted : allTexts before = allTexts after)
    (once : hasOnce known (texts before) = hasOnce known (texts after))
    (lookups : hasOnce known (texts before) = true → ∀ name ∈ known,
      List.lookup name (texts before) = List.lookup name (texts after) ∨
        ∃ old new, List.lookup name (texts before) = some old ∧
          List.lookup name (texts after) = some new ∧ inside name old new) :
    (fields? known .strict (.object before) = none ∧
        fields? known .strict (.object after) = none) ∨
      ∃ left right, fields? known .strict (.object before) = some left ∧
        fields? known .strict (.object after) = some right ∧
        Fields.Alike known inside left right := by
  rw [fields?_object, fields?_object, ← texted, ← once]
  by_cases readable : (allTexts before && hasOnce known (texts before)) = true
  · refine .inr ⟨_, _, if_pos readable, if_pos readable, rfl, ?_⟩
    exact lookups (Bool.and_eq_true_iff.mp readable).2
  · exact .inl ⟨if_neg readable, if_neg readable⟩

/-- A field that is there at most once is counted at most once. -/
theorem count_le_of_hasOnce {members : List (String × Value)} (once : hasOnce known members = true)
    (name : String) (field : name ∈ known) : (members.countP fun (key, _) => key = name) ≤ 1 := by
  simpa using List.all_eq_true.mp once name field

/-- An edit of a record leaves its fields alike. -/
theorem fields_alike (before after : Value) (edited : RecordEdit known inside before after) :
    (fields? known .strict before = none ∧ fields? known .strict after = none) ∨
      ∃ left right, fields? known .strict before = some left ∧
        fields? known .strict after = some right ∧ Fields.Alike known inside left right := by
  cases edited with
  | reorder before after same =>
    refine fields_alike_of_members known inside before after (allTexts_perm same)
      (hasOnce_perm known (texts_perm same)) fun once name field => .inl ?_
    exact lookup_perm name (texts_perm same) (count_le_of_hasOnce known once name field)
  | add members name value unknown _ =>
    have others (field : String) (isField : field ∈ known) : field ≠ name := by
      rintro rfl
      exact unknown isField
    refine fields_alike_of_members known inside members _ rfl ?_ fun _ field isField => .inl ?_
    · rw [hasOnce, hasOnce, Bool.eq_iff_iff, List.all_eq_true, List.all_eq_true]
      refine forall₂_congr fun field isField => ?_
      rw [texts_cons, List.countP_cons_of_neg (by simpa using (others field isField).symm)]
    · rw [texts_cons, lookup_cons_of_ne _ _ (others field isField)]
  | inside front back name before after changed =>
    have split (value : Value) : texts (front ++ (some name, value) :: back) =
        texts front ++ (name, value) :: texts back := by
      rw [texts, List.filterMap_append]
      rfl
    refine fields_alike_of_members known inside _ _ ?_ ?_ fun _ field _ => ?_
    · simp [allTexts]
    · simp only [hasOnce, split, List.countP_append, List.countP_cons]
    · rw [split, split, List.lookup_append, List.lookup_append]
      -- a member of the same name in front is found before the one that changed
      cases List.lookup field (texts front) with
      | some value => exact .inl rfl
      | none =>
        by_cases found : field = name
        · subst found
          exact .inr ⟨before, after, by simp, by simp, changed⟩
        · rw [lookup_cons_of_ne _ _ found, lookup_cons_of_ne _ _ found]
          exact .inl rfl

end Json.Value

/-! ## Reading fields -/

namespace Fields.Alike

variable {known : List String} {inside : String → Value → Value → Prop} {left right : Fields}
variable {α : Type} {read? : Value → Option α}

/-- A field that must be there is read alike from fields alike. -/
theorem required (alike : Alike known inside left right) (name : String) (field : name ∈ known)
    (respects : Respects (inside name) read?) :
    left.required name read? = right.required name read? := by
  unfold Fields.required
  rcases alike.values name field with same | ⟨before, after, was, is, changed⟩
  · rw [same]
  · rw [was, is, Option.bind_some, Option.bind_some, respects before after changed]

/-- So is a field that something else stands for where it is absent. -/
theorem orElse (alike : Alike known inside left right) (name : String) (field : name ∈ known)
    (absent : α) (respects : Respects (inside name) read?) :
    left.orElse name absent read? = right.orElse name absent read? := by
  unfold Fields.orElse
  rcases alike.values name field with same | ⟨before, after, was, is, changed⟩
  · rw [same]
  · simp only [was, is, respects before after changed]

/-- The value of a field that may be null stays as it is. -/
theorem nullable (alike : Alike known inside left right) (name : String) (field : name ∈ known)
    (fixed : inside name = NoEdit) :
    left.nullable name read? = right.nullable name read? := by
  unfold Fields.nullable
  rcases alike.values name field with same | ⟨before, after, _, _, changed⟩
  · rw [same, alike.positional]
  · rw [fixed] at changed
    exact changed.elim

end Fields.Alike

/-- A record is read alike after an edit if it is built alike from fields that are. -/
theorem Respects.record {α : Type} {known : List String} {inside : String → Value → Value → Prop}
    {build : Fields → Option α}
    (builds : ∀ left right, Fields.Alike known inside left right → build left = build right) :
    Respects (RecordEdit known inside) fun value => (value.fields? known .strict).bind build := by
  intro before after edited
  rcases Value.fields_alike known inside before after edited with
    ⟨none, noneAfter⟩ | ⟨left, right, some, someAfter, alike⟩
  · simp only [none, noneAfter]
  · simp only [some, someAfter, Option.bind_some, builds left right alike]

end Conformance
