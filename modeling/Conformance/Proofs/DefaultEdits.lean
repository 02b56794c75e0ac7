import Conformance.Proofs.JsonEdits

/-!
# Edits that defaults allow for

A field of a record that may be absent has a default. `DefaultEdit` is one change of a record
that this allows for, also inside the value of a field: a field that holds its default goes, or
a field that is absent is spelled out with its default. In an object a field may come and go
anywhere. In a list fields are told apart by position, so there only the last item may.

What is read before such a change is read after it, if what stands for an absent field is what
its default is read as (`Preserves.record`). Nothing is said of what cannot be read before: a
field that occurs twice makes a record unreadable, and leaving one of the two out may mend it.

A record may itself be the default of a field. `HoldsDefaults` tells such records by what they
give for their own fields, and `holdsDefaults_iff` says that no others are read alike.
-/

namespace Conformance

open Json (Value Members)

/-! ## Results that are kept -/

/-- If there is a result, it stays. -/
def Kept {α : Type} (before after : Option α) : Prop :=
  ∀ result, before = some result → after = some result

namespace Kept

variable {α β : Type}

/-- What is there is kept where nothing changes. -/
theorem refl (result : Option α) : Kept result result := fun _ => id

/-- What two readings in turn read is kept if each of them keeps what it reads. -/
theorem bind {before after : Option α} {next nextAfter : α → Option β} (first : Kept before after)
    (rest : ∀ item, Kept (next item) (nextAfter item)) :
    Kept (before.bind next) (after.bind nextAfter) := by
  intro result read
  obtain ⟨item, found, read⟩ := Option.bind_eq_some_iff.mp read
  rw [first item found, Option.bind_some]
  exact rest item result read

end Kept

/-- What is read before an edit is read after it. -/
def Preserves {α : Type} (edit : Value → Value → Prop) (read? : Value → Option α) : Prop :=
  ∀ before after, edit before after → Kept (read? before) (read? after)

namespace Preserves

variable {α : Type} {edit : Value → Value → Prop} {read? : Value → Option α}

/-- Where there is no edit, everything is preserved. -/
theorem noEdit : Preserves NoEdit read? := fun _ _ => False.elim

/-- Any number of edits preserve what each of them does. -/
theorem closure (preserves : Preserves edit read?) :
    Preserves (Relation.ReflTransGen edit) read? := by
  intro before after edits
  induction edits with
  | refl => exact Kept.refl _
  | tail _ edited inductionHypothesis =>
    exact fun result read => preserves _ _ edited result (inductionHypothesis result read)

end Preserves

/-! ## Edits -/

/-- One change of what a record gives for a field. -/
inductive FieldChange (isDefault : Value → Prop) (inside : Value → Value → Prop) :
    Option Value → Option Value → Prop where
  /-- A field that holds its default is left out. -/
  | leaveOut (value : Value) (holdsDefault : isDefault value) :
    FieldChange isDefault inside (some value) none
  /-- A field that is absent is spelled out with its default. -/
  | spellOut (value : Value) (holdsDefault : isDefault value) :
    FieldChange isDefault inside none (some value)
  /-- The value of a field changes. -/
  | inside (before after : Value) (changed : inside before after) :
    FieldChange isDefault inside (some before) (some after)

/-- Members that give the field of a name this value, if any, between others. -/
def Json.Value.around (front back : Members) (name : String) (value : Option Value) : Members :=
  front ++ (value.map (some name, ·)).toList ++ back

/-- One change of a record with the given fields, whose defaults and whose changes are told for each
name. -/
inductive DefaultEdit (known : List String) (isDefault : String → Value → Prop)
    (inside : String → Value → Value → Prop) : Value → Value → Prop where
  /-- By name a field may come and go anywhere. -/
  | member (front back : Members) (name : String) (field : name ∈ known)
      (single : ∀ other ∈ front ++ back, other.1 ≠ some name) (before after : Option Value)
      (change : FieldChange (isDefault name) (inside name) before after) :
    DefaultEdit known isDefault inside
      (.object (Json.Value.around front back name before))
      (.object (Json.Value.around front back name after))
  /-- By position only the last item may. -/
  | last (front : List Value) (name : String) (field : name ∈ known)
      (place : known.idxOf name = front.length) (before after : Option Value)
      (change : FieldChange (isDefault name) (inside name) before after) :
    DefaultEdit known isDefault inside (.list (front ++ before.toList))
      (.list (front ++ after.toList))
  | item (front back : List Value) (name : String) (field : name ∈ known)
      (place : known.idxOf name = front.length) (before after : Value)
      (changed : inside name before after) :
    DefaultEdit known isDefault inside (.list (front ++ before :: back))
      (.list (front ++ after :: back))

/-! ## Fields before and after an edit -/

/-- What two records give for each field is the same, or changes as defaults allow. -/
def Fields.Agree (known : List String) (isDefault : String → Value → Prop)
    (inside : String → Value → Value → Prop) (left right : Fields) : Prop :=
  ∀ name ∈ known, left.value? name = right.value? name ∨
    FieldChange (isDefault name) (inside name) (left.value? name) (right.value? name)

namespace Json.Value

/-- The members of an object are read by name, if all names are texts, the known ones occur once and
the others may pass. -/
theorem fields?_members_eq_some_iff (known : List String) (rules : RecordRules) (members : Members)
    (fields : Fields) :
    fields? known rules (.object members) = some fields ↔
      (allTexts members = true ∧ hasOnce known (texts members) = true ∧
        othersPass known rules (texts members) = true) ∧
      fields = ⟨false, fun name => List.lookup name (texts members)⟩ := by
  rw [fields?_members, Option.ite_none_right_eq_some, Option.some.injEq, @eq_comm _ fields,
    Bool.and_eq_true, Bool.and_eq_true]

/-- The items of a list are read by position, if there are not too many. -/
theorem fields?_items_eq_some_iff (known : List String) (rules : RecordRules) (items : List Value)
    (fields : Fields) :
    fields? known rules (.list items) = some fields ↔
      (rules.surplus = true ∨ items.length ≤ known.length) ∧
      fields = ⟨true, fun name => List.lookup name (known.zip items)⟩ := by
  simp [fields?, @eq_comm _ fields]

/-- A field stands at the place of its name. -/
theorem lookup_zip (known : List String) (items : List Value) (name : String) :
    List.lookup name (known.zip items) =
      if name ∈ known then items[known.idxOf name]? else none := by
  induction known generalizing items with
  | nil => rfl
  | cons first rest inductionHypothesis =>
    cases items with
    | nil => simp
    | cons item items =>
      by_cases same : name = first
      · simp [same]
      · rw [List.zip_cons_cons, lookup_cons_of_ne _ _ same, inductionHypothesis,
          List.idxOf_cons_ne _ (Ne.symm same)]
        simp [same]

section Around

variable (front back : Members) (name : String) (value : Option Value)

/-- The texts of members around one more are those before it, its own and those behind it. -/
theorem texts_around : texts (around front back name value) =
    texts front ++ ((value.map (name, ·)).toList ++ texts back) := by
  cases value <;> simp [texts, around]

/-- Whether all names are texts does not depend on a member whose name is one. -/
theorem allTexts_around :
    allTexts (around front back name value) = (allTexts front && allTexts back) := by
  cases value <;> simp [allTexts, around]

variable {front back name}

/-- A name that no member has is no name among the texts. -/
theorem key_ne_of_mem_texts {members : Members} (absent : ∀ other ∈ members, other.1 ≠ some name) :
    ∀ other ∈ texts members, other.1 ≠ name := by
  intro other listed
  obtain ⟨⟨key, content⟩, member, same⟩ := List.mem_filterMap.mp listed
  obtain ⟨text, rfl, rfl⟩ := Option.map_eq_some_iff.mp same
  exact fun named => absent _ member (congrArg some named)

/-- Nothing is found under a name that nobody has. -/
theorem lookup_eq_none_of_key_ne {members : List (String × Value)}
    (absent : ∀ other ∈ members, other.1 ≠ name) : List.lookup name members = none := by
  rw [List.lookup_eq_none_iff]
  exact fun other member => bne_iff_ne.mpr (absent other member).symm

/-- What is found under a name that occurs nowhere else is its own value. -/
theorem lookup_around_self (single : ∀ other ∈ front ++ back, other.1 ≠ some name) :
    List.lookup name (texts (around front back name value)) = value := by
  have inFront := key_ne_of_mem_texts (List.forall_mem_append.mp single).1
  have inBack := key_ne_of_mem_texts (List.forall_mem_append.mp single).2
  rw [texts_around, List.lookup_append, List.lookup_append, lookup_eq_none_of_key_ne inFront,
    lookup_eq_none_of_key_ne inBack]
  cases value <;> simp

/-- What is found under another name does not depend on the member. -/
theorem lookup_around_of_ne (other : String) (different : other ≠ name) :
    List.lookup other (texts (around front back name value)) =
      (List.lookup other (texts front)).or (List.lookup other (texts back)) := by
  rw [texts_around, List.lookup_append, List.lookup_append]
  cases value with
  | none => rfl
  | some content => simp [lookup_cons_of_ne content [] different]

/-- Known names occur once whatever stands under one of them. -/
theorem hasOnce_around (known : List String)
    (single : ∀ other ∈ front ++ back, other.1 ≠ some name) (before after : Option Value)
    (once : hasOnce known (texts (around front back name before)) = true) :
    hasOnce known (texts (around front back name after)) = true := by
  have inFront := key_ne_of_mem_texts (List.forall_mem_append.mp single).1
  have inBack := key_ne_of_mem_texts (List.forall_mem_append.mp single).2
  rw [hasOnce, List.all_eq_true] at once ⊢
  intro other field
  have count := once other field
  simp only [texts_around, List.countP_append, decide_eq_true_eq] at count ⊢
  -- Of the name itself only what stands between the other members counts, of any other name
  -- only what stands around it.
  by_cases same : other = name
  · subst same
    have noneFront : (texts front).countP (·.1 = other) = 0 := by
      simpa [List.countP_eq_zero] using inFront
    have noneBack : (texts back).countP (·.1 = other) = 0 := by
      simpa [List.countP_eq_zero] using inBack
    have own : (after.map (other, ·)).toList.countP (·.1 = other) ≤ 1 := by
      cases after <;> simp
    omega
  · have own (value : Option Value) :
        (value.map (name, ·)).toList.countP (·.1 = other) = 0 := by
      cases value <;> simp [Ne.symm same]
    rw [own] at count ⊢
    exact count

/-- A known name has no part in whether the others may pass. -/
theorem othersPass_around (known : List String) (rules : RecordRules) (field : name ∈ known) :
    othersPass known rules (texts (around front back name value)) =
      (othersPass known rules (texts front) && othersPass known rules (texts back)) := by
  cases value <;> simp [othersPass, texts_around, List.filter_append, field]

end Around

/-- What is added behind a list stands at its end. -/
theorem getElem?_append_toList_self (front : List Value) (last : Option Value) :
    (front ++ last.toList)[front.length]? = last := by
  rw [List.getElem?_append_right (Nat.le_refl _)]
  cases last <;> simp

/-- What is added behind a list changes no other place. -/
theorem getElem?_append_toList_of_ne (front : List Value) (last : Option Value) {place : Nat}
    (elsewhere : place ≠ front.length) : (front ++ last.toList)[place]? = front[place]? := by
  rcases Nat.lt_or_gt_of_ne elsewhere with earlier | later
  · rw [List.getElem?_append_left earlier]
  · have length : last.toList.length ≤ 1 := by cases last <;> simp
    rw [List.getElem?_eq_none (Nat.le_of_lt later), List.getElem?_eq_none]
    rw [List.length_append]
    omega

variable (known : List String) (isDefault : String → Value → Prop)
variable (inside : String → Value → Value → Prop) (rules : RecordRules)

/-- Members that change as defaults allow for one field leave a record with fields that agree. -/
theorem fields_agree_members (front back : Members) (name : String) (field : name ∈ known)
    (single : ∀ other ∈ front ++ back, other.1 ≠ some name) (before after : Option Value)
    (change : FieldChange (isDefault name) (inside name) before after) (left : Fields)
    (read : fields? known rules (.object (around front back name before)) = some left) :
    ∃ right, fields? known rules (.object (around front back name after)) = some right ∧
      Fields.Agree known isDefault inside left right := by
  obtain ⟨⟨texted, once, passed⟩, rfl⟩ := (fields?_members_eq_some_iff known rules _ left).mp read
  refine ⟨_, (fields?_members_eq_some_iff known rules _ _).mpr ⟨⟨?_, ?_, ?_⟩, rfl⟩, ?_⟩
  · rwa [allTexts_around] at texted ⊢
  · exact hasOnce_around known single before after once
  · rwa [othersPass_around _ known rules field] at passed ⊢
  · intro other _
    by_cases same : other = name
    · subst same
      simp only [lookup_around_self _ single]
      exact .inr change
    · simp only [lookup_around_of_ne _ other same]
      exact .inl trivial

/-- So do items that change at the place of one field. -/
theorem fields_agree_items (before after : List Value) (name : String)
    (fits : before.length ≤ known.length → after.length ≤ known.length)
    (change : FieldChange (isDefault name) (inside name) before[known.idxOf name]?
      after[known.idxOf name]?)
    (others : ∀ place, place ≠ known.idxOf name → before[place]? = after[place]?) (left : Fields)
    (read : fields? known rules (.list before) = some left) :
    ∃ right, fields? known rules (.list after) = some right ∧
      Fields.Agree known isDefault inside left right := by
  obtain ⟨readable, rfl⟩ := (fields?_items_eq_some_iff known rules before left).mp read
  refine ⟨_, (fields?_items_eq_some_iff known rules after _).mpr ⟨readable.imp_right fits, rfl⟩, ?_⟩
  intro other listed
  simp only [lookup_zip, listed, if_true]
  by_cases same : other = name
  · subst same
    exact .inr change
  · exact .inl (others _ fun place => same ((List.idxOf_inj listed).mp place))

/-- A record that changes as defaults allow has fields that agree. -/
theorem fields_agree (before after : Value)
    (edited : DefaultEdit known isDefault inside before after) (left : Fields)
    (read : fields? known rules before = some left) :
    ∃ right, fields? known rules after = some right ∧
      Fields.Agree known isDefault inside left right := by
  cases edited with
  | member front back name field single before after change =>
    exact fields_agree_members known isDefault inside rules front back name field single before
      after change left read
  | last front name field place before after change =>
    have within : front.length < known.length := place ▸ List.idxOf_lt_length_of_mem field
    apply fields_agree_items known isDefault inside rules _ _ name ?_ ?_ ?_ left read
    · intro _
      cases after <;> simp <;> omega
    · rw [place, getElem?_append_toList_self, getElem?_append_toList_self]
      exact change
    · rw [place]
      intro other elsewhere
      rw [getElem?_append_toList_of_ne front before elsewhere,
        getElem?_append_toList_of_ne front after elsewhere]
  | item front back name field place before after changed =>
    apply fields_agree_items known isDefault inside rules _ _ name ?_ ?_ ?_ left read
    · simp
    · rw [place, List.getElem?_append_right (Nat.le_refl _),
        List.getElem?_append_right (Nat.le_refl _), Nat.sub_self]
      exact .inside before after changed
    · rw [place]
      intro other elsewhere
      rcases Nat.lt_or_gt_of_ne elsewhere with earlier | later
      · rw [List.getElem?_append_left earlier, List.getElem?_append_left earlier]
      · obtain ⟨beyond, rfl⟩ := Nat.exists_eq_add_of_lt later
        rw [List.getElem?_append_right (by omega), List.getElem?_append_right (by omega)]
        simp [Nat.add_assoc]

end Json.Value

/-! ## Reading fields -/

namespace Fields

variable {known : List String} {isDefault : String → Value → Prop}
variable {inside : String → Value → Value → Prop} {left right : Fields}
variable {α : Type} {read? : Value → Option α}

/-- A field is read alike from two records whose fields agree, if it reads as what stands for it
where it is absent whenever it has its default. -/
theorem Agree.orElse (agree : Agree known isDefault inside left right) (name : String)
    (field : name ∈ known) (absent : α)
    (reads : ∀ value, isDefault name value → read? value = some absent)
    (preserves : Preserves (inside name) read?) :
    Kept (left.orElse name absent read?) (right.orElse name absent read?) := by
  intro result read
  unfold Fields.orElse at read ⊢
  rcases agree name field with same | change
  · rwa [← same]
  · -- Only the two values matter from here on, not which records gave them.
    generalize left.value? name = before, right.value? name = after at change read
    cases change with
    | leaveOut value holdsDefault => exact (reads value holdsDefault).symm.trans read
    | spellOut value holdsDefault => exact (reads value holdsDefault).trans read
    | inside before after changed => exact preserves before after changed result read

/-- A field reads as what stands for it where it is absent if it is absent or is read like that. -/
theorem orElse_eq_absent_iff (fields : Fields) (name : String) (absent : α) :
    fields.orElse name absent read? = some absent ↔
      ∀ value, fields.value? name = some value → read? value = some absent := by
  unfold orElse
  cases fields.value? name <;> simp

end Fields

/-- A record is read alike if it is built alike from fields that agree. -/
theorem Preserves.record {α : Type} {known : List String} {isDefault : String → Value → Prop}
    {inside : String → Value → Value → Prop} {rules : RecordRules} {build : Fields → Option α}
    (builds : ∀ left right, Fields.Agree known isDefault inside left right →
      Kept (build left) (build right)) :
    Preserves (DefaultEdit known isDefault inside)
      fun value => (value.fields? known rules).bind build := by
  intro before after edited result read
  obtain ⟨left, found, built⟩ := Option.bind_eq_some_iff.mp read
  obtain ⟨right, foundAfter, agree⟩ :=
    Value.fields_agree known isDefault inside rules before after edited left found
  simp only [foundAfter, Option.bind_some]
  exact builds left right agree result built

/-! ## Records that hold defaults -/

/-- A record gives a value for one of the fields that are known. -/
inductive Json.Value.Holds (known : List String) (name : String) : Value → Value → Prop where
  | member (members : Members) (value : Value) (listed : (some name, value) ∈ members) :
    Holds known name (.object members) value
  | position (items : List Value) (value : Value) (placed : items[known.idxOf name]? = some value) :
    Holds known name (.list items) value

/-- A record with nothing in it. -/
inductive Json.Value.IsEmpty : Value → Prop where
  | object : IsEmpty (.object [])
  | list : IsEmpty (.list [])

/-- A value can be read as a record, and every field that it gives has its default. -/
structure HoldsDefaults (known : List String) (rules : RecordRules)
    (isDefault : String → Value → Prop) (record : Value) : Prop where
  readable : (record.fields? known rules).isSome
  defaults : ∀ name ∈ known, ∀ value, record.Holds known name value → isDefault name value

namespace Json.Value

variable {known : List String} {rules : RecordRules}

/-- Members with a text for a name are those among the texts. -/
theorem mem_texts (members : Members) (name : String) (value : Value) :
    (name, value) ∈ texts members ↔ (some name, value) ∈ members := by
  simp [texts]

/-- A name that occurs once is looked up where it occurs. -/
theorem lookup_eq_some_iff_mem (members : List (String × Value)) (name : String)
    (once : members.countP (·.1 = name) ≤ 1) (value : Value) :
    List.lookup name members = some value ↔ (name, value) ∈ members := by
  rw [List.lookup_eq_some_iff]
  constructor
  · rintro ⟨front, back, rfl, _⟩
    simp
  · intro member
    obtain ⟨front, back, rfl⟩ := List.append_of_mem member
    refine ⟨front, back, rfl, fun other listed => ?_⟩
    rw [List.countP_append, List.countP_cons_of_pos (by simp)] at once
    have none : front.countP (·.1 = name) = 0 := by omega
    have different := List.countP_eq_zero.mp none other listed
    exact bne_iff_ne.mpr fun same => different (decide_eq_true same.symm)

/-- The fields of a record are what it gives. -/
theorem value?_eq_some_iff (record : Value) (fields : Fields)
    (read : record.fields? known rules = some fields) (name : String) (field : name ∈ known)
    (value : Value) : fields.value? name = some value ↔ record.Holds known name value := by
  cases record with
  | object members =>
    obtain ⟨⟨_, once, _⟩, rfl⟩ := (fields?_members_eq_some_iff known rules members fields).mp read
    have count := count_le_of_hasOnce known once name field
    rw [lookup_eq_some_iff_mem _ name count, mem_texts]
    exact ⟨.member members value, fun | .member _ _ listed => listed⟩
  | list items =>
    obtain ⟨_, rfl⟩ := (fields?_items_eq_some_iff known rules items fields).mp read
    simp only [lookup_zip, if_pos field]
    exact ⟨.position items value, fun | .position _ _ placed => placed⟩
  | _ => cases read

section Lookups

variable {α : Type} {record : Value} {fields : Fields} {name : String}

/-- A field that a record does not give has what stands for it. -/
theorem orElse_of_missing (read : record.fields? known rules = some fields) (field : name ∈ known)
    (missing : ∀ value, ¬ record.Holds known name value) (absent : α)
    (read? : Value → Option α) : fields.orElse name absent read? = some absent := by
  rw [Fields.orElse_eq_absent_iff]
  intro value given
  rw [record.value?_eq_some_iff fields read name field] at given
  exact absurd given (missing value)

/-- A field that a record gives is read. -/
theorem orElse_of_given (read : record.fields? known rules = some fields) (field : name ∈ known)
    (value : Value) (given : record.Holds known name value) (absent : α)
    (read? : Value → Option α) : fields.orElse name absent read? = read? value := by
  rw [← record.value?_eq_some_iff fields read name field] at given
  rw [Fields.orElse, given]

end Lookups

namespace IsEmpty

variable {record : Value}

/-- What is empty holds nothing under any name. -/
theorem not_holds (isEmpty : record.IsEmpty) (name : String) (value : Value) :
    ¬ record.Holds known name value := by
  cases isEmpty with
  | object => exact fun | .member _ _ listed => List.not_mem_nil listed
  | list => exact fun | .position _ _ placed => by simp at placed

/-- What is empty can be read. -/
theorem readable (isEmpty : record.IsEmpty) : (record.fields? known rules).isSome = true := by
  cases isEmpty with
  | object =>
    have once : hasOnce known (texts []) = true := by simp [hasOnce, texts]
    have read := (fields?_members_eq_some_iff known rules [] _).mpr ⟨⟨rfl, once, rfl⟩, rfl⟩
    rw [read, Option.isSome_some]
  | list =>
    have read := (fields?_items_eq_some_iff known rules [] _).mpr ⟨.inr (Nat.zero_le _), rfl⟩
    rw [read, Option.isSome_some]

end IsEmpty

end Json.Value

section

variable {known : List String} {rules : RecordRules} {isDefault : String → Value → Prop}

/-- What is empty holds only defaults. -/
theorem HoldsDefaults.of_isEmpty {record : Value} (isEmpty : record.IsEmpty) :
    HoldsDefaults known rules isDefault record where
  readable := isEmpty.readable
  defaults name _ value holds := absurd holds (isEmpty.not_holds name value)

/-- A type with a default is read as it from the records that hold the defaults of its fields, if it
is built from fields accordingly. -/
theorem holdsDefaults_iff {α : Type} {build : Fields → Option α} (absent : α)
    (builds : ∀ fields : Fields, build fields = some absent ↔
      ∀ name ∈ known, ∀ value, fields.value? name = some value → isDefault name value)
    (record : Value) :
    (record.fields? known rules).bind build = some absent ↔
      HoldsDefaults known rules isDefault record := by
  constructor
  · intro read
    obtain ⟨fields, found, built⟩ := Option.bind_eq_some_iff.mp read
    refine ⟨by simp [found], fun name field value holds => ?_⟩
    rw [← record.value?_eq_some_iff fields found name field] at holds
    exact (builds fields).mp built name field value holds
  · intro holdsDefaults
    obtain ⟨fields, found⟩ := Option.isSome_iff_exists.mp holdsDefaults.readable
    rw [found, Option.bind_some, builds]
    intro name field value given
    rw [record.value?_eq_some_iff fields found name field] at given
    exact holdsDefaults.defaults name field value given

end

end Conformance
