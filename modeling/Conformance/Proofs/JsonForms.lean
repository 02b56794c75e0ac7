import Conformance.JsonForm.Entries
import Conformance.JsonForm.Settings
import Conformance.JsonForm.Suites
import Conformance.Proofs.JsonEdits
import Conformance.Proofs.NumberRange
import Conformance.Proofs.PrintedJson

/-!
# What is written is read back

Values of the types with a JSON form are read back from the text that they are written
as. They are also read back from texts that differ from it in the order of members, at
any place, or in members that are no fields. `Edit` of each type tells which objects
there are in a text of the type, and what their fields are. `JsonForm.Keeps` puts both
together.

Counts are read back if they fit in 64 bits. A defect is the only value whose fields are
set aside before they are read; what is written for it can be set aside, since a number
that fits in 64 bits is within range.

Main statement: `JsonForm.data_kept`.
-/

namespace Conformance

open Json (Value Members)

/-- The items of a list are read back one by one. -/
theorem Json.Value.toItems?_map {α : Type} (write : α → Value) (read? : Value → Option α)
    (readBack : ∀ item, read? (write item) = some item) (items : List α) :
    toItems? read? (.list (items.map write)) = some items := by
  rw [toItems?]
  induction items with
  | nil => rfl
  | cons item rest inductionHypothesis =>
    rw [List.map_cons, List.mapM_cons, readBack, inductionHypothesis]
    rfl

/-- A number that fits in 64 bits is read back. -/
theorem Json.Value.toCount?_ofNat (n : Nat) (fits : n < Nat.pow 2 64) :
    toCount? (.ofNat n) = some n := if_pos (decide_eq_true fits)

/-- Only a string is read as a text. -/
theorem Json.Value.eq_ofString_of_toText? (value : Value) (content : String)
    (read : value.toText? = some content) : value = .ofString content := by
  cases value with
  | text written => exact congrArg Value.text read
  | _ => cases read

/-! ## Names and types -/

namespace TypeKind

/-- A capability has no object; a class has one inside another. -/
inductive Edit : Value → Value → Prop where
  | reorder (before after : Members) (same : before.Perm after) :
    Edit (.object before) (.object after)
  | content (before after : Value) (changed : FlatEdit ["is_abstract"] before after) :
    Edit (.record [("class", before)]) (.record [("class", after)])

/-- A kind of type is read back from its form. -/
theorem ofJson?_toJson (kind : TypeKind) : ofJson? kind.toJson = some kind := by
  cases kind <;> rfl

/-- An object with another number of members than one holds no type. -/
theorem ofJson?_object_of_length (members : Members) (several : members.length ≠ 1) :
    ofJson? (.object members) = none := by
  unfold ofJson?
  split
  case h_1 same => cases same
  case h_2 same =>
    obtain rfl := Value.object.inj same
    exact absurd rfl several
  case h_3 same =>
    obtain rfl := Value.object.inj same
    exact absurd rfl several
  case h_4 => rfl

/-- Edits inside a class make no difference to its kind. -/
theorem respects : Respects Edit ofJson? := by
  intro before after edited
  cases edited with
  | reorder before after same =>
    by_cases single : before.length = 1
    · obtain ⟨member, rfl⟩ := List.length_eq_one_iff.mp single
      rw [List.perm_singleton.mp same.symm]
    · rw [ofJson?_object_of_length before single,
        ofJson?_object_of_length after (same.length_eq ▸ single)]
  | content before after changed =>
    have read : Respects (FlatEdit ["is_abstract"]) fun value =>
        ofJson? (.record [("class", value)]) :=
      Respects.record fun left right alike => by
        rw [alike.required "is_abstract" (by decide) .noEdit]
    exact read before after changed

end TypeKind

namespace TypeDecl

/-- A declared type has an object inside its kind. -/
def Edit : Value → Value → Prop :=
  RecordEdit ["name", "kind", "interfaces", "superclass"] fun name =>
    if name = "kind" then TypeKind.Edit else NoEdit

/-- A declared type is read back from its form. -/
theorem ofJson?_toJson (decl : TypeDecl) : ofJson? decl.toJson = some decl := by
  obtain ⟨name, kind, interfaces, superclass⟩ := decl
  have kindRead := kind.ofJson?_toJson
  have interfacesRead := Value.toItems?_map Name.toJson Name.ofJson? (fun _ => rfl) interfaces
  have superclassRead : Fields.nullable ⟨false, fun _ => some (superclass.elim .null Name.toJson)⟩
      "superclass" Name.ofJson? = some superclass := by
    cases superclass <;> rfl
  calc ofJson? (toJson ⟨name, kind, interfaces, superclass⟩)
    _ = (TypeKind.ofJson? kind.toJson).bind fun kind =>
        (Value.toItems? Name.ofJson? (.list (interfaces.map Name.toJson))).bind fun interfaces =>
        (Fields.nullable ⟨false, fun _ => some (superclass.elim .null Name.toJson)⟩
          "superclass" Name.ofJson?).bind fun superclass =>
        some ⟨name, kind, interfaces, superclass⟩ := rfl
    _ = some ⟨name, kind, interfaces, superclass⟩ := by
      rw [kindRead, interfacesRead, superclassRead]
      rfl

/-- Edits make no difference to a declared type. -/
theorem respects : Respects Edit ofJson? :=
  Respects.record fun left right alike => by
    rw [alike.required "name" (by decide) .noEdit,
      alike.required "kind" (by decide) TypeKind.respects,
      alike.required "interfaces" (by decide) .noEdit,
      alike.nullable "superclass" (by decide) rfl]

end TypeDecl

/-! ## Suites -/

namespace SuiteKey

def Edit : Value → Value → Prop := FlatEdit ["declaring_type", "target"]

/-- Edits make no difference to a key. -/
theorem respects : Respects Edit ofJson? :=
  Respects.record fun left right alike => by
    rw [alike.required "declaring_type" (by decide) .noEdit,
      alike.required "target" (by decide) .noEdit]

end SuiteKey

namespace Setter

def Edit : Value → Value → Prop :=
  FlatEdit ["method", "declared_on", "declared_on_abstract", "parameter_count"]

/-- Setters whose number of parameters fits in 64 bits. -/
def Fits (setter : Setter) : Prop := setter.parameters < Nat.pow 2 64

/-- A setter whose parameters can be counted is read back from its form. -/
theorem ofJson?_toJson (setter : Setter) (fits : setter.Fits) :
    ofJson? setter.toJson = some setter := by
  have count := Value.toCount?_ofNat setter.parameters fits
  calc ofJson? setter.toJson
    _ = (Value.toCount? (.ofNat setter.parameters)).bind fun parameters =>
        some { setter with parameters } := rfl
    _ = some setter := by
      rw [count]
      rfl

/-- Edits make no difference to a setter. -/
theorem respects : Respects Edit ofJson? :=
  Respects.record fun left right alike => by
    rw [alike.required "method" (by decide) .noEdit,
      alike.required "declared_on" (by decide) .noEdit,
      alike.required "declared_on_abstract" (by decide) .noEdit,
      alike.required "parameter_count" (by decide) .noEdit]

end Setter

namespace Defect

/-- Defects whose counts fit in 64 bits. -/
def Fits : Defect → Prop
  | .ambiguousSetter _ count => count < Nat.pow 2 64
  | .malformedSetter _ _ parameters => parameters < Nat.pow 2 64
  | _ => True

/-- The fields of a defect beside its tag. -/
def fieldNames : String → List String
  | "abstract_declaring_type" | "missing_injection_point" => ["declaring_type"]
  | "ambiguous_injection_point" => ["declaring_type", "count"]
  | "abstract_injection_point" => ["declaring_type", "method"]
  | "malformed_injection_point" => ["declaring_type", "method", "parameters"]
  | _ => []

/-- A member that is added to a defect must not be the tag, nor a field of the kind of defect that
the tag tells. -/
inductive Edit : Value → Value → Prop where
  | reorder (before after : Members) (same : before.Perm after) :
    Edit (.object before) (.object after)
  | add (members : Members) (name : String) (value : Value) (noTag : name ≠ "kind")
      (unknown : ∀ tag, (some "kind", .ofString tag) ∈ members → name ∉ fieldNames tag)
      (plain : value.IsPlain) :
    Edit (.object members) (.object ((some name, value) :: members))

/-- Once the tag is known, the other members are read as a record. -/
theorem respects_ofTagged? (tag : String) :
    Respects (FlatEdit (fieldNames tag)) (ofTagged? tag) := by
  unfold ofTagged?
  split
  case h_6 => exact fun _ _ _ => rfl
  all_goals
    refine Respects.record fun left right alike => ?_
    simp only [alike.required "declaring_type" (by decide) .noEdit]
  case h_3 => rw [alike.required "count" (by decide) .noEdit]
  case h_4 => rw [alike.required "method" (by decide) .noEdit]
  case h_5 =>
    rw [alike.required "method" (by decide) .noEdit,
      alike.required "parameters" (by decide) .noEdit]

/-- The value of the only member there is. -/
def sole? : List (String × Value) → Option Value
  | [(_, value)] => some value
  | _ => none

/-- The order of members does not matter to whether there is only one. -/
theorem sole?_perm {before after : List (String × Value)} (same : before.Perm after) :
    sole? before = sole? after := by
  match before, after with
  | [], after => rw [List.nil_perm.mp same]
  | [member], after => rw [List.singleton_perm.mp same]
  | _ :: _ :: _, [] => cases same.length_eq
  | _ :: _ :: _, [_] => cases same.length_eq
  | _ :: _ :: _, _ :: _ :: _ => rfl

/-- The only member is the only one. -/
theorem mem_of_sole? {members : List (String × Value)} {value : Value}
    (found : sole? members = some value) : ∃ key, members = [(key, value)] := by
  match members with
  | [(key, _)] =>
    obtain rfl := Option.some.inj found
    exact ⟨key, rfl⟩

/-- Reads a defect from members whose keys have a text. -/
def ofTexts? (members : List (String × Value)) : Option Defect :=
  (sole? (members.filter fun (key, _) => key = "kind")).bind fun tag =>
    let others := members.filter fun (key, _) => key ≠ "kind"
    if others.all fun (_, value) => canWait value then
      tag.toText?.bind fun tag => ofTagged? tag (.record others)
    else none

/-- A defect is read from an object by its texts, if all keys have one. -/
theorem ofJson?_object (members : Members) :
    ofJson? (.object members) =
      if Value.allTexts members then ofTexts? (Value.texts members) else none := by
  rw [ofJson?, Value.keyed?_eq]
  cases Value.allTexts members with
  | false => rfl
  | true =>
    simp only [if_true, Option.bind_eq_bind, Option.bind_some, ofTexts?]
    split
    · next only => rw [only]; rfl
    · next several =>
      generalize (Value.texts members).filter _ = tags at several ⊢
      match tags with
      | [] => rfl
      | [(key, tag)] => exact absurd rfl (several key tag)
      | _ :: _ :: _ => rfl

/-- The order of members does not matter to a defect. -/
theorem ofTexts?_perm {before after : List (String × Value)} (same : before.Perm after) :
    ofTexts? before = ofTexts? after := by
  have tags := sole?_perm (same.filter fun (key, _) => decide (key = "kind"))
  have others := same.filter fun (key, _) => decide (key ≠ "kind")
  have waiting := others.all_eq (f := fun (_, value) => canWait value)
  have reordered (tag : String) := respects_ofTagged? tag _ _
    (.reorder _ _ (others.map fun (key, value) => (some key, value)))
  simp only [ofTexts?, tags, waiting, Value.record, reordered]

/-- A member that is neither the tag nor a field makes no difference to a defect, if it can be set
aside. -/
theorem ofTexts?_add (members : List (String × Value)) (name : String) (value : Value)
    (noTag : name ≠ "kind") (waits : canWait value = true) (plain : value.IsPlain)
    (unknown : ∀ tag, ("kind", .ofString tag) ∈ members → name ∉ fieldNames tag) :
    ofTexts? members = ofTexts? ((name, value) :: members) := by
  have tags : ((name, value) :: members).filter (fun (key, _) => key = "kind") =
      members.filter fun (key, _) => key = "kind" :=
    List.filter_cons_of_neg (by simpa using noTag)
  have others : ((name, value) :: members).filter (fun (key, _) => key ≠ "kind") =
      (name, value) :: members.filter fun (key, _) => key ≠ "kind" :=
    List.filter_cons_of_pos (by simpa using noTag)
  rw [ofTexts?, ofTexts?, tags, others]
  -- without a tag there is no defect either way; with one, its kind tells the fields
  cases found : sole? (members.filter fun (key, _) => key = "kind") with
  | none => rfl
  | some tag =>
    simp only [Option.bind_some, List.all_cons, waits, Bool.true_and]
    cases texted : tag.toText? with
    | none => rfl
    | some text =>
      obtain rfl := Value.eq_ofString_of_toText? tag text texted
      have isTag : ("kind", Value.ofString text) ∈ members := by
        obtain ⟨key, only⟩ := mem_of_sole? found
        have listed := only.symm ▸ List.mem_singleton_self (key, Value.ofString text)
        obtain ⟨member, isKind⟩ := List.mem_filter.mp listed
        exact of_decide_eq_true isKind ▸ member
      have added := respects_ofTagged? text _ _ (.add
        ((members.filter fun (key, _) => key ≠ "kind").map fun (key, value) => (some key, value))
        name value (unknown text isTag) plain)
      simp only [Option.bind_some, Value.record, List.map_cons, added]

/-- What is added to a defect can be set aside. -/
theorem canWait_of_isPlain (value : Value) (plain : value.IsPlain) : canWait value = true := by
  cases plain <;> rfl

/-- Edits make no difference to a defect, wherever its tag stands. -/
theorem respects : Respects Edit ofJson? := by
  intro before after edited
  cases edited with
  | reorder before after same =>
    rw [ofJson?_object, ofJson?_object, Value.allTexts_perm same,
      ofTexts?_perm (Value.texts_perm same)]
  | add members name value noTag unknown plain =>
    have among (tag : String) (member : ("kind", .ofString tag) ∈ Value.texts members) :
        name ∉ fieldNames tag := by
      obtain ⟨⟨key, content⟩, listed, texted⟩ := List.mem_filterMap.mp member
      obtain ⟨_, rfl, same⟩ := Option.map_eq_some_iff.mp texted
      obtain ⟨rfl, rfl⟩ := Prod.mk.inj same
      exact unknown tag listed
    rw [ofJson?_object, ofJson?_object, Value.texts_cons,
      ofTexts?_add _ name value noTag (canWait_of_isPlain value plain) plain among]
    rfl

/-- A number that fits in 64 bits can be set aside until the tag is known. -/
theorem canWait_ofNat (n : Nat) (fits : n < Nat.pow 2 64) : canWait (.ofNat n) = true := by
  have inRange := Json.Number.inRange_ofNat n fits
  simp [canWait, Value.ofNat, Value.depth, Value.isProper, inRange]

/-- A defect whose counts fit is read back from its form. -/
theorem ofJson?_toJson (defect : Defect) (fits : defect.Fits) :
    ofJson? defect.toJson = some defect := by
  cases defect with
  | abstractType suite => rfl
  | missingSetter suite => rfl
  | abstractSetter suite method => rfl
  | ambiguousSetter suite count =>
    have waits := canWait_ofNat count fits
    have read := Value.toCount?_ofNat count fits
    calc ofJson? (toJson (.ambiguousSetter suite count))
      _ = if canWait (.ofNat count) && true then
            (Value.toCount? (.ofNat count)).bind fun count => some (.ambiguousSetter suite count)
          else none := rfl
      _ = some (.ambiguousSetter suite count) := by
        rw [waits, read]
        rfl
  | malformedSetter suite method parameters =>
    have waits := canWait_ofNat parameters fits
    have read := Value.toCount?_ofNat parameters fits
    calc ofJson? (toJson (.malformedSetter suite method parameters))
      _ = if canWait (.ofNat parameters) && true then
            (Value.toCount? (.ofNat parameters)).bind fun parameters =>
              some (.malformedSetter suite method parameters)
          else none := rfl
      _ = some (.malformedSetter suite method parameters) := by
        rw [waits, read]
        rfl

end Defect

/-! ## Markers and parents -/

namespace Marker

def Edit : Value → Value → Prop := FlatEdit ["target", "skip"]

/-- A marker is read back from its form. -/
theorem ofJson?_toJson (marker : Marker) : ofJson? marker.toJson = some marker := by
  have skipRead := Value.toItems?_map Name.toJson Name.ofJson? (fun _ => rfl) marker.skip
  calc ofJson? marker.toJson
    _ = (Value.toItems? Name.ofJson? (.list (marker.skip.map Name.toJson))).bind fun skip =>
        some ⟨marker.target, skip⟩ := rfl
    _ = some marker := by
      rw [skipRead]
      rfl

/-- Edits make no difference to a marker. -/
theorem respects : Respects Edit ofJson? :=
  Respects.record fun left right alike => by
    rw [alike.required "target" (by decide) .noEdit,
      alike.orElse "skip" (by decide) [] .noEdit]

end Marker

namespace Parent

def Edit : Value → Value → Prop := FlatEdit ["entry", "target"]

/-- Edits make no difference to the type that a member belongs to. -/
theorem respects : Respects Edit ofJson? :=
  Respects.record fun left right alike => by
    rw [alike.required "entry" (by decide) .noEdit, alike.required "target" (by decide) .noEdit]

end Parent

/-! ## Settings -/

namespace SectionSettings

def Edit : Value → Value → Prop := FlatEdit ["report", "fail_on_error"]

/-- Edits make no difference to the settings of a section. -/
theorem respects : Respects Edit (ofValue? .strict) :=
  Respects.record fun left right alike => by
    rw [alike.orElse "report" (by decide) true .noEdit,
      alike.orElse "fail_on_error" (by decide) false .noEdit]

end SectionSettings

namespace ReportSettings

/-- Each section has an object of its own. -/
def Edit : Value → Value → Prop :=
  RecordEdit ["untested", "unimplemented", "errors"] fun _ => SectionSettings.Edit

/-- Edits make no difference to the settings of all sections, nor do those inside a section. -/
theorem respects : Respects Edit (ofValue? .strict) :=
  Respects.record fun left right alike => by
    rw [alike.orElse "untested" (by decide) {} SectionSettings.respects,
      alike.orElse "unimplemented" (by decide) {} SectionSettings.respects,
      alike.orElse "errors" (by decide) {} SectionSettings.respects]

end ReportSettings

namespace DiscoverySettings

def Edit : Value → Value → Prop := FlatEdit ["skip_classes", "packages"]

/-- The settings of discovery are read back from their form. -/
theorem ofValue?_toJson (settings : DiscoverySettings) :
    ofValue? .strict settings.toJson = some settings := by
  have read := Value.toItems?_map Value.ofString Value.toText? fun _ => rfl
  calc ofValue? .strict settings.toJson
    _ = (Value.toItems? Value.toText? (.ofStrings settings.skipClasses)).bind fun skipClasses =>
        (Value.toItems? Value.toText? (.ofStrings settings.packages)).bind fun packages =>
        some ⟨skipClasses, packages⟩ := rfl
    _ = some settings := by
      rw [Value.ofStrings, Value.ofStrings, read, read]
      rfl

/-- Edits make no difference to the settings of discovery. -/
theorem respects : Respects Edit (ofValue? .strict) :=
  Respects.record fun left right alike => by
    rw [alike.orElse "skip_classes" (by decide) [] .noEdit,
      alike.orElse "packages" (by decide) [] .noEdit]

end DiscoverySettings

namespace Settings

/-- Both parts of settings have objects of their own. -/
def Edit : Value → Value → Prop :=
  RecordEdit ["discovery", "reports"] fun name =>
    if name = "discovery" then DiscoverySettings.Edit else ReportSettings.Edit

/-- Settings are read back from their form. -/
theorem ofValue?_toJson (settings : Settings) :
    ofValue? .strict settings.toJson = some settings := by
  have discoveryRead := settings.discovery.ofValue?_toJson
  calc ofValue? .strict settings.toJson
    _ = (DiscoverySettings.ofValue? .strict settings.discovery.toJson).bind fun discovery =>
        some { settings with discovery } := rfl
    _ = some settings := by
      rw [discoveryRead]
      rfl

/-- Edits make no difference to settings, at any depth. -/
theorem respects : Respects Edit (ofValue? .strict) :=
  Respects.record fun left right alike => by
    rw [alike.orElse "discovery" (by decide) {} DiscoverySettings.respects,
      alike.orElse "reports" (by decide) {} ReportSettings.respects]

end Settings

/-! ## Texts -/

namespace JsonForm

/-- Values are kept by the text that they are written as, and by texts that differ from it by edits
that make no difference. -/
structure Keeps (α : Type) [JsonForm α] (fits : α → Prop) (edit : Value → Value → Prop) :
    Prop where
  /-- A value is read back from the text that it is written as. -/
  readBack : ∀ value, fits value → read? (write value) = some value
  /-- Texts that differ by edits are read alike, whatever they hold. -/
  alike : ∀ document edited before after, Value.parse? document = some before →
    Value.parse? edited = some after → Relation.ReflTransGen edit before after →
      (read? edited : Option α) = read? document
  /-- So the value is read back after any edits of what is written, in both layouts. -/
  readBackEdited : ∀ value, fits value → ∀ after, Relation.ReflTransGen edit (toJson value) after →
    ∀ layout, read? (String.ofList (after.print layout 0)) = some value

/-- Values are kept if they are read back from what they are turned into, and the reader respects
the edits: each value is read back from its text. -/
theorem keeps_of_respects {α : Type} [JsonForm α] {fits : α → Prop} {edit : Value → Value → Prop}
    (readBack : ∀ value, fits value → ofJson? (toJson value) = some value)
    (respects : Respects edit (ofJson? : Value → Option α)) : Keeps α fits edit := by
  constructor
  case readBack =>
    intro value held
    rw [read?, write, Value.compact, Value.parse?_print, Option.bind_some, readBack value held]
  case alike =>
    intro document edited before after holds editedHolds edits
    rw [read?, read?, holds, editedHolds, Option.bind_some, Option.bind_some,
      respects.closure before after edits]
  case readBackEdited =>
    intro value held after edits layout
    rw [read?, Value.parse?_print, Option.bind_some, ← respects.closure _ after edits,
      readBack value held]

/-- What is kept of each type. -/
structure DataKept : Prop where
  names : Keeps Name (fun _ => True) NoEdit
  suiteKeys : Keeps SuiteKey (fun _ => True) SuiteKey.Edit
  typeKinds : Keeps TypeKind (fun _ => True) TypeKind.Edit
  typeDecls : Keeps TypeDecl (fun _ => True) TypeDecl.Edit
  setters : Keeps Setter Setter.Fits Setter.Edit
  defects : Keeps Defect Defect.Fits Defect.Edit
  markers : Keeps Marker (fun _ => True) Marker.Edit
  parents : Keeps Parent (fun _ => True) Parent.Edit
  sections : Keeps SectionSettings (fun _ => True) SectionSettings.Edit
  reports : Keeps ReportSettings (fun _ => True) ReportSettings.Edit
  discoveries : Keeps DiscoverySettings (fun _ => True) DiscoverySettings.Edit
  settings : Keeps Settings (fun _ => True) Settings.Edit

/-- Every value of the types with a JSON form is read back from its text, and the order of members
makes no difference, nor do members that are no fields. -/
theorem data_kept : DataKept where
  names := keeps_of_respects (fun _ _ => rfl) .noEdit
  suiteKeys := keeps_of_respects (fun _ _ => rfl) SuiteKey.respects
  typeKinds := keeps_of_respects (fun kind _ => kind.ofJson?_toJson) TypeKind.respects
  typeDecls := keeps_of_respects (fun decl _ => decl.ofJson?_toJson) TypeDecl.respects
  setters := keeps_of_respects Setter.ofJson?_toJson Setter.respects
  defects := keeps_of_respects Defect.ofJson?_toJson Defect.respects
  markers := keeps_of_respects (fun marker _ => marker.ofJson?_toJson) Marker.respects
  parents := keeps_of_respects (fun _ _ => rfl) Parent.respects
  sections := keeps_of_respects (fun _ _ => rfl) SectionSettings.respects
  reports := keeps_of_respects (fun _ _ => rfl) ReportSettings.respects
  discoveries := keeps_of_respects (fun settings _ => settings.ofValue?_toJson)
    DiscoverySettings.respects
  settings := keeps_of_respects (fun settings _ => settings.ofValue?_toJson) Settings.respects

end JsonForm

end Conformance
