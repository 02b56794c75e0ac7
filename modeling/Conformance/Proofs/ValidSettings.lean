import Conformance.Coverage.Gather
import Conformance.Proofs.SkipLists
import Mathlib.Data.List.TakeWhile

/-!
# Which settings are valid

Settings are documented to need between 1 and 256 packages, at most 1024 declaring types to
leave out, and proper names in both lists: what remains of an entry without the blank
characters at its ends is not empty, has at most 1024 bytes and holds no blank character.
`Settings.Documented` says so, and `FirstViolation` lists what else there is, each check with
all that come before it passed. Together they leave nothing out
(`Settings.documented_or_violated`), and validation answers as they tell.

Declaring types are checked once more, as names of types. The two checks have limits of
their own, which are the same, so the second one never refuses what has passed the first.
For the same reason what the settings hand on, to a skip list or to a report, is read as a
name and not changed by that.

Main statement: `Settings.validation_exact`.
-/

namespace Conformance

/-! ## Trimmed texts -/

namespace Text

/-- Blank characters at the ends do not matter to what remains without them. -/
theorem trimChars_surrounded (front chars back : List Char) (frontBlank : ∀ c ∈ front, isBlank c)
    (backBlank : ∀ c ∈ back, isBlank c) : trimChars (front ++ chars ++ back) = trimChars chars := by
  have dropped (kept : List Char) :
      (back.reverse ++ kept).dropWhile isBlank = kept.dropWhile isBlank :=
    List.dropWhile_append_of_pos fun c member => backBlank c (List.mem_reverse.mp member)
  have nothing : back.dropWhile isBlank = [] := List.dropWhile_eq_nil_iff.mpr backBlank
  rw [trimChars, trimChars, List.append_assoc, List.dropWhile_append_of_pos frontBlank,
    List.dropWhile_append, nothing]
  split
  case isTrue none => rw [List.isEmpty_iff.mp none]
  case isFalse some => rw [List.reverse_append, dropped]

/-- Whatever is trimmed off is blank. -/
theorem exists_surrounded (chars : List Char) : ∃ front back,
    chars = front ++ trimChars chars ++ back ∧
      (∀ c ∈ front, isBlank c) ∧ ∀ c ∈ back, isBlank c := by
  let kept := chars.dropWhile isBlank
  refine ⟨chars.takeWhile isBlank, (kept.reverse.takeWhile isBlank).reverse, ?_, ?_, ?_⟩
  · have back : trimChars chars ++ (kept.reverse.takeWhile isBlank).reverse = kept := by
      rw [trimChars, ← List.reverse_append, List.takeWhile_append_dropWhile, List.reverse_reverse]
    rw [List.append_assoc, back, List.takeWhile_append_dropWhile]
  · exact fun c member => List.mem_takeWhile_imp member
  · exact fun c member => List.mem_takeWhile_imp (List.mem_reverse.mp member)

/-- What remains of a text without the blank characters at its ends. -/
structure Trims (text trimmed : String) : Prop where
  whole : ∃ front back, text.toList = front ++ trimmed.toList ++ back ∧
    (∀ c ∈ front, isBlank c) ∧ ∀ c ∈ back, isBlank c
  first : ∀ c, trimmed.toList.head? = some c → isBlank c = false
  last : ∀ c, trimmed.toList.getLast? = some c → isBlank c = false

/-- There is one such remainder, and it is the trimmed text. -/
theorem trims_iff (text trimmed : String) : Trims text trimmed ↔ trimmed = trim text := by
  constructor
  · intro trims
    obtain ⟨front, back, whole, frontBlank, backBlank⟩ := trims.whole
    rw [trim, whole, trimChars_surrounded front _ back frontBlank backBlank,
      trimChars_eq_self _ trims.first trims.last, String.ofList_toList]
  · rintro rfl
    constructor
    case whole =>
      rw [trim, String.toList_ofList]
      exact exists_surrounded text.toList
    case first =>
      rw [trim, String.toList_ofList]
      exact isBlank_of_head?_trimChars text.toList
    case last =>
      rw [trim, String.toList_ofList]
      exact isBlank_of_getLast?_trimChars text.toList

/-- A text is free of blanks if all its characters are. -/
theorem hasBlank_eq_false_iff (text : String) :
    hasBlank text = false ↔ ∀ c ∈ text.toList, isBlank c = false := by
  simp [hasBlank, List.any_eq_false]

end Text

/-! ## Entries of lists of names -/

/-- An entry of a list of names is proper if what remains of it without the blank characters at its
ends is this name. -/
structure Names (entry name : String) : Prop where
  trims : Text.Trims entry name
  present : name ≠ ""
  short : name.utf8ByteSize ≤ 1024
  solid : ∀ c ∈ name.toList, Text.isBlank c = false

/-- What can be wrong with an entry. The first of three checks that fails decides. -/
inductive NameViolation (entry : String) : NameFault → Prop where
  | empty (trims : Text.Trims entry "") : NameViolation entry .empty
  | tooLong (name : String) (trims : Text.Trims entry name) (long : 1024 < name.utf8ByteSize) :
    NameViolation entry .tooLong
  | blank (name : String) (trims : Text.Trims entry name) (short : name.utf8ByteSize ≤ 1024)
      (c : Char) (inside : c ∈ name.toList) (isBlank : Text.isBlank c) :
    NameViolation entry (.blank name)

/-- No fault is found in a proper entry. -/
theorem nameFault?_of_names (entry name : String) (names : Names entry name) :
    nameFault? entry = none := by
  obtain rfl := (Text.trims_iff entry name).mp names.trims
  have present : (Text.trim entry).isEmpty = false := by simpa using names.present
  have short : ¬ maxNameBytes < (Text.trim entry).utf8ByteSize := Nat.not_lt.mpr names.short
  have solid := (Text.hasBlank_eq_false_iff _).mpr names.solid
  simp [nameFault?, present, short, solid]

/-- The fault that is found is what is wrong with the entry. -/
theorem nameFault?_of_violation (entry : String) (fault : NameFault)
    (violation : NameViolation entry fault) : nameFault? entry = some fault := by
  cases violation with
  | empty trims => simp [nameFault?, ← (Text.trims_iff entry "").mp trims]
  | tooLong name trims long =>
    obtain rfl := (Text.trims_iff entry name).mp trims
    have present : Text.trim entry ≠ "" := by
      intro empty
      simp [empty] at long
    have beyond : maxNameBytes < (Text.trim entry).utf8ByteSize := long
    simp [nameFault?, present, beyond]
  | blank name trims short c inside isBlank =>
    obtain rfl := (Text.trims_iff entry name).mp trims
    have present : Text.trim entry ≠ "" := by
      intro empty
      simp [empty] at inside
    have within : ¬ maxNameBytes < (Text.trim entry).utf8ByteSize := Nat.not_lt.mpr short
    have blank : Text.hasBlank (Text.trim entry) = true :=
      List.any_eq_true.mpr ⟨c, inside, isBlank⟩
    simp [nameFault?, present, within, blank]

/-- An entry is proper, or one of the checks fails. -/
theorem names_or_violation (entry : String) :
    (∃ name, Names entry name) ∨ ∃ fault, NameViolation entry fault := by
  have trims := (Text.trims_iff entry (Text.trim entry)).mpr rfl
  by_cases empty : Text.trim entry = ""
  · rw [empty] at trims
    exact .inr ⟨_, .empty trims⟩
  by_cases long : 1024 < (Text.trim entry).utf8ByteSize
  · exact .inr ⟨_, .tooLong _ trims long⟩
  have short := Nat.not_lt.mp long
  cases blank : Text.hasBlank (Text.trim entry) with
  | false => exact .inl ⟨_, trims, empty, short, (Text.hasBlank_eq_false_iff _).mp blank⟩
  | true =>
    obtain ⟨c, inside, isBlank⟩ := List.any_eq_true.mp blank
    exact .inr ⟨_, .blank _ trims short c inside isBlank⟩

/-- An entry has no fault exactly if it is proper. -/
theorem nameFault?_eq_none_iff (entry : String) :
    nameFault? entry = none ↔ ∃ name, Names entry name := by
  constructor
  · intro faultless
    rcases names_or_violation entry with proper | ⟨fault, violation⟩
    · exact proper
    · rw [nameFault?_of_violation entry fault violation] at faultless
      cases faultless
  · rintro ⟨name, names⟩
    exact nameFault?_of_names entry name names

/-- An entry has a fault exactly if the check for it is the first that fails. -/
theorem nameFault?_eq_some_iff (entry : String) (fault : NameFault) :
    nameFault? entry = some fault ↔ NameViolation entry fault := by
  constructor
  · intro found
    rcases names_or_violation entry with ⟨name, names⟩ | ⟨other, violation⟩
    · rw [nameFault?_of_names entry name names] at found
      cases found
    · rw [nameFault?_of_violation entry other violation] at found
      exact Option.some.inj found ▸ violation
  · exact nameFault?_of_violation entry fault

/-- The two checks of a declaring type come to the first one. -/
theorem skipClassFault?_eq_nameFault? (entry : String) :
    skipClassFault? entry = (nameFault? entry).map (.entry .skipClasses) := by
  rw [skipClassFault?_eq, nameFault?_eq, Option.map_map]
  rfl

/-- A proper entry is read as the name that remains of it. -/
theorem Names.parse_eq {entry name : String} (names : Names entry name) :
    Name.parse entry = .ok ⟨name⟩ := by
  have accepted : Name.refusal? entry = none := by
    have faultless := nameFault?_of_names entry name names
    rw [nameFault?_eq] at faultless
    exact Option.map_eq_none_iff.mp faultless
  obtain ⟨read, parsed⟩ := (Name.refusal?_eq_none_iff entry).mp accepted
  rw [parsed, Name.eq_trim_of_parse entry read parsed, ← (Text.trims_iff entry name).mp names.trims]

/-- The name that remains of a proper entry is read and not changed. -/
theorem Names.parse_self {entry name : String} (names : Names entry name) :
    Name.parse name = .ok ⟨name⟩ := by
  have trimmed := (Text.trims_iff entry name).mp names.trims
  rw [← names.parse_eq, trimmed, Name.parse_trim]

/-! ## Lists of names -/

/-- The first entry of a list that is not proper, with what is wrong with it. -/
def FirstFault (entries : List String) (fault : NameFault) : Prop :=
  ∃ front entry back, entries = front ++ entry :: back ∧
    (∀ earlier ∈ front, ∃ name, Names earlier name) ∧ NameViolation entry fault

/-- No fault is found in a list exactly if all its entries are proper. -/
theorem findSome?_nameFault?_eq_none_iff (entries : List String) :
    entries.findSome? nameFault? = none ↔ ∀ entry ∈ entries, ∃ name, Names entry name := by
  simp only [List.findSome?_eq_none_iff, nameFault?_eq_none_iff]

/-- The fault that is found in a list is that of its first entry that is not proper. -/
theorem findSome?_nameFault?_eq_some_iff (entries : List String) (fault : NameFault) :
    entries.findSome? nameFault? = some fault ↔ FirstFault entries fault := by
  simp only [List.findSome?_eq_some_iff, nameFault?_eq_none_iff, nameFault?_eq_some_iff,
    FirstFault, and_comm]

/-- A list is proper throughout, or there is a first entry that is not. -/
theorem proper_or_firstFault (entries : List String) :
    (∀ entry ∈ entries, ∃ name, Names entry name) ∨ ∃ fault, FirstFault entries fault := by
  cases found : entries.findSome? nameFault? with
  | none => exact .inl ((findSome?_nameFault?_eq_none_iff entries).mp found)
  | some fault => exact .inr ⟨fault, (findSome?_nameFault?_eq_some_iff entries fault).mp found⟩

/-! ## Settings -/

namespace Settings

/-- How many packages and declaring types settings may name. -/
structure Counted (settings : Settings) : Prop where
  somePackage : 1 ≤ settings.discovery.packages.length
  fewPackages : settings.discovery.packages.length ≤ 256
  fewSkipClasses : settings.discovery.skipClasses.length ≤ 1024

/-- The settings that are documented to be valid. -/
structure Documented (settings : Settings) : Prop extends Counted settings where
  packages : ∀ package ∈ settings.discovery.packages, ∃ name, Names package name
  skipClasses : ∀ entry ∈ settings.discovery.skipClasses, ∃ name, Names entry name

/-- The first check that settings violate. -/
inductive FirstViolation (settings : Settings) : Invalid → Prop where
  | noPackages (none : settings.discovery.packages = []) : FirstViolation settings .noPackages
  | tooManyPackages (many : 256 < settings.discovery.packages.length) :
    FirstViolation settings .tooManyPackages
  | tooManySkipClasses (somePackage : 1 ≤ settings.discovery.packages.length)
      (fewPackages : settings.discovery.packages.length ≤ 256)
      (many : 1024 < settings.discovery.skipClasses.length) :
    FirstViolation settings .tooManySkipClasses
  | package (counted : settings.Counted) (fault : NameFault)
      (first : FirstFault settings.discovery.packages fault) :
    FirstViolation settings (.entry .packages fault)
  | skipClass (counted : settings.Counted)
      (packages : ∀ package ∈ settings.discovery.packages, ∃ name, Names package name)
      (fault : NameFault) (first : FirstFault settings.discovery.skipClasses fault) :
    FirstViolation settings (.entry .skipClasses fault)

variable (settings : Settings)

/-- Settings are as documented, or there is a first check that they violate. -/
theorem documented_or_violated :
    settings.Documented ∨ ∃ invalid, FirstViolation settings invalid := by
  by_cases none : settings.discovery.packages = []
  · exact .inr ⟨_, .noPackages none⟩
  have somePackage : 1 ≤ settings.discovery.packages.length := List.length_pos_iff.mpr none
  by_cases manyPackages : 256 < settings.discovery.packages.length
  · exact .inr ⟨_, .tooManyPackages manyPackages⟩
  have fewPackages := Nat.not_lt.mp manyPackages
  by_cases manySkipClasses : 1024 < settings.discovery.skipClasses.length
  · exact .inr ⟨_, .tooManySkipClasses somePackage fewPackages manySkipClasses⟩
  have counted : settings.Counted := ⟨somePackage, fewPackages, Nat.not_lt.mp manySkipClasses⟩
  rcases proper_or_firstFault settings.discovery.packages with packages | ⟨fault, first⟩
  · rcases proper_or_firstFault settings.discovery.skipClasses with skipClasses | ⟨fault, first⟩
    · exact .inl ⟨counted, packages, skipClasses⟩
    · exact .inr ⟨_, .skipClass counted packages fault first⟩
  · exact .inr ⟨_, .package counted fault first⟩

/-- Once the counts have passed, the first entry that is not proper decides, and packages come
first. -/
theorem fault?_of_counted (counted : settings.Counted) :
    settings.fault? =
      ((settings.discovery.packages.findSome? nameFault?).map (.entry .packages) <|>
        (settings.discovery.skipClasses.findSome? nameFault?).map (.entry .skipClasses)) := by
  have present : settings.discovery.packages.isEmpty = false := by
    simpa using List.length_pos_iff.mp counted.somePackage
  have fewPackages : ¬ maxPackages < settings.discovery.packages.length :=
    Nat.not_lt.mpr counted.fewPackages
  have fewSkipClasses : ¬ maxSkipClasses < settings.discovery.skipClasses.length :=
    Nat.not_lt.mpr counted.fewSkipClasses
  rw [fault?, present, if_neg Bool.false_ne_true, if_neg fewPackages, if_neg fewSkipClasses,
    List.map_findSome?, List.map_findSome?, funext skipClassFault?_eq_nameFault?]
  rfl

/-- No fault is found in settings that are as documented. -/
theorem fault?_of_documented (documented : settings.Documented) : settings.fault? = none := by
  rw [fault?_of_counted settings documented.toCounted,
    (findSome?_nameFault?_eq_none_iff _).mpr documented.packages,
    (findSome?_nameFault?_eq_none_iff _).mpr documented.skipClasses]
  rfl

/-- The fault that is found is the first check that is violated. -/
theorem fault?_of_firstViolation (invalid : Invalid)
    (violated : FirstViolation settings invalid) : settings.fault? = some invalid := by
  cases violated with
  | noPackages none => simp [fault?, none]
  | tooManyPackages many =>
    have beyond : maxPackages < settings.discovery.packages.length := many
    have present : settings.discovery.packages ≠ [] := by
      apply List.length_pos_iff.mp
      omega
    simp [fault?, present, beyond]
  | tooManySkipClasses somePackage fewPackages many =>
    have present : settings.discovery.packages ≠ [] := List.length_pos_iff.mp somePackage
    have within : ¬ maxPackages < settings.discovery.packages.length := Nat.not_lt.mpr fewPackages
    have beyond : maxSkipClasses < settings.discovery.skipClasses.length := many
    simp [fault?, present, within, beyond]
  | package counted fault first =>
    rw [fault?_of_counted settings counted, (findSome?_nameFault?_eq_some_iff _ fault).mpr first]
    rfl
  | skipClass counted packages fault first =>
    rw [fault?_of_counted settings counted, (findSome?_nameFault?_eq_none_iff _).mpr packages,
      (findSome?_nameFault?_eq_some_iff _ fault).mpr first]
    rfl

/-- Validation accepts what is documented, and nothing else. -/
theorem validate_eq_ok_iff_documented : settings.validate = .ok () ↔ settings.Documented := by
  rw [settings.validate_eq_ok_iff]
  constructor
  · intro faultless
    rcases settings.documented_or_violated with documented | ⟨invalid, violated⟩
    · exact documented
    · rw [fault?_of_firstViolation settings invalid violated] at faultless
      cases faultless
  · exact fault?_of_documented settings

/-- Validation answers with the first check that is violated. -/
theorem validate_eq_error_iff_violated (invalid : Invalid) :
    settings.validate = .error invalid ↔ FirstViolation settings invalid := by
  rw [settings.validate_eq_error_iff]
  constructor
  · intro found
    rcases settings.documented_or_violated with documented | ⟨other, violated⟩
    · rw [fault?_of_documented settings documented] at found
      cases found
    · rw [fault?_of_firstViolation settings other violated] at found
      exact Option.some.inj found ▸ violated
  · exact fault?_of_firstViolation settings invalid

/-- What validation has to be. -/
structure ValidationExact : Prop where
  accepted : settings.validate = .ok () ↔ settings.Documented
  refused : ∀ invalid, settings.validate = .error invalid ↔ FirstViolation settings invalid
  /-- Declaring types that pass the first check pass the second one. -/
  passed : ∀ entry, nameFault? entry = none → ∃ name, Name.parse entry = .ok name
  unreachable : ∀ name reason, settings.validate ≠ .error (.notAName name reason)
  /-- All names on the skip list of valid settings are read as they are. -/
  skipList : settings.validate = .ok () →
    ∀ name ∈ settings.skipList, Name.parse name.text = .ok name
  /-- So are the packages that a report is gathered for. -/
  packages : settings.validate = .ok () → ∀ context : Context,
    ∀ package ∈ (context.gather settings.packages).value.packages,
      Name.parse package = .ok ⟨package⟩

/-- Validation accepts exactly the settings that are documented, and otherwise answers with the
first check that is violated. What valid settings hand on is read as names and not changed.

The second check of declaring types is the one of names, and it asks for what the first one has
found, so its refusals are among no first violations. -/
theorem validation_exact : settings.ValidationExact := by
  have proper (name entry : String) (trimmed : Text.trim entry = name)
      (named : ∃ remainder, Names entry remainder) : Name.parse name = .ok ⟨name⟩ := by
    obtain ⟨remainder, names⟩ := named
    obtain rfl := (Text.trims_iff entry remainder).mp names.trims
    exact trimmed ▸ names.parse_self
  constructor
  case accepted => exact settings.validate_eq_ok_iff_documented
  case refused => exact settings.validate_eq_error_iff_violated
  case passed =>
    intro entry faultless
    obtain ⟨name, names⟩ := (nameFault?_eq_none_iff entry).mp faultless
    exact ⟨⟨name⟩, names.parse_eq⟩
  case unreachable =>
    intro name reason refused
    cases (settings.validate_eq_error_iff_violated _).mp refused
  case skipList =>
    intro accepted ⟨text⟩ listed
    have documented := settings.validate_eq_ok_iff_documented.mp accepted
    obtain ⟨entry, member, trimmed⟩ := List.mem_map.mp ((SortedSet.mem_ofList _ _).mp listed)
    exact proper text entry (Name.mk.inj trimmed) (documented.skipClasses entry member)
  case packages =>
    intro accepted context package listed
    have documented := settings.validate_eq_ok_iff_documented.mp accepted
    rw [context.value_gather] at listed
    obtain ⟨entry, member, trimmed⟩ := List.mem_map.mp listed
    exact proper package entry trimmed (documented.packages entry member)

end Settings

end Conformance
