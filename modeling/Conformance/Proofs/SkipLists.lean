import Conformance.Proofs.FirstOccurrences
import Conformance.Settings.Validation

/-!
# Two ways to a skip list

A comma-separated text can be read as a skip list at once. It can also be merged into the
settings, which are validated as a whole and turned into a skip list afterwards. Both ways
come to the same.

They cut the text alike, at commas, and drop blank segments; what remains are the names
that the text lists, `SkipList.named`. Reading checks them one by one. Merging keeps the
first occurrence of each that is new (`addSkipped_eq`), and validation checks these. The
two checks of a name refuse the same texts for the same reasons (`nameFault?_eq`), and of
equal names the first decides, so both ways stop at the same one. What reading drops by
building a set, merging drops by looking at what is there already.

Main statement: `Settings.skip_routes_agree`.
-/

namespace Conformance

/-! ## Checks of a name -/

/-- Why a text is not a name, if it is not. -/
def Name.refusal? (raw : String) : Option Name.Malformed :=
  match Name.parse raw with
  | .ok _ => none
  | .error reason => some reason

/-- Blanks around a name make no difference to whether it is refused. -/
theorem Name.refusal?_trim (raw : String) : refusal? (Text.trim raw) = refusal? raw := by
  rw [refusal?, parse_trim, refusal?]

/-- A name is not refused if it can be read. -/
theorem Name.refusal?_eq_none_iff (raw : String) :
    refusal? raw = none ↔ ∃ name, parse raw = .ok name := by
  unfold refusal?
  cases parse raw <;> simp

/-- A name is refused for the reason that reading it fails for. -/
theorem Name.refusal?_eq_some_iff (raw : String) (reason : Malformed) :
    refusal? raw = some reason ↔ parse raw = .error reason := by
  unfold refusal?
  cases parse raw <;> simp

/-- The fault of a text that is not a name. -/
def NameFault.ofMalformed : Name.Malformed → NameFault
  | .empty => .empty
  | .tooLong => .tooLong
  | .blank text => .blank text

/-- The check of settings refuses what is not a name, for the same reason: both have the same limit
and the same order. -/
theorem nameFault?_eq (entry : String) :
    nameFault? entry = (Name.refusal? entry).map .ofMalformed := by
  have limit : maxNameBytes = Name.maxBytes := rfl
  unfold nameFault? Name.refusal? Name.parse
  simp only [limit]
  by_cases empty : (Text.trim entry).isEmpty = true
  · simp [empty, NameFault.ofMalformed]
  · by_cases long : Name.maxBytes < (Text.trim entry).utf8ByteSize
    · simp [empty, long, NameFault.ofMalformed]
    · by_cases blank : Text.hasBlank (Text.trim entry) = true <;>
        simp [empty, long, blank, NameFault.ofMalformed]

/-- What passes the check of settings is a name, so it is refused by no other check. -/
theorem skipClassFault?_eq (entry : String) :
    skipClassFault? entry =
      (Name.refusal? entry).map fun reason => .entry .skipClasses (.ofMalformed reason) := by
  rw [skipClassFault?, nameFault?_eq]
  cases refused : Name.refusal? entry with
  | some reason => rfl
  | none =>
    obtain ⟨name, read⟩ := (Name.refusal?_eq_none_iff entry).mp refused
    rw [read]
    rfl

/-! ## The names that a text lists -/

/-- The names that a comma-separated text lists, in order and with repetitions. -/
def SkipList.named (raw : String) : List String :=
  ((Text.split ',' raw).map Text.trim).filter fun name => !name.isEmpty

/-- Listed names have no blanks around them. -/
theorem SkipList.trim_of_named (raw name : String) (listed : name ∈ named raw) :
    Text.trim name = name := by
  obtain ⟨segment, _, rfl⟩ := List.mem_map.mp (List.mem_of_mem_filter listed)
  exact Text.trim_trim segment

/-- A traversal that may refuse is refused by the first item that is. -/
theorem mapM_parse_eq (names : List String) :
    names.mapM Name.parse =
      match names.findSome? Name.refusal? with
      | none => .ok (names.map fun name => ⟨Text.trim name⟩)
      | some reason => .error reason := by
  induction names with
  | nil => rfl
  | cons name rest inductionHypothesis =>
    rw [List.mapM_cons, inductionHypothesis, List.findSome?_cons]
    cases read : Name.parse name with
    | error reason =>
      rw [(Name.refusal?_eq_some_iff name reason).mpr read]
      rfl
    | ok parsed =>
      rw [(Name.refusal?_eq_none_iff name).mpr ⟨parsed, read⟩,
        Name.eq_trim_of_parse name parsed read]
      cases rest.findSome? Name.refusal? <;> rfl

/-- Reading is refused by the first listed name that is none, and else gives the set of them. -/
theorem SkipList.parse_eq (raw : String) :
    SkipList.parse raw =
      match (named raw).findSome? Name.refusal? with
      | none => .ok (SortedSet.ofList ((named raw).map Name.mk))
      | some reason => .error reason := by
  have checked (segments : List String) :
      (segments.filter fun segment => !(Text.trim segment).isEmpty).mapM Name.parse =
        ((segments.map Text.trim).filter fun name => !name.isEmpty).mapM Name.parse := by
    have same : (fun segment => Name.parse (Text.trim segment)) = Name.parse :=
      funext Name.parse_trim
    rw [List.filter_map, List.mapM_map, Function.comp_def, Function.comp_def, same]
  have trimmed : ((named raw).map fun name => (⟨Text.trim name⟩ : Name)) =
      (named raw).map Name.mk :=
    List.map_congr_left fun name listed => congrArg Name.mk (trim_of_named raw name listed)
  rw [parse, checked, ← named, mapM_parse_eq, trimmed]
  cases (named raw).findSome? Name.refusal? with
  | none => rfl
  | some reason => rfl

/-- Why a segment refuses the list that it belongs to. Blank segments do not. -/
def SkipList.segmentRefusal? (segment : String) : Option Name.Malformed :=
  if Text.trim segment = "" then none else Name.refusal? segment

/-- A segment is not refused if it is blank or can be read as a name. -/
theorem SkipList.segmentRefusal?_eq_none_iff (segment : String) :
    segmentRefusal? segment = none ↔
      Text.trim segment = "" ∨ ∃ name, Name.parse segment = .ok name := by
  rw [← Name.refusal?_eq_none_iff, segmentRefusal?]
  by_cases blank : Text.trim segment = "" <;> simp [blank]

/-- The first name that is refused comes from the first segment that is. -/
theorem SkipList.findSome?_named (raw : String) :
    (named raw).findSome? Name.refusal? = (Text.split ',' raw).findSome? segmentRefusal? := by
  rw [named]
  induction Text.split ',' raw with
  | nil => rfl
  | cons segment rest inductionHypothesis =>
    rw [List.map_cons, List.filter_cons, List.findSome?_cons, ← inductionHypothesis]
    by_cases blank : Text.trim segment = ""
    · simp [segmentRefusal?, blank]
    · simp [segmentRefusal?, blank, List.findSome?_cons, Name.refusal?_trim]

/-! ## Merging -/

namespace Settings

/-- Merging keeps what is there and adds the first occurrence of each listed name that is new. -/
theorem addSkipped_eq (existing segments : List String) :
    addSkipped existing segments = existing ++
      ((segments.map Text.trim).filter fun name => !name.isEmpty).eraseDups.filter
        fun name => decide (name ∉ existing.map Text.trim) := by
  induction segments generalizing existing with
  | nil => simp [addSkipped]
  | cons segment rest inductionHypothesis =>
    rw [addSkipped, List.map_cons, List.filter_cons]
    generalize (rest.map Text.trim).filter (fun name => !name.isEmpty) = later
      at inductionHypothesis ⊢
    by_cases empty : (Text.trim segment).isEmpty = true
    · simp [empty, inductionHypothesis]
    · have present : (Text.trim segment).isEmpty = false := by simpa using empty
      have known : (existing.any fun other => Text.trim other = Text.trim segment) =
          decide (Text.trim segment ∈ existing.map Text.trim) := by
        rw [Bool.eq_iff_iff, List.any_eq_true, decide_eq_true_eq, List.mem_map]
        simp only [decide_eq_true_eq]
      simp only [present, known, Bool.false_or, Bool.not_false, if_true, List.eraseDups_cons,
        eraseDups_filter, List.filter_cons, List.filter_filter, decide_eq_true_eq]
      -- a new name is known to the segments behind it, so its repetitions go either way
      by_cases old : Text.trim segment ∈ existing.map Text.trim
      · rw [if_pos old, if_neg (not_not_intro old), inductionHypothesis]
        refine congrArg (existing ++ ·) (List.filter_congr ?_)
        intro name _
        by_cases same : name = Text.trim segment <;> simp [same, old]
      · rw [if_neg old, if_pos old, inductionHypothesis, List.append_assoc, List.singleton_append]
        refine congrArg (existing ++ Text.trim segment :: ·) (List.filter_congr ?_)
        intro name _
        by_cases same : name = Text.trim segment <;> simp [same]

variable (settings : Settings) (raw : String)

/-- The settings into which a text is merged. -/
def merged : Settings := (settings.mergeSkipClasses raw).value

/-- Merging adds the listed names that are not left out yet, each once. -/
theorem skipClasses_merged : (settings.merged raw).discovery.skipClasses =
    settings.discovery.skipClasses ++ (SkipList.named raw).eraseDups.filter
      fun name => decide (name ∉ settings.discovery.skipClasses.map Text.trim) :=
  addSkipped_eq settings.discovery.skipClasses (Text.split ',' raw)

/-- Settings that leave nothing out get the listed names, each once. -/
theorem skipClasses_merged_of_nil (nothing : settings.discovery.skipClasses = []) :
    (settings.merged raw).discovery.skipClasses = (SkipList.named raw).eraseDups := by
  rw [skipClasses_merged, nothing]
  exact List.filter_eq_self.mpr fun name _ => decide_eq_true List.not_mem_nil

/-- What merging leaves out is what was left out and what the text lists. -/
theorem mem_skipList_merged (name : Name) : name ∈ (settings.merged raw).skipList ↔
    name ∈ settings.skipList ∨ name.text ∈ SkipList.named raw := by
  obtain ⟨text⟩ := name
  have skipped (settings : Settings) : ⟨text⟩ ∈ settings.skipList ↔
      text ∈ settings.discovery.skipClasses.map Text.trim := by
    simp [skipList, SortedSet.mem_ofList]
  have trimmed (keep : String → Bool) :
      ((SkipList.named raw).eraseDups.filter keep).map Text.trim =
        (SkipList.named raw).eraseDups.filter keep := by
    refine (List.map_congr_left fun name listed => ?_).trans (List.map_id _)
    exact SkipList.trim_of_named raw name (List.mem_eraseDups.mp (List.mem_of_mem_filter listed))
  rw [skipped, skipped, skipClasses_merged, List.map_append, trimmed, List.mem_append,
    List.mem_filter, List.mem_eraseDups, decide_eq_true_eq]
  by_cases old : text ∈ settings.discovery.skipClasses.map Text.trim
  · exact iff_of_true (.inl old) (.inl old)
  · rw [or_iff_right old, or_iff_right old, and_iff_left old]

/-! ## Validation -/

/-- The packages of settings pass validation. -/
structure ValidPackages : Prop where
  some : settings.discovery.packages ≠ []
  few : settings.discovery.packages.length ≤ maxPackages
  named : ∀ package ∈ settings.discovery.packages, packageFault? package = none

/-- If the packages pass, the number of the declaring types to leave out is checked, and then each
of them. -/
theorem fault?_of_validPackages (valid : settings.ValidPackages) :
    settings.fault? =
      if maxSkipClasses < settings.discovery.skipClasses.length then some .tooManySkipClasses
      else (settings.discovery.skipClasses.findSome? Name.refusal?).map
        fun reason => .entry .skipClasses (.ofMalformed reason) := by
  have present : settings.discovery.packages.isEmpty = false := by simpa using valid.some
  have passed : settings.discovery.packages.findSome? packageFault? = none :=
    List.findSome?_eq_none_iff.mpr valid.named
  rw [fault?, present, if_neg Bool.false_ne_true, if_neg (Nat.not_lt.mpr valid.few), passed,
    List.map_findSome?, funext skipClassFault?_eq]
  rfl

/-- Validation of settings that left nothing out before a text was merged in. -/
theorem validate_merged (valid : settings.ValidPackages)
    (nothing : settings.discovery.skipClasses = []) :
    (settings.merged raw).validate =
      if maxSkipClasses < (SkipList.named raw).eraseDups.length then .error .tooManySkipClasses
      else match (SkipList.named raw).findSome? Name.refusal? with
        | none => .ok ()
        | some reason => .error (.entry .skipClasses (.ofMalformed reason)) := by
  have stillValid : (settings.merged raw).ValidPackages := ⟨valid.some, valid.few, valid.named⟩
  rw [validate, fault?_of_validPackages _ stillValid, skipClasses_merged_of_nil _ _ nothing,
    findSome?_eraseDups]
  by_cases many : maxSkipClasses < (SkipList.named raw).eraseDups.length
  · rw [if_pos many, if_pos many]
  · rw [if_neg many, if_neg many]
    cases (SkipList.named raw).findSome? Name.refusal? with
    | none => rfl
    | some reason => rfl

/-- The declaring types that valid settings leave out have names. -/
theorem refusal?_of_validate (valid : settings.ValidPackages)
    (accepted : settings.validate = .ok ()) :
    ∀ name ∈ settings.discovery.skipClasses, Name.refusal? name = none := by
  intro name listed
  have fault := (settings.validate_eq_ok_iff).mp accepted
  rw [fault?_of_validPackages settings valid] at fault
  split at fault
  · cases fault
  · exact List.findSome?_eq_none_iff.mp (Option.map_eq_none_iff.mp fault) name listed

/-- If the merged settings are valid, the text lists nothing but names: what is not new was there
before and has been checked with the rest. -/
theorem named_of_validate (valid : settings.ValidPackages)
    (accepted : (settings.merged raw).validate = .ok ()) :
    (SkipList.named raw).findSome? Name.refusal? = none := by
  have faultless := refusal?_of_validate (settings.merged raw) ⟨valid.some, valid.few, valid.named⟩
    accepted
  rw [skipClasses_merged, List.forall_mem_append] at faultless
  obtain ⟨before, added⟩ := faultless
  rw [List.findSome?_eq_none_iff]
  intro name listed
  by_cases old : name ∈ settings.discovery.skipClasses.map Text.trim
  · obtain ⟨entry, member, rfl⟩ := List.mem_map.mp old
    rw [Name.refusal?_trim]
    exact before entry member
  · exact added name (List.mem_filter.mpr ⟨List.mem_eraseDups.mpr listed, decide_eq_true old⟩)

end Settings

/-- The names of a text are those that it lists. -/
theorem SkipList.mem_ofNamed (raw : String) (name : Name) :
    name ∈ SortedSet.ofList ((named raw).map Name.mk) ↔ name.text ∈ named raw := by
  obtain ⟨text⟩ := name
  simp [SortedSet.mem_ofList]

/-- A set has as many members as there are different names. -/
theorem SkipList.size_of_named (raw : String) :
    (SortedSet.ofList ((named raw).map Name.mk)).size = (named raw).eraseDups.length := by
  have same : (SortedSet.ofList ((named raw).map Name.mk)).toList.Perm
      ((named raw).map Name.mk).eraseDups := by
    refine (List.perm_ext_iff_of_nodup (nodup_of_increasing (SortedSet.increasing _))
      (nodup_eraseDups _)).mpr fun name => ?_
    rw [List.mem_eraseDups]
    exact SortedSet.mem_ofList _ name
  rw [SortedSet.size, same.length_eq, ← map_eraseDups_of_injective_on, List.length_map]
  exact fun left _ right _ equal => Name.mk.inj equal

/-! ## Both ways -/

/-- What the two ways from a text to a skip list have in common. -/
structure SkipRoutes (settings : Settings) (raw : String) : Prop where
  /-- Where nothing was left out before, the merged settings are valid exactly if the text can be
  read and does not list too many names. -/
  accepted : settings.discovery.skipClasses = [] →
    ((settings.merged raw).validate = .ok () ↔
      ∃ read, SkipList.parse raw = .ok read ∧ read.size ≤ maxSkipClasses)
  /-- Both skip lists are then the same. -/
  same : settings.discovery.skipClasses = [] →
    ∀ read, SkipList.parse raw = .ok read → (settings.merged raw).skipList = read
  /-- Unless there are too many names, validation refuses the merged settings for the segment that
  reading stops at, for the same reason. All segments before it are blank or names. -/
  blamed : settings.discovery.skipClasses = [] →
    ∀ invalid, (settings.merged raw).validate = .error invalid → invalid ≠ .tooManySkipClasses →
      ∃ front segment back reason, Text.split ',' raw = front ++ segment :: back ∧
        (∀ earlier ∈ front, Text.trim earlier = "" ∨ ∃ name, Name.parse earlier = .ok name) ∧
        Text.trim segment ≠ "" ∧ Name.parse segment = .error reason ∧
        SkipList.parse raw = .error reason ∧
        (settings.merged raw).discovery.skipClasses.find? (fun name =>
          (skipClassFault? name).isSome) = some (Text.trim segment) ∧
        invalid = .entry .skipClasses (.ofMalformed reason)
  /-- Whatever was left out before: if the merged settings are valid, the text can be read, and what
  is left out now is what was left out before together with what was read. -/
  joined : (settings.merged raw).validate = .ok () →
    ∃ read, SkipList.parse raw = .ok read ∧
      (settings.merged raw).skipList = settings.skipList ∪ read

namespace Settings

variable (settings : Settings) (raw : String)

/-- The first refused name comes from a segment in front of which all are blank or names, and it is
the first that validation finds at fault. -/
theorem blamed_of_refused (nothing : settings.discovery.skipClasses = [])
    (reason : Name.Malformed)
    (refused : (SkipList.named raw).findSome? Name.refusal? = some reason) :
    ∃ front segment back, Text.split ',' raw = front ++ segment :: back ∧
      (∀ earlier ∈ front, Text.trim earlier = "" ∨ ∃ name, Name.parse earlier = .ok name) ∧
      Text.trim segment ≠ "" ∧ Name.parse segment = .error reason ∧
      (settings.merged raw).discovery.skipClasses.find? (fun name =>
        (skipClassFault? name).isSome) = some (Text.trim segment) := by
  rw [SkipList.findSome?_named] at refused
  obtain ⟨front, segment, back, cut, stopped, passes⟩ := List.findSome?_eq_some_iff.mp refused
  have present : Text.trim segment ≠ "" := by
    intro empty
    simp [SkipList.segmentRefusal?, empty] at stopped
  have malformed : Name.refusal? segment = some reason := by
    simpa [SkipList.segmentRefusal?, present] using stopped
  have faulty (name : String) : (skipClassFault? name).isSome = (Name.refusal? name).isSome := by
    rw [skipClassFault?_eq, Option.isSome_map]
  refine ⟨front, segment, back, cut, ?_, present,
    (Name.refusal?_eq_some_iff segment reason).mp malformed, ?_⟩
  · exact fun earlier member =>
      (SkipList.segmentRefusal?_eq_none_iff earlier).mp (passes earlier member)
  -- a segment in front is blank and lists nothing, or is a name that nothing is wrong with
  · have silent : ((front.map Text.trim).filter fun name => !name.isEmpty).find?
        (fun name => (Name.refusal? name).isSome) = none := by
      rw [List.find?_eq_none]
      intro name listed
      obtain ⟨earlier, member, rfl⟩ := List.mem_map.mp (List.mem_of_mem_filter listed)
      have written : Text.trim earlier ≠ "" := by simpa using (List.mem_filter.mp listed).2
      rcases (SkipList.segmentRefusal?_eq_none_iff earlier).mp (passes earlier member) with
        blank | named
      · exact absurd blank written
      · simp [Name.refusal?_trim, (Name.refusal?_eq_none_iff earlier).mpr named]
    simp only [skipClasses_merged_of_nil settings raw nothing, faulty, find?_eraseDups,
      SkipList.named, cut, List.map_append, List.filter_append, List.find?_append, silent]
    simp [present, Name.refusal?_trim, malformed]

/-- A text that is merged into settings leaves out what is left out if it is read as a skip list.

Both ways list the same names and check them alike; one drops repetitions before the checks and the
other after them, which makes no difference to the first name that is refused, nor to the number of
different names. -/
theorem skip_routes_agree (valid : settings.ValidPackages) : SkipRoutes settings raw := by
  constructor
  case accepted =>
    intro nothing
    rw [validate_merged settings raw valid nothing, SkipList.parse_eq]
    cases (SkipList.named raw).findSome? Name.refusal? with
    | none => simp [SkipList.size_of_named]
    | some reason =>
      by_cases many : maxSkipClasses < (SkipList.named raw).eraseDups.length <;> simp [many]
  case same =>
    intro nothing read parsed
    rw [SkipList.parse_eq] at parsed
    cases refused : (SkipList.named raw).findSome? Name.refusal? with
    | some reason => simp [refused] at parsed
    | none =>
      obtain rfl : SortedSet.ofList ((SkipList.named raw).map Name.mk) = read := by
        simpa [refused] using parsed
      apply SortedSet.ext
      intro name
      have before : ¬ name ∈ settings.skipList := by
        rw [skipList, nothing]
        exact SortedSet.not_mem_empty name
      rw [mem_skipList_merged, or_iff_right before, SkipList.mem_ofNamed]
  case blamed =>
    intro nothing invalid refused notTooMany
    rw [validate_merged settings raw valid nothing] at refused
    split at refused
    · exact absurd (Except.error.inj refused).symm notTooMany
    · cases first : (SkipList.named raw).findSome? Name.refusal? with
      | none => simp [first] at refused
      | some reason =>
        obtain ⟨front, segment, back, cut, passes, present, malformed, blamed⟩ :=
          blamed_of_refused settings raw nothing reason first
        have same : invalid = .entry .skipClasses (.ofMalformed reason) := by
          simpa [first, eq_comm] using refused
        exact ⟨front, segment, back, reason, cut, passes, present, malformed,
          by rw [SkipList.parse_eq, first], blamed, same⟩
  case joined =>
    intro accepted
    have readable := named_of_validate settings raw valid accepted
    refine ⟨SortedSet.ofList ((SkipList.named raw).map Name.mk), ?_, ?_⟩
    · rw [SkipList.parse_eq, readable]
    · apply SortedSet.ext
      intro name
      rw [mem_skipList_merged, SortedSet.mem_union, SkipList.mem_ofNamed]

/-- A text with a blank segment, blanks of two kinds and a repetition is accepted both ways; one
with a blank inside a name is refused both ways, for that name. -/
theorem skip_routes_agree_repeated :
    let settings : Settings := { discovery := { packages := ["demo"] } }
    let good := "demo::Old ,, demo::Carts\u2003,demo::Old"
    let bad := " demo::Old, demo Carts ,a b"
    settings.ValidPackages ∧
      (settings.merged good).validate = .ok () ∧
      (∀ name, name ∈ (settings.merged good).skipList ↔
        name.text = "demo::Old" ∨ name.text = "demo::Carts") ∧
      ∀ invalid, (settings.merged bad).validate = .error invalid → invalid ≠ .tooManySkipClasses →
        invalid = .entry .skipClasses (.blank "demo Carts") := by
  intro settings good bad
  have valid : settings.ValidPackages := ⟨by decide, by decide, by decide +kernel⟩
  have goodNamed : SkipList.named good = ["demo::Old", "demo::Carts", "demo::Old"] := by
    decide +kernel
  have badNamed : SkipList.named bad = ["demo::Old", "demo Carts", "a b"] := by decide +kernel
  have read := SkipList.parse_eq good
  rw [goodNamed, show ["demo::Old", "demo::Carts", "demo::Old"].findSome? Name.refusal? = none by
    decide +kernel] at read
  have agree := skip_routes_agree settings good valid
  refine ⟨valid, (agree.accepted rfl).mpr ⟨_, read, by decide⟩, ?_, ?_⟩
  · intro name
    obtain ⟨text⟩ := name
    simp only [agree.same rfl _ read, SortedSet.mem_ofList]
    grind
  · intro invalid refused notTooMany
    obtain ⟨_, _, _, reason, _, _, _, _, stopped, _, rfl⟩ :=
      (skip_routes_agree settings bad valid).blamed rfl invalid refused notTooMany
    rw [SkipList.parse_eq, badNamed, show ["demo::Old", "demo Carts", "a b"].findSome?
      Name.refusal? = some (.blank "demo Carts") by decide +kernel] at stopped
    obtain rfl := Except.error.inj stopped
    rfl

end Settings

end Conformance
