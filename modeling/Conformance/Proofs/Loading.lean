import Conformance.Proofs.SkipLists
import Conformance.Settings.Load

/-!
# Loading settings in stages

Settings that are loaded have passed every stage: the limits of the path, the file, its
size, its encoding, its contents, and the validation of what comes of merging in the
names that the environment leaves out. `ReadFailure` lists the stages up to the contents;
each asks only for what the stages before it have found, so the first that fails decides.
`LoadEnd` goes on from there, and loading returns what it tells and nothing else
(`Settings.value_load_eq_iff`). Validation never answers with a reason of the stages
before it (`Settings.ofSettings_of_validate`), although all reasons are of one type, so
the answer tells the stage.

A path is checked component by component, which leaves out empty segments and single
dots; they are too short to matter (`checkPath_eq_ok_iff`). Its limits are those of the path
as it is shown, which is the path itself where that is a text
(`withinLimits_ofString_iff`).

Loading does not fail closed where a variable of the environment is set to bytes that are
no text. Such a variable counts as one that is not set: a path that it names is not looked
for, and names that it leaves out are not merged in (`Settings.garbled_variables_unheeded`).

Main statement: `Settings.load_in_stages`.
-/

namespace Conformance

/-! ## Limits of a path -/

namespace PathComponent

/-- A component that stands for a segment reads as the segment does. -/
theorem text_of_ofSegment? (segment : NativeText) (component : PathComponent)
    (stands : ofSegment? segment = some component) : component.text = segment := by
  unfold ofSegment? at stands
  split at stands
  · cases stands
  · split at stands
    case isTrue parent =>
      obtain rfl := Option.some.inj stands
      exact parent.symm
    case isFalse =>
      obtain rfl := Option.some.inj stands
      rfl

/-- Only what is too short to matter is no component. -/
theorem ofSegment?_of_long (segment : NativeText)
    (long : maxComponentBytes < segment.lossy.utf8ByteSize) :
    ofSegment? segment = some (.normal segment) := by
  have different (short : String) (bound : short.utf8ByteSize ≤ maxComponentBytes) :
      segment ≠ .ofString short := by
    rintro rfl
    rw [NativeText.lossy_ofString] at long
    exact absurd long (Nat.not_lt.mpr bound)
  have notEmpty : segment ≠ .ofString "" := different _ (by decide)
  have notDot : segment ≠ .ofString "." := different _ (by decide)
  have notDots : segment ≠ .ofString ".." := different _ (by decide)
  simp [ofSegment?, notEmpty, notDot, notDots]

/-- What stands before the segments of a path is not too long. -/
theorem short_of_leading (path : NativeText) (component : PathComponent)
    (leads : component ∈ leading path) :
    component.text.lossy.utf8ByteSize ≤ maxComponentBytes := by
  unfold leading at leads
  split at leads
  · obtain rfl := List.mem_singleton.mp leads
    rw [text, NativeText.lossy_ofString]
    decide
  · split at leads
    · obtain rfl := List.mem_singleton.mp leads
      rw [text, NativeText.lossy_ofString]
      decide
    · cases leads

/-- A path has a component that is too long exactly if a segment between slashes is. -/
theorem exists_long_iff (path : NativeText) :
    (∃ component ∈ ofPath path, maxComponentBytes < component.text.lossy.utf8ByteSize) ↔
      ∃ segment ∈ path.segments, maxComponentBytes < segment.lossy.utf8ByteSize := by
  constructor
  · rintro ⟨component, member, long⟩
    rcases List.mem_append.mp member with leads | follows
    · exact absurd long (Nat.not_lt.mpr (short_of_leading path component leads))
    · obtain ⟨segment, cut, stands⟩ := List.mem_filterMap.mp follows
      exact ⟨segment, cut, text_of_ofSegment? segment component stands ▸ long⟩
  · rintro ⟨segment, cut, long⟩
    exact ⟨.normal segment, List.mem_append_right _
      (List.mem_filterMap.mpr ⟨segment, cut, ofSegment?_of_long segment long⟩), long⟩

end PathComponent

/-- The limits of a path as it is shown: at most 4096 bytes, of which at most 255 stand between
slashes. -/
structure WithinLimits (path : NativeText) : Prop where
  short : path.lossy.utf8ByteSize ≤ maxPathBytes
  shortSegments : ∀ segment ∈ path.segments, segment.lossy.utf8ByteSize ≤ maxComponentBytes

/-- The limits of a text are those of its own bytes. -/
theorem withinLimits_ofString_iff (path : String) :
    WithinLimits (.ofString path) ↔ path.utf8ByteSize ≤ maxPathBytes ∧
      ∀ segment ∈ Text.split '/' path, segment.utf8ByteSize ≤ maxComponentBytes := by
  have segments : (∀ segment ∈ (NativeText.ofString path).segments,
      segment.lossy.utf8ByteSize ≤ maxComponentBytes) ↔
        ∀ segment ∈ Text.split '/' path, segment.utf8ByteSize ≤ maxComponentBytes := by
    simp only [NativeText.segments_ofString, List.forall_mem_map, NativeText.lossy_ofString]
  constructor
  · rintro ⟨short, shortSegments⟩
    exact ⟨NativeText.lossy_ofString path ▸ short, segments.mp shortSegments⟩
  · rintro ⟨short, shortSegments⟩
    exact ⟨(NativeText.lossy_ofString path).symm ▸ short, segments.mpr shortSegments⟩

/-- The check for components that are too long finds the segments that are. -/
theorem any_long_iff (path : NativeText) :
    ((PathComponent.ofPath path).any fun component =>
        maxComponentBytes < component.text.lossy.utf8ByteSize) = true ↔
      ∃ segment ∈ path.segments, maxComponentBytes < segment.lossy.utf8ByteSize := by
  rw [← PathComponent.exists_long_iff, List.any_eq_true]
  simp only [decide_eq_true_eq]

/-- A path is checked in its length first, and then segment by segment. -/
theorem checkPath_eq (path : NativeText) :
    checkPath path =
      if maxPathBytes < path.lossy.utf8ByteSize then .error .pathTooLong
      else if ∃ segment ∈ path.segments, maxComponentBytes < segment.lossy.utf8ByteSize then
        .error .componentTooLong
      else .ok path := by
  simp only [checkPath, any_long_iff]

/-- A path passes the check unchanged, and only within the limits. -/
theorem checkPath_eq_ok_iff (path checked : NativeText) :
    checkPath path = .ok checked ↔ checked = path ∧ WithinLimits path := by
  rw [checkPath_eq]
  split
  case isTrue long =>
    have outside : ¬ WithinLimits path := fun within => absurd within.short (Nat.not_le.mpr long)
    simp only [reduceCtorEq, outside, and_false]
  case isFalse short =>
    split
    case isTrue long =>
      obtain ⟨segment, cut, excess⟩ := long
      have outside : ¬ WithinLimits path :=
        fun within => absurd (within.shortSegments segment cut) (Nat.not_le.mpr excess)
      simp only [reduceCtorEq, outside, and_false]
    case isFalse shortSegments =>
      have within : WithinLimits path :=
        ⟨Nat.not_lt.mp short, fun segment cut =>
          Nat.not_lt.mp fun excess => shortSegments ⟨segment, cut, excess⟩⟩
      simp only [Except.ok.injEq, within, and_true, eq_comm]

/-! ## The ends of loading -/

/-- The path that is asked for: the argument, or else what the environment names, or else
`contracts.toml`. -/
def requestedPath (argument : Option NativeText) (environment : Environment) : NativeText :=
  argument.getD (.ofString (environment.path?.getD defaultPath))

/-- The path that the environment names is held against the limit twice, which makes no
difference. -/
theorem choosePath_bind_checkPath (argument : Option NativeText) (environment : Environment) :
    (choosePath argument environment >>= checkPath) =
      checkPath (requestedPath argument environment) := by
  cases argument with
  | some path => rfl
  | none =>
    cases named : environment.path? with
    | none => simp only [choosePath, named, requestedPath]; rfl
    | some path =>
      simp only [choosePath, named, requestedPath, Option.getD_none, Option.getD_some, checkPath_eq,
        NativeText.lossy_ofString]
      split
      case isTrue => rfl
      case isFalse short =>
        have checked := checkPath_eq (.ofString path)
        rw [NativeText.lossy_ofString, if_neg short] at checked
        simp only [bind, Except.bind, checked]

/-- A variable that holds a text names the path that the text spells. -/
theorem requestedPath_named (value : NativeText) (text : String) (reads : value.text? = some text)
    (skipClasses : Option NativeText) : requestedPath none ⟨some value, skipClasses⟩ = value := by
  have named : (Environment.mk (some value) skipClasses).path? = some text := reads
  rw [requestedPath, Option.getD_none, named, Option.getD_some]
  exact value.ofString_of_text? text reads

/-- A variable that holds no text names no path. -/
theorem requestedPath_garbled (value : NativeText) (garbled : value.text? = none)
    (argument skipClasses : Option NativeText) :
    requestedPath argument ⟨some value, skipClasses⟩ =
      requestedPath argument ⟨none, skipClasses⟩ := by
  have unnamed : (Environment.mk (some value) skipClasses).path? = none := garbled
  have unset : (Environment.mk none skipClasses).path? = none := rfl
  rw [requestedPath, requestedPath, unnamed, unset]

/-- What validation refuses, it refuses for a reason that the settings give. -/
def Invalid.OfSettings : Invalid → Prop
  | .noPackages | .tooManyPackages | .tooManySkipClasses | .entry .. | .notAName .. => True
  | .pathTooLong | .componentTooLong | .fileTooLarge | .notUtf8 => False

/-- The failures that come from validation. -/
def SettingsError.OfValidation : SettingsError → Prop
  | .io _ | .parse _ => False
  | .invalid reason => reason.OfSettings

/-- The check of packages refuses for a reason that the settings give. -/
theorem ofSettings_of_packageFault? (entry : String) (invalid : Invalid)
    (fault : packageFault? entry = some invalid) : invalid.OfSettings := by
  obtain ⟨_, _, rfl⟩ := Option.map_eq_some_iff.mp fault
  trivial

/-- So does the check of the names that are left out. -/
theorem ofSettings_of_skipClassFault? (entry : String) (invalid : Invalid)
    (fault : skipClassFault? entry = some invalid) : invalid.OfSettings := by
  rw [skipClassFault?_eq] at fault
  obtain ⟨_, _, rfl⟩ := Option.map_eq_some_iff.mp fault
  trivial

namespace Settings

/-- Validation refuses for a reason that the settings give. -/
theorem ofSettings_of_validate (settings : Settings) (invalid : Invalid)
    (refused : settings.validate = .error invalid) : invalid.OfSettings := by
  have fault := (settings.validate_eq_error_iff invalid).mp refused
  simp only [fault?] at fault
  split at fault
  · obtain rfl := Option.some.inj fault
    trivial
  split at fault
  · obtain rfl := Option.some.inj fault
    trivial
  split at fault
  · obtain rfl := Option.some.inj fault
    trivial
  rw [Option.orElse_eq_orElse, Option.orElse_eq_or, Option.or_eq_some_iff] at fault
  rcases fault with package | ⟨_, skipClass⟩
  · obtain ⟨entry, _, fault⟩ := List.exists_of_findSome?_eq_some package
    exact ofSettings_of_packageFault? entry invalid fault
  · obtain ⟨entry, _, fault⟩ := List.exists_of_findSome?_eq_some skipClass
    exact ofSettings_of_skipClassFault? entry invalid fault

/-- The settings once the names that the environment leaves out are merged in. -/
def mergedWith (settings : Settings) (skipClasses : Option String) : Settings :=
  skipClasses.elim settings settings.merged

end Settings

/-- What the environment leaves out is merged in. -/
theorem Settings.value_underEnvironment (settings : Settings) (environment : Environment) :
    (settings.underEnvironment environment).value =
      settings.mergedWith environment.skipClasses? := by
  rw [underEnvironment]
  cases environment.skipClasses? <;> rfl

/-- A path within the limits leads to a file. -/
structure FileRead (files : FileSystem) (path : NativeText) (bytes : ByteArray) : Prop where
  within : WithinLimits path
  found : files path = .ok bytes

/-- A path within the limits leads to a file that is not too large, is a text, and holds
settings. -/
structure SettingsRead (files : FileSystem) (path : NativeText) (held : Settings)
    (bytes : ByteArray) (text : String) : Prop extends FileRead files path bytes where
  small : bytes.size ≤ maxFileBytes
  decoded : String.fromUTF8? bytes = some text
  parsed : Settings.ofToml? text = some held

/-- The stages at which reading settings fails, first to last. Each asks for what the stages before
it have found. -/
inductive ReadFailure (complaint : TomlComplaint) (files : FileSystem) (path : NativeText) :
    SettingsError → Prop where
  | pathTooLong (long : maxPathBytes < path.lossy.utf8ByteSize) :
    ReadFailure complaint files path (.invalid .pathTooLong)
  | componentTooLong (short : path.lossy.utf8ByteSize ≤ maxPathBytes)
      (long : ∃ segment ∈ path.segments, maxComponentBytes < segment.lossy.utf8ByteSize) :
    ReadFailure complaint files path (.invalid .componentTooLong)
  | missing (within : WithinLimits path) (reason : String) (missing : files path = .error reason) :
    ReadFailure complaint files path (.io reason)
  | tooLarge (bytes : ByteArray) (read : FileRead files path bytes)
      (large : maxFileBytes < bytes.size) :
    ReadFailure complaint files path (.invalid .fileTooLarge)
  | notUtf8 (bytes : ByteArray) (read : FileRead files path bytes)
      (small : bytes.size ≤ maxFileBytes) (undecodable : String.fromUTF8? bytes = none) :
    ReadFailure complaint files path (.invalid .notUtf8)
  | noSettings (bytes : ByteArray) (read : FileRead files path bytes)
      (small : bytes.size ≤ maxFileBytes) (text : String)
      (decoded : String.fromUTF8? bytes = some text) (unparsable : Settings.ofToml? text = none) :
    ReadFailure complaint files path (.parse (complaint text))

/-- The ends that loading comes to. -/
inductive LoadEnd (complaint : TomlComplaint) (files : FileSystem) (path : NativeText)
    (skipClasses : Option String) : Except SettingsError Settings → Prop where
  | unread (failure : SettingsError) (failed : ReadFailure complaint files path failure) :
    LoadEnd complaint files path skipClasses (.error failure)
  | refused (held : Settings) (bytes : ByteArray) (text : String)
      (read : SettingsRead files path held bytes text) (reason : Invalid)
      (invalid : (held.mergedWith skipClasses).validate = .error reason) :
    LoadEnd complaint files path skipClasses (.error (.invalid reason))
  | loaded (held : Settings) (bytes : ByteArray) (text : String)
      (read : SettingsRead files path held bytes text)
      (valid : (held.mergedWith skipClasses).validate = .ok ()) :
    LoadEnd complaint files path skipClasses (.ok (held.mergedWith skipClasses))

/-- Reading fails at one of the stages, or else there are settings. -/
theorem ReadFailure.or_settings (complaint : TomlComplaint) (files : FileSystem)
    (path : NativeText) :
    (∃ failure, ReadFailure complaint files path failure) ∨
      ∃ held bytes text, SettingsRead files path held bytes text := by
  by_cases long : maxPathBytes < path.lossy.utf8ByteSize
  · exact .inl ⟨_, .pathTooLong long⟩
  have short := Nat.not_lt.mp long
  by_cases longSegment :
      ∃ segment ∈ path.segments, maxComponentBytes < segment.lossy.utf8ByteSize
  · exact .inl ⟨_, .componentTooLong short longSegment⟩
  have within : WithinLimits path := ⟨short, fun segment cut =>
    Nat.not_lt.mp fun excess => longSegment ⟨segment, cut, excess⟩⟩
  cases found : files path with
  | error reason => exact .inl ⟨_, .missing within reason found⟩
  | ok bytes =>
    have read : FileRead files path bytes := ⟨within, found⟩
    by_cases large : maxFileBytes < bytes.size
    · exact .inl ⟨_, .tooLarge bytes read large⟩
    have small := Nat.not_lt.mp large
    cases decoded : String.fromUTF8? bytes with
    | none => exact .inl ⟨_, .notUtf8 bytes read small decoded⟩
    | some text =>
      cases parsed : Settings.ofToml? text with
      | none => exact .inl ⟨_, .noSettings bytes read small text decoded parsed⟩
      | some held => exact .inr ⟨held, bytes, text, read, small, decoded, parsed⟩

/-- A path beyond the limits is refused whatever files there are. -/
theorem ReadFailure.of_beyond_limits {complaint : TomlComplaint} {files : FileSystem}
    {path : NativeText} {failure : SettingsError}
    (failed : ReadFailure complaint files path failure) (beyond : ¬ WithinLimits path)
    (others : FileSystem) : ReadFailure complaint others path failure := by
  cases failed with
  | pathTooLong long => exact .pathTooLong long
  | componentTooLong short long => exact .componentTooLong short long
  | missing within => exact absurd within beyond
  | tooLarge _ read => exact absurd read.within beyond
  | notUtf8 _ read => exact absurd read.within beyond
  | noSettings _ read => exact absurd read.within beyond

/-- What fails before validation does not come from it. -/
theorem ReadFailure.not_ofValidation {complaint : TomlComplaint} {files : FileSystem}
    {path : NativeText} {failure : SettingsError}
    (failed : ReadFailure complaint files path failure) : ¬ failure.OfValidation := by
  cases failed <;> exact id

namespace Settings

variable (complaint : TomlComplaint) (files : FileSystem) (argument : Option NativeText)
variable (environment : Environment)

/-- The stages up to the contents of the file. Which path is chosen matters, and nothing else of the
environment. -/
theorem readFile_eq : readFile complaint files argument environment =
    ((checkPath (requestedPath argument environment)).mapError .invalid >>= fun path =>
      readText files path >>= fun text =>
        ((ofToml? text).elim (.error (.parse (complaint text))) .ok)) := by
  rw [← choosePath_bind_checkPath, readFile]
  cases choosePath argument environment with
  | error reason => rfl
  | ok chosen =>
    simp only [Except.mapError, bind, Except.bind]
    cases checkPath chosen with
    | error reason => rfl
    | ok path =>
      simp only []
      cases readText files path with
      | error failure => rfl
      | ok text =>
        simp only []
        cases ofToml? text <;> simp only [] <;> rfl

/-- A path that breaks a limit is refused, and no file is looked at. -/
theorem readFile_of_refused (reason : Invalid)
    (refused : checkPath (requestedPath argument environment) = .error reason) :
    readFile complaint files argument environment = .error (.invalid reason) := by
  rw [readFile_eq, refused]
  rfl

/-- From a path within the limits the file is read first and then its text. -/
theorem readFile_of_within (within : WithinLimits (requestedPath argument environment)) :
    readFile complaint files argument environment =
      match readText files (requestedPath argument environment) with
      | .error failure => .error failure
      | .ok text => (ofToml? text).elim (.error (.parse (complaint text))) .ok := by
  rw [readFile_eq, (checkPath_eq_ok_iff _ _).mpr ⟨rfl, within⟩]
  simp only [Except.mapError, bind, Except.bind]
  cases readText files (requestedPath argument environment) <;> rfl

/-- Of all files reading looks at the one that is asked for, if at any. -/
theorem readFile_of_same_contents (others : FileSystem)
    (same : others (requestedPath argument environment) =
      files (requestedPath argument environment)) :
    readFile complaint others argument environment =
      readFile complaint files argument environment := by
  by_cases within : WithinLimits (requestedPath argument environment)
  · rw [readFile_of_within _ _ _ _ within, readFile_of_within _ _ _ _ within, readText, readText,
      same]
  · cases refused : checkPath (requestedPath argument environment) with
    | error reason =>
      rw [readFile_of_refused _ _ _ _ reason refused, readFile_of_refused _ _ _ _ reason refused]
    | ok checked => exact absurd ((checkPath_eq_ok_iff _ _).mp refused).2 within

/-- Reading answers with the stage that fails. -/
theorem readFile_of_failure (failure : SettingsError)
    (failed : ReadFailure complaint files (requestedPath argument environment) failure) :
    readFile complaint files argument environment = .error failure := by
  have refused := readFile_of_refused complaint files argument environment
  cases failed with
  | pathTooLong long => exact refused _ (by rw [checkPath_eq, if_pos long])
  | componentTooLong short long =>
    exact refused _ (by rw [checkPath_eq, if_neg (Nat.not_lt.mpr short), if_pos long])
  | missing within reason missing =>
    simp only [readFile_of_within _ _ _ _ within, readText, missing]
  | tooLarge bytes read large =>
    simp only [readFile_of_within _ _ _ _ read.within, readText, read.found, large, if_true]
  | notUtf8 bytes read small undecodable =>
    simp only [readFile_of_within _ _ _ _ read.within, readText, read.found,
      Nat.not_lt.mpr small, if_false, undecodable]
  | noSettings bytes read small text decoded unparsable =>
    simp only [readFile_of_within _ _ _ _ read.within, readText, read.found,
      Nat.not_lt.mpr small, if_false, decoded, unparsable, Option.elim_none]

/-- Settings that a file holds are read from it. -/
theorem readFile_of_settings (held : Settings) (bytes : ByteArray) (text : String)
    (read : SettingsRead files (requestedPath argument environment) held bytes text) :
    readFile complaint files argument environment = .ok held := by
  have small : ¬ maxFileBytes < bytes.size := Nat.not_lt.mpr read.small
  simp only [readFile_of_within _ _ _ _ read.within, readText, read.found, small, if_false,
    read.decoded, read.parsed, Option.elim_some]

/-- Where reading fails, nothing is merged or logged. -/
theorem load_of_failure (failure : SettingsError)
    (failed : ReadFailure complaint files (requestedPath argument environment) failure) :
    load complaint files argument environment = pure (.error failure) := by
  rw [load, readFile_of_failure complaint files argument environment failure failed]

/-- Settings that were read are merged with those of the environment, and validated then. -/
theorem value_load_of_settings (held : Settings) (bytes : ByteArray) (text : String)
    (read : SettingsRead files (requestedPath argument environment) held bytes text) :
    (load complaint files argument environment).value =
      match (held.mergedWith environment.skipClasses?).validate with
      | .error reason => .error (.invalid reason)
      | .ok () => .ok (held.mergedWith environment.skipClasses?) := by
  rw [load, readFile_of_settings complaint files argument environment held bytes text read]
  simp only [Recorded.value_bind, Recorded.value_pure, value_underEnvironment]
  cases (held.mergedWith environment.skipClasses?).validate <;> rfl

/-- The ends tell what loading returns. -/
theorem value_load_of_end (outcome : Except SettingsError Settings)
    (ended : LoadEnd complaint files (requestedPath argument environment)
      environment.skipClasses? outcome) :
    (load complaint files argument environment).value = outcome := by
  cases ended with
  | unread failure failed =>
    rw [load_of_failure complaint files argument environment failure failed, Recorded.value_pure]
  | refused held bytes text read reason invalid =>
    rw [value_load_of_settings _ _ _ _ held bytes text read, invalid]
  | loaded held bytes text read valid =>
    rw [value_load_of_settings _ _ _ _ held bytes text read, valid]

/-- Loading returns what the ends tell, and nothing else. -/
theorem value_load_eq_iff (outcome : Except SettingsError Settings) :
    (load complaint files argument environment).value = outcome ↔
      LoadEnd complaint files (requestedPath argument environment) environment.skipClasses?
        outcome := by
  constructor
  · rintro rfl
    rcases ReadFailure.or_settings complaint files (requestedPath argument environment) with
      ⟨failure, failed⟩ | ⟨held, bytes, text, read⟩
    · rw [load_of_failure complaint files argument environment failure failed]
      exact .unread failure failed
    · rw [value_load_of_settings _ _ _ _ held bytes text read]
      cases validated : (held.mergedWith environment.skipClasses?).validate with
      | error reason => exact .refused held bytes text read reason validated
      | ok => exact .loaded held bytes text read validated
  · exact value_load_of_end complaint files argument environment outcome

end Settings

/-- What loading settings answers. -/
structure LoadsInStages (complaint : TomlComplaint) (files : FileSystem)
    (argument : Option NativeText) (environment : Environment) : Prop where
  /-- Loading returns what the ends tell, and nothing else: the first stage that fails decides. -/
  ends : ∀ outcome, (Settings.load complaint files argument environment).value = outcome ↔
    LoadEnd complaint files (requestedPath argument environment) environment.skipClasses? outcome
  /-- Settings that are loaded have passed all stages, and are valid with what was merged in. -/
  passed : ∀ settings, (Settings.load complaint files argument environment).value = .ok settings →
    settings.validate = .ok () ∧ ∃ held bytes text,
      SettingsRead files (requestedPath argument environment) held bytes text ∧
      settings = held.mergedWith environment.skipClasses?
  /-- Of the failures that do not come from validation, loading answers with those of the stages
  before it. -/
  failed : ∀ failure, ReadFailure complaint files (requestedPath argument environment) failure ↔
    (Settings.load complaint files argument environment).value = .error failure ∧
      ¬ failure.OfValidation
  /-- It answers with a reason of validation exactly if the stages before it pass. -/
  refused : ∀ reason,
    (∃ held bytes text,
      SettingsRead files (requestedPath argument environment) held bytes text ∧
      (held.mergedWith environment.skipClasses?).validate = .error reason) ↔
    (Settings.load complaint files argument environment).value = .error (.invalid reason) ∧
      reason.OfSettings
  /-- Where reading fails, what the environment leaves out does not matter. -/
  unmerged : ∀ failure, ReadFailure complaint files (requestedPath argument environment) failure →
    ∀ skipClasses, Settings.load complaint files argument ⟨environment.path, skipClasses⟩ =
      Settings.load complaint files argument environment
  /-- Where the path is beyond the limits, the files do not matter either. -/
  unopened : ¬ WithinLimits (requestedPath argument environment) →
    ∀ others skipClasses, Settings.load complaint others argument ⟨environment.path, skipClasses⟩ =
      Settings.load complaint files argument environment
  /-- Of all files only the one that is asked for matters. -/
  others : ∀ others : FileSystem,
    others (requestedPath argument environment) = files (requestedPath argument environment) →
    Settings.load complaint others argument environment =
      Settings.load complaint files argument environment
  /-- A path that the environment names is as good as one that is given, if it is a text. -/
  named : ∀ path : NativeText, path.text?.isSome → ∀ skipClasses unused,
    Settings.load complaint files none ⟨some path, skipClasses⟩ =
      Settings.load complaint files (some path) ⟨unused, skipClasses⟩
  /-- A path in the environment that is no text counts as none. -/
  unnamed : ∀ path : NativeText, path.text? = none → ∀ skipClasses,
    Settings.load complaint files argument ⟨some path, skipClasses⟩ =
      Settings.load complaint files argument ⟨none, skipClasses⟩
  /-- Names to leave out that are no text count as none. -/
  unskipped : ∀ skipClasses : NativeText, skipClasses.text? = none → ∀ path,
    Settings.load complaint files argument ⟨path, some skipClasses⟩ =
      Settings.load complaint files argument ⟨path, none⟩
  /-- The paths within the limits, and no others, pass the check. -/
  limits : ∀ path, checkPath path = .ok path ↔ WithinLimits path
  /-- Of texts these are the ones of at most 4096 bytes, of which at most 255 stand between
  slashes. -/
  limitsOfTexts : ∀ path : String, checkPath (.ofString path) = .ok (.ofString path) ↔
    path.utf8ByteSize ≤ maxPathBytes ∧
      ∀ segment ∈ Text.split '/' path, segment.utf8ByteSize ≤ maxComponentBytes

namespace Settings

variable (complaint : TomlComplaint) (files : FileSystem) (argument : Option NativeText)
variable (environment : Environment)

/-- Loading depends on the environment by what can be read of it. -/
theorem load_of_same_reading (other : Environment) (otherArgument : Option NativeText)
    (samePath : requestedPath otherArgument other = requestedPath argument environment)
    (sameNames : other.skipClasses? = environment.skipClasses?) :
    load complaint files otherArgument other = load complaint files argument environment := by
  rw [load, load, readFile_eq, readFile_eq, samePath]
  simp only [underEnvironment, sameNames]

/-- Loading settings answers with the first stage that fails, and with the settings if none does. A
variable of the environment takes part only if it is a text.

Every stage asks only for what the stages before it have found, so the ends exclude each other; that
validation refuses for reasons of its own tells its end from theirs. -/
theorem load_in_stages : LoadsInStages complaint files argument environment := by
  have ends := value_load_eq_iff complaint files argument environment
  constructor
  case ends => exact ends
  case passed =>
    intro settings loaded
    cases (ends _).mp loaded with
    | loaded held bytes text read valid => exact ⟨valid, held, bytes, text, read, rfl⟩
  case failed =>
    intro failure
    constructor
    · exact fun failed => ⟨(ends _).mpr (.unread failure failed), failed.not_ofValidation⟩
    · rintro ⟨answered, early⟩
      cases (ends _).mp answered with
      | unread _ failed => exact failed
      | refused held bytes text read reason invalid =>
        exact absurd (ofSettings_of_validate _ reason invalid) early
  case refused =>
    intro reason
    constructor
    · rintro ⟨held, bytes, text, read, invalid⟩
      exact ⟨(ends _).mpr (.refused held bytes text read reason invalid),
        ofSettings_of_validate _ reason invalid⟩
    -- reading never fails for a reason of validation, so the settings were read
    · rintro ⟨answered, late⟩
      cases (ends _).mp answered with
      | unread _ failed => exact absurd late failed.not_ofValidation
      | refused held bytes text read _ invalid => exact ⟨held, bytes, text, read, invalid⟩
  case unmerged =>
    intro failure failed skipClasses
    rw [load_of_failure complaint files argument environment failure failed,
      load_of_failure complaint files argument ⟨environment.path, skipClasses⟩ failure failed]
  case unopened =>
    intro beyond others skipClasses
    rcases ReadFailure.or_settings complaint files (requestedPath argument environment) with
      ⟨failure, failed⟩ | ⟨_, _, _, read⟩
    · rw [load_of_failure complaint files argument environment failure failed,
        load_of_failure complaint others argument ⟨environment.path, skipClasses⟩ failure
          (failed.of_beyond_limits beyond others)]
    · exact absurd read.within beyond
  case others =>
    intro others same
    rw [load, load, readFile_of_same_contents complaint files argument environment others same]
  case named =>
    intro path isText skipClasses unused
    obtain ⟨text, reads⟩ := Option.isSome_iff_exists.mp isText
    exact load_of_same_reading _ _ _ _ _ _ (requestedPath_named path text reads skipClasses) rfl
  case unnamed =>
    intro path garbled skipClasses
    exact load_of_same_reading _ _ _ _ _ _
      (requestedPath_garbled path garbled argument skipClasses) rfl
  case unskipped =>
    intro skipClasses garbled path
    exact load_of_same_reading _ _ _ _ _ _ rfl garbled
  case limits => exact fun path => (checkPath_eq_ok_iff path path).trans (and_iff_right rfl)
  case limitsOfTexts =>
    intro path
    rw [checkPath_eq_ok_iff, withinLimits_ofString_iff]
    exact and_iff_right rfl

/-- Two variables that are set and hold no text: the path `0xFF`, and `K`, a comma and `0xFF` to
leave out. The path is not looked for, although it is as an argument, and nothing is left out;
loading succeeds all the same. -/
theorem garbled_variables_unheeded :
    let missing := "No such file or directory (os error 2)"
    let document := "[discovery]\npackages = [\"demo::\"]\n"
    let files : FileSystem := fun path =>
      if path = .ofString defaultPath then .ok document.toUTF8 else .error missing
    let complaint : TomlComplaint := fun _ => "TOML parse error"
    let path : NativeText := ⟨[0xFF]⟩
    let skipClasses : NativeText := ⟨[0x4B, 0x2C, 0xFF]⟩
    (load complaint files none ⟨some path, some skipClasses⟩).value =
        .ok { discovery := { packages := ["demo::"] } } ∧
      (load complaint files (some path) ⟨none, some skipClasses⟩).value =
        .error (.io missing) := by
  intro missing document files complaint path skipClasses
  have unread : path.text? = none := (NativeText.text?_eq_none_iff _).mpr (by decide)
  have unmerged : skipClasses.text? = none := (NativeText.text?_eq_none_iff _).mpr (by decide)
  have requested : requestedPath none ⟨some path, some skipClasses⟩ = .ofString defaultPath :=
    requestedPath_garbled path unread none (some skipClasses)
  have names : (Environment.mk (some path) (some skipClasses)).skipClasses? = none := unmerged
  constructor
  · have held : SettingsRead files (.ofString defaultPath)
        { discovery := { packages := ["demo::"] } } document.toUTF8 document :=
      ⟨⟨(withinLimits_ofString_iff _).mpr (by decide), if_pos rfl⟩, by decide,
        NativeText.fromUTF8?_toUTF8 document, by decide +kernel⟩
    apply value_load_of_end
    rw [requested, names]
    exact .loaded _ _ _ held (by decide)
  · apply value_load_of_end
    have within : WithinLimits path := ⟨by decide, by decide⟩
    exact .unread _ (.missing within missing (if_neg (by decide)))

end Settings

end Conformance
