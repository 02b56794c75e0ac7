import Conformance.Settings.Basic

/-!
# Valid settings

Settings are valid if they name between 1 and 256 packages and at most 1024 declaring
types to leave out, and each of these names is a text of at most 1024 bytes without
blanks inside, once the blanks around it are dropped. The first fault is reported:
counts before names, packages before declaring types, each in the order of its list.
-/

namespace Conformance

/-- The lists of names in settings. -/
inductive NameList where
  | packages
  | skipClasses
deriving DecidableEq

/-- How messages call a list. -/
def NameList.label : NameList → String
  | .packages => "discovery.packages"
  | .skipClasses => "discovery.skip_classes"

/-- What is wrong with a name. -/
inductive NameFault where
  | empty
  | tooLong
  | blank (text : String)
deriving DecidableEq

/-- Why settings, or the place where they are looked for, are refused. -/
inductive Invalid where
  | noPackages
  | tooManyPackages
  | tooManySkipClasses
  | entry (list : NameList) (fault : NameFault)
  /-- A declaring type to leave out is not a name. -/
  | notAName (name : String) (reason : Name.Malformed)
  | pathTooLong
  | componentTooLong
  | fileTooLarge
  | notUtf8
deriving DecidableEq

/-- The wording of a reason. -/
def Invalid.reason : Invalid → String
  | .noPackages => "at least one package must be specified"
  | .tooManyPackages => "discovery.packages exceeds max entries"
  | .tooManySkipClasses => "discovery.skip_classes exceeds max entries"
  | .entry list .empty => list.label ++ " entries must be non-empty"
  | .entry list .tooLong => list.label ++ " entry exceeds max length"
  | .entry list (.blank text) => list.label ++ " entry " ++ text ++ " contains whitespace"
  | .notAName name reason => "discovery.skip_classes entry " ++ name ++ ": " ++ reason.message
  | .pathTooLong => "config path exceeds max length"
  | .componentTooLong => "config path component too long"
  | .fileTooLarge => "config file exceeds size limit"
  | .notUtf8 => "config file must be utf-8"

/-- The greatest number of packages. -/
def maxPackages : Nat := 256

/-- The greatest number of declaring types to leave out. -/
def maxSkipClasses : Nat := 1024

/-- The greatest number of bytes of a name in settings. -/
def maxNameBytes : Nat := 1024

/-- What is wrong with an entry of a list of names. -/
def nameFault? (entry : String) : Option NameFault :=
  let trimmed := Text.trim entry
  if trimmed.isEmpty then some .empty
  else if maxNameBytes < trimmed.utf8ByteSize then some .tooLong
  else if Text.hasBlank trimmed then some (.blank trimmed)
  else none

/-- What is wrong with an entry of the packages. -/
def packageFault? (entry : String) : Option Invalid := (nameFault? entry).map (.entry .packages)

/-- What is wrong with an entry of the declaring types to leave out. -/
def skipClassFault? (entry : String) : Option Invalid :=
  match nameFault? entry with
  | some fault => some (.entry .skipClasses fault)
  | none =>
    match Name.parse entry with
    | .ok _ => none
    | .error reason => some (.notAName entry reason)

namespace Settings

/-- The first fault of settings. -/
def fault? (settings : Settings) : Option Invalid :=
  let discovery := settings.discovery
  if discovery.packages.isEmpty then some .noPackages
  else if maxPackages < discovery.packages.length then some .tooManyPackages
  else if maxSkipClasses < discovery.skipClasses.length then some .tooManySkipClasses
  else
    discovery.packages.findSome? packageFault? <|> discovery.skipClasses.findSome? skipClassFault?

/-- Whether settings are valid; if not, why. -/
def validate (settings : Settings) : Except Invalid Unit :=
  match settings.fault? with
  | none => .ok ()
  | some invalid => .error invalid

/-- Settings are valid if no fault is found. -/
theorem validate_eq_ok_iff (settings : Settings) :
    settings.validate = .ok () ↔ settings.fault? = none := by
  unfold validate
  cases settings.fault? <;> simp

/-- Settings that are not valid are refused for the fault that is found. -/
theorem validate_eq_error_iff (settings : Settings) (invalid : Invalid) :
    settings.validate = .error invalid ↔ settings.fault? = some invalid := by
  unfold validate
  cases settings.fault? <;> simp

end Settings

end Conformance
