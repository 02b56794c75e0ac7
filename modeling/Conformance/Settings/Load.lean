import Conformance.Settings.Path
import Conformance.Settings.Toml
import Conformance.Settings.Validation

/-!
# Loading settings

Settings are loaded from a file. The file is the one asked for, or else the one the
environment names, or else `contracts.toml`. The declaring types that the environment
adds are merged in before the settings are validated. The stages follow one another,
and the first that fails decides: the path, the file, its size, its encoding, its
contents, the settings.

A variable of the environment may be set to bytes that are no text. It then counts as one
that is not set.
-/

namespace Conformance

/-- Why settings could not be loaded. -/
inductive SettingsError where
  /-- The file could not be read, and why, in the words of the system. -/
  | io (complaint : String)
  /-- The file holds no settings, and why, in the words of the TOML reader. -/
  | parse (complaint : String)
  | invalid (reason : Invalid)
deriving DecidableEq

/-- The wording of an error. -/
def SettingsError.message : SettingsError → String
  | .io complaint => "config io error: " ++ complaint
  | .parse complaint => "config parse error: " ++ complaint
  | .invalid reason => "invalid config: " ++ reason.reason

/-- What the environment says of settings. A variable holds bytes, which need not be a text. -/
structure Environment where
  /-- The file to load. -/
  path : Option NativeText
  /-- Declaring types to leave out, separated by commas. -/
  skipClasses : Option NativeText

namespace Environment

/-- The file to load, if the variable can be read. -/
def path? (environment : Environment) : Option String := environment.path.bind NativeText.text?

/-- The declaring types to leave out, if the variable can be read. -/
def skipClasses? (environment : Environment) : Option String :=
  environment.skipClasses.bind NativeText.text?

end Environment

/-- What can be read, by path, and what the system says where nothing can. -/
abbrev FileSystem := NativeText → Except String ByteArray

/-- What the TOML reader says of a document that holds no settings. -/
abbrev TomlComplaint := String → String

/-- The file that is loaded unless another is named. -/
def defaultPath : String := "contracts.toml"

/-- The greatest number of bytes of a path. -/
def maxPathBytes : Nat := 4096

/-- The greatest number of bytes of a component of a path. -/
def maxComponentBytes : Nat := 255

/-- The greatest number of bytes of a file. -/
def maxFileBytes : Nat := 1024 * 1024

/-- Checks the limits of a path, as it is shown. -/
def checkPath (path : NativeText) : Except Invalid NativeText :=
  if maxPathBytes < path.lossy.utf8ByteSize then .error .pathTooLong
  else if (PathComponent.ofPath path).any fun component =>
      maxComponentBytes < component.text.lossy.utf8ByteSize then
    .error .componentTooLong
  else .ok path

/-- The path to load. One that the environment names must not be too long to begin with. -/
def choosePath (argument : Option NativeText) (environment : Environment) :
    Except Invalid NativeText :=
  match argument, environment.path? with
  | some path, _ => .ok path
  | none, some path =>
    if maxPathBytes < path.utf8ByteSize then .error .pathTooLong else .ok (.ofString path)
  | none, none => .ok (.ofString defaultPath)

/-- The text of a file. -/
def readText (files : FileSystem) (path : NativeText) : Except SettingsError String :=
  match files path with
  | .error complaint => .error (.io complaint)
  | .ok bytes =>
    if maxFileBytes < bytes.size then .error (.invalid .fileTooLarge)
    else
      match String.fromUTF8? bytes with
      | none => .error (.invalid .notUtf8)
      | some text => .ok text

namespace Settings

/-- The settings in a file, before those of the environment are merged in. -/
def readFile (complaint : TomlComplaint) (files : FileSystem) (argument : Option NativeText)
    (environment : Environment) : Except SettingsError Settings := do
  let path ← (choosePath argument environment).mapError .invalid
  let path ← (checkPath path).mapError .invalid
  let text ← readText files path
  match ofToml? text with
  | none => .error (.parse (complaint text))
  | some settings => .ok settings

/-- Merges in what the environment says. -/
def underEnvironment (settings : Settings) (environment : Environment) : Recorded Settings :=
  match environment.skipClasses? with
  | none => pure settings
  | some raw => settings.mergeSkipClasses raw

/-- Loads settings. -/
def load (complaint : TomlComplaint) (files : FileSystem) (argument : Option NativeText)
    (environment : Environment) : Recorded (Except SettingsError Settings) :=
  match readFile complaint files argument environment with
  | .error failure => pure (.error failure)
  | .ok settings => do
    let merged ← settings.underEnvironment environment
    return (merged.validate.mapError .invalid).map fun _ => merged

end Settings

end Conformance
