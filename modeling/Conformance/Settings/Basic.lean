import Conformance.SkipList
import Conformance.Recorded

/-!
# Settings

The settings of a run say which suites to leave out, which packages reports cover, and
for each section of a report whether it is shown and whether it fails the run. All of
them may be left out; a section is then shown and fails nothing.
-/

namespace Conformance

/-- The settings of one section of a report. -/
structure SectionSettings where
  /-- Whether the section is shown. -/
  report : Bool := true
  /-- Whether a section that is not empty fails the run. -/
  failOnError : Bool := false
deriving DecidableEq, Inhabited

/-- The settings of all sections of a report. -/
structure ReportSettings where
  untested : SectionSettings := {}
  unimplemented : SectionSettings := {}
  errors : SectionSettings := {}
deriving DecidableEq, Inhabited

/-- What is looked for, and where. -/
structure DiscoverySettings where
  /-- The declaring types whose suites are left out. -/
  skipClasses : List String := []
  /-- The packages that reports cover. -/
  packages : List String := []
deriving DecidableEq, Inhabited

/-- The settings of a run. -/
structure Settings where
  discovery : DiscoverySettings := {}
  reports : ReportSettings := {}
deriving DecidableEq, Inhabited

namespace Settings

/-- Adds the declaring types of a comma-separated list to those left out. Blank segments and types
that are left out already count for nothing. -/
def addSkipped (existing : List String) : List String → List String
  | [] => existing
  | segment :: rest =>
    let name := Text.trim segment
    if name.isEmpty || existing.any (fun other => Text.trim other = name) then
      addSkipped existing rest
    else addSkipped (existing ++ [name]) rest

/-- The declaring types left out once a comma-separated list is merged in. -/
def mergedSkipClasses (settings : Settings) (raw : String) : List String :=
  addSkipped settings.discovery.skipClasses (Text.split ',' raw)

/-- Merges a comma-separated list of declaring types to leave out. Each new one is logged. -/
def mergeSkipClasses (settings : Settings) (raw : String) : Recorded Settings where
  value := { settings with
    discovery := { settings.discovery with skipClasses := settings.mergedSkipClasses raw } }
  log :=
    ((settings.mergedSkipClasses raw).drop settings.discovery.skipClasses.length).map fun name =>
      ⟨.debug, "skip class " ++ name⟩
  trace := []

/-- The skip list of a run. -/
def skipList (settings : Settings) : SkipList :=
  SortedSet.ofList (settings.discovery.skipClasses.map fun name => ⟨Text.trim name⟩)

/-- The packages that reports cover, without the blanks around them. -/
def packages (settings : Settings) : List String := settings.discovery.packages.map Text.trim

end Settings

end Conformance
