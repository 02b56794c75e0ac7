import Conformance.Recorded
import Conformance.SkipList
import Conformance.Suite.Basic

/-!
# The registry of suites

The registry answers two questions: which suites test a capability, in the order in
which they were first registered, and which suite a type declared last. It also
remembers every declaring type it was shown, those on the skip list included.
-/

namespace Conformance

/-- Suites by declaring type and by capability. -/
structure Registry where
  /-- The suite that each type declared last. -/
  byType : SortedMap Name Suite
  /-- The suites of each capability, one for each key, in the order of their first registration. -/
  byCapability : SortedMap Name (List Suite)
  /-- Every declaring type seen. -/
  declaringTypes : NameSet

namespace Registry

/-- The registry without suites. -/
def empty : Registry := ⟨∅, ∅, ∅⟩

instance : EmptyCollection Registry := ⟨empty⟩

instance : Inhabited Registry := ⟨empty⟩

/-- Puts a suite in the place of the one with the same key, or at the end. -/
def enlist (suite : Suite) : List Suite → List Suite
  | [] => [suite]
  | head :: rest => if head.key = suite.key then suite :: rest else head :: enlist suite rest

/-- The suites of a capability. -/
def suitesFor (registry : Registry) (capability : Name) : List Suite :=
  (registry.byCapability.get? capability).getD []

/-- The suite that a type declared last. -/
def suiteOf? (registry : Registry) (declaringType : Name) : Option Suite :=
  registry.byType.get? declaringType

/-- Whether a type declares suites, left out or not. -/
def isDeclaringType (registry : Registry) (name : Name) : Bool :=
  decide (name ∈ registry.declaringTypes)

/-- Remembers a declaring type. -/
def meet (registry : Registry) (declaringType : Name) : Registry :=
  { registry with declaringTypes := registry.declaringTypes.insert declaringType }

/-- Registers a suite, well-formed or not. -/
def register (registry : Registry) (suite : Suite) : Registry where
  byType := registry.byType.insert suite.declaringType suite
  byCapability := registry.byCapability.insert suite.target
    (enlist suite (registry.suitesFor suite.target))
  declaringTypes := registry.declaringTypes.insert suite.declaringType

/-- Registering changes the list of one capability, that of the suite. -/
theorem suitesFor_register (registry : Registry) (suite : Suite) (capability : Name) :
    (registry.register suite).suitesFor capability =
      if capability = suite.target then enlist suite (registry.suitesFor suite.target)
      else registry.suitesFor capability := by
  simp only [suitesFor, register, SortedMap.get?_insert]
  split <;> rfl

/-- Registering changes what one declaring type is known by, that of the suite. -/
theorem suiteOf?_register (registry : Registry) (suite : Suite) (declaringType : Name) :
    (registry.register suite).suiteOf? declaringType =
      if declaringType = suite.declaringType then some suite
      else registry.suiteOf? declaringType :=
  SortedMap.get?_insert registry.byType suite.declaringType declaringType suite

/-- Takes in one discovered suite, unless its declaring type is to be left out. -/
def takeIn (skip : SkipList) (registry : Registry) (suite : Suite) : Recorded Registry :=
  if suite.declaringType ∈ skip then do
    Recorded.logged .debug ("skipping contract declaration " ++ suite.declaringType.text)
    return registry.meet suite.declaringType
  else do
    Recorded.logged .debug ("adding " ++ suite.declaringType.text ++ " " ++ suite.key.display)
    return registry.register suite

/-- The registry of the discovered suites without those on the skip list. -/
def scan (suites : List Suite) (skip : SkipList) : Recorded Registry :=
  suites.foldlM (takeIn skip) ∅

/-- The suite that each type declared last, in the order of the types. -/
def suites (registry : Registry) : List Suite := registry.byType.values

/-- The capabilities with suites, in order. -/
def capabilities (registry : Registry) : List Name := registry.byCapability.keys

/-- Registering a suite makes its capability known, and no other. -/
theorem mem_capabilities_register (registry : Registry) (suite : Suite) (capability : Name) :
    capability ∈ (registry.register suite).capabilities ↔
      capability = suite.target ∨ capability ∈ registry.capabilities := by
  simp only [capabilities, SortedMap.mem_keys_iff, register, SortedMap.get?_insert]
  by_cases same : capability = suite.target <;> simp [same]

/-- The suites of each capability stand in the index under its name. -/
theorem values_byCapability (registry : Registry) :
    registry.byCapability.values = registry.capabilities.map registry.suitesFor := by
  rw [capabilities, SortedMap.keys, SortedMap.values, List.map_map]
  refine List.map_congr_left ?_
  intro binding member
  have found := (SortedMap.get?_eq_some_iff registry.byCapability binding.1 binding.2).mpr member
  simp [suitesFor, found]

/-- The defects of all registered suites, by capability, then in the order of registration. -/
def defects (registry : Registry) : List Defect :=
  registry.byCapability.values.flatten.flatMap Suite.defects

/-- The number of declaring types with a registered suite. -/
def size (registry : Registry) : Nat := registry.byType.size

def isEmpty (registry : Registry) : Bool := registry.byType.isEmpty

end Registry

end Conformance
