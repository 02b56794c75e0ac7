import Conformance.Proofs.FirstOccurrences
import Conformance.Registry

/-!
# What a registry tells of its history

A registry comes about by operations: suites are registered one by one, and a scan
begins anew with what was discovered. The history of the operations is the list of the
suites that were registered, those on a skip list left out. It says what both indices
hold: by type the last suite of each declaring type, by capability the last suite of
each key, in the order in which the keys were first registered.

`Tells` is the invariant that ties both indices to the history, `Tells.register` is its
step, and `tells_after` is the invariant of every run of operations. The suites of a
capability are thereby a function of the history, `standing`.
-/

namespace Conformance

namespace Registry

/-- One thing done to a registry. -/
inductive Operation where
  | register (suite : Suite)
  /-- What was discovered is scanned into a new registry. -/
  | scan (suites : List Suite) (skip : SkipList)

namespace Operation

/-- The registry after an operation. -/
def apply (registry : Registry) : Operation → Registry
  | .register suite => registry.register suite
  | .scan suites skip => (Registry.scan suites skip).value

/-- The suites registered up to an operation. A scan begins anew and leaves out the suites of the
declaring types on its skip list. -/
def record (history : List Suite) : Operation → List Suite
  | .register suite => history ++ [suite]
  | .scan suites skip => suites.filter fun suite => decide (¬ suite.declaringType ∈ skip)

/-- The declaring types shown up to an operation, those on a skip list included. -/
def reveal (types : List Name) : Operation → List Name
  | .register suite => types ++ [suite.declaringType]
  | .scan suites _ => suites.map Suite.declaringType

end Operation

/-- The registry after operations that begin with the empty one. -/
def after (operations : List Operation) : Registry := operations.foldl Operation.apply ∅

/-- The suites that operations registered, first to last. -/
def history (operations : List Operation) : List Suite := operations.foldl Operation.record []

/-- The declaring types that operations showed to the registry. -/
def shownTypes (operations : List Operation) : List Name := operations.foldl Operation.reveal []

/-- The suite registered last among those that pass a test. -/
def latest? (history : List Suite) (test : Suite → Bool) : Option Suite :=
  (history.filter test).getLast?

/-- A suite that is registered now is the latest of those that pass a test, if it passes. -/
theorem latest?_append_singleton (history : List Suite) (suite : Suite) (test : Suite → Bool) :
    latest? (history ++ [suite]) test =
      if test suite then some suite else latest? history test := by
  cases passed : test suite <;> simp [latest?, List.filter_append, passed]

/-- The latest suite that passes a test is registered and passes it. -/
theorem test_of_latest? (history : List Suite) (suite : Suite) (test : Suite → Bool)
    (last : latest? history test = some suite) : suite ∈ history ∧ test suite = true :=
  List.mem_filter.mp (List.mem_of_getLast? last)

/-- There is a latest suite that passes a test if any suite does. -/
theorem latest?_isSome_iff (history : List Suite) (test : Suite → Bool) :
    (latest? history test).isSome ↔ ∃ suite ∈ history, test suite = true := by
  simp [latest?]

/-- The last suite that passes a test is also the last for every narrower test that it passes. -/
theorem latest?_of_narrower (history : List Suite) (suite : Suite) (wide narrow : Suite → Bool)
    (last : latest? history wide = some suite) (passed : narrow suite = true)
    (narrower : ∀ other, narrow other = true → wide other = true) :
    latest? history narrow = some suite := by
  induction history using List.reverseRecOn with
  | nil => simp [latest?] at last
  | append_singleton history newest inductionHypothesis =>
    rw [latest?_append_singleton] at last ⊢
    cases newestNarrow : narrow newest with
    | true => simpa [narrower newest newestNarrow] using last
    | false =>
      cases newestWide : wide newest with
      | true =>
        obtain rfl : newest = suite := by simpa [newestWide] using last
        simp [passed] at newestNarrow
      | false => simpa using inductionHypothesis (by simpa [newestWide] using last)

/-- The keys registered for a capability, in the order of their first registration. -/
def keysFor (history : List Suite) (capability : Name) : List SuiteKey :=
  ((history.filter fun suite => decide (suite.target = capability)).map Suite.key).eraseDups

/-- The keys of a capability are those of the suites registered for it. -/
theorem mem_keysFor_iff (history : List Suite) (capability : Name) (key : SuiteKey) :
    key ∈ keysFor history capability ↔
      key.target = capability ∧ ∃ suite ∈ history, suite.key = key := by
  simp only [keysFor, List.mem_eraseDups, List.mem_map, List.mem_filter, decide_eq_true_eq]
  constructor
  · rintro ⟨suite, ⟨member, same⟩, rfl⟩
    exact ⟨same, suite, member, rfl⟩
  · rintro ⟨same, suite, member, rfl⟩
    exact ⟨suite, ⟨member, same⟩, rfl⟩

/-- A registration puts the key of its suite behind the keys of its target, unless it is among them.
-/
theorem keysFor_append_singleton (history : List Suite) (suite : Suite) (capability : Name) :
    keysFor (history ++ [suite]) capability =
      if suite.target = capability then
        if suite.key ∈ keysFor history capability then keysFor history capability
        else keysFor history capability ++ [suite.key]
      else keysFor history capability := by
  by_cases same : suite.target = capability
  · simp only [keysFor, List.filter_append, List.map_append, same, decide_true, List.filter_cons,
      List.filter_nil, if_true, List.map_cons, List.map_nil, eraseDups_append_singleton,
      List.mem_eraseDups]
  · simp [keysFor, List.filter_append, same]

/-- The suites that a history leaves for a capability: for each key, in the order of the first
registrations, the suite registered last. -/
def standing (history : List Suite) (capability : Name) : List Suite :=
  (keysFor history capability).filterMap fun key =>
    latest? history fun suite => decide (suite.key = key)

/-- What a history leaves was registered. -/
theorem mem_of_standing (history : List Suite) (capability : Name) (suite : Suite)
    (left : suite ∈ standing history capability) : suite ∈ history := by
  obtain ⟨key, _, last⟩ := List.mem_filterMap.mp left
  exact (test_of_latest? history suite _ last).1

/-- Enlisting a suite puts its key behind the others, unless it is among them. -/
theorem keys_enlist (suite : Suite) (suites : List Suite) :
    (enlist suite suites).map Suite.key =
      if suite.key ∈ suites.map Suite.key then suites.map Suite.key
      else suites.map Suite.key ++ [suite.key] := by
  induction suites with
  | nil => simp [enlist]
  | cons head rest inductionHypothesis =>
    by_cases same : head.key = suite.key
    · simp [enlist, same]
    · have different : suite.key ≠ head.key := Ne.symm same
      simp only [enlist, same, if_false, List.map_cons, inductionHypothesis, List.mem_cons,
        different, false_or]
      split <;> rfl

/-- With distinct keys, enlisting replaces the suite of the same key and keeps all others. -/
theorem mem_enlist_iff (suite other : Suite) (suites : List Suite)
    (distinct : (suites.map Suite.key).Nodup) :
    other ∈ enlist suite suites ↔ other = suite ∨ other ∈ suites ∧ other.key ≠ suite.key := by
  induction suites with
  | nil => simp [enlist]
  | cons head rest inductionHypothesis =>
    obtain ⟨headOnce, restDistinct⟩ := List.nodup_cons.mp distinct
    by_cases same : head.key = suite.key
    · have laterDiffer (later : Suite) (member : later ∈ rest) : later.key ≠ suite.key := by
        intro equal
        exact headOnce (List.mem_map.mpr ⟨later, member, equal.trans same.symm⟩)
      simp only [enlist, same, if_true, List.mem_cons]
      constructor
      · rintro (rfl | member)
        · exact .inl rfl
        · exact .inr ⟨.inr member, laterDiffer other member⟩
      · rintro (rfl | ⟨rfl | member, different⟩)
        · exact .inl rfl
        · exact absurd same different
        · exact .inr member
    · simp only [enlist, same, if_false, List.mem_cons, inductionHypothesis restDistinct]
      constructor
      · rintro (rfl | rfl | ⟨member, different⟩)
        · exact .inr ⟨.inl rfl, same⟩
        · exact .inl rfl
        · exact .inr ⟨.inr member, different⟩
      · rintro (rfl | ⟨rfl | member, different⟩)
        · exact .inr (.inl rfl)
        · exact .inl rfl
        · exact .inr (.inr ⟨member, different⟩)

/-- Both indices of a registry tell the same history. -/
structure Tells (registry : Registry) (history : List Suite) : Prop where
  /-- A capability lists each registered key once, in the order of the first registrations. -/
  keys : ∀ capability, (registry.suitesFor capability).map Suite.key = keysFor history capability
  /-- The suite held for a key is the last one registered with it. -/
  last : ∀ capability, ∀ suite ∈ registry.suitesFor capability,
    latest? history (fun other => decide (other.key = suite.key)) = some suite
  /-- The suite held for a type is the last one that the type declared. -/
  byType : ∀ declaringType, registry.suiteOf? declaringType =
    latest? history fun suite => decide (suite.declaringType = declaringType)
  /-- The capabilities with a list are those that were registered for. -/
  targets : ∀ capability, capability ∈ registry.capabilities ↔
    ∃ suite ∈ history, suite.target = capability

namespace Tells

variable {registry : Registry} {history : List Suite}

/-- The suites of a capability have different keys. -/
theorem distinct (tells : registry.Tells history) (capability : Name) :
    ((registry.suitesFor capability).map Suite.key).Nodup := by
  rw [tells.keys]
  exact nodup_eraseDups _

/-- The suites of a capability are registered for it. -/
theorem target_of_mem (tells : registry.Tells history) (capability : Name) (suite : Suite)
    (member : suite ∈ registry.suitesFor capability) : suite.target = capability := by
  have listed : suite.key ∈ keysFor history capability := by
    rw [← tells.keys]
    exact List.mem_map_of_mem member
  exact ((mem_keysFor_iff history capability suite.key).mp listed).1

/-- A capability lists the last suite of every key that was registered for it, and nothing else. -/
theorem mem_suitesFor_iff (tells : registry.Tells history) (capability : Name) (suite : Suite) :
    suite ∈ registry.suitesFor capability ↔ suite.target = capability ∧
      latest? history (fun other => decide (other.key = suite.key)) = some suite := by
  constructor
  · intro member
    exact ⟨tells.target_of_mem capability suite member, tells.last capability suite member⟩
  · rintro ⟨same, newest⟩
    have registered : suite ∈ history := (test_of_latest? history suite _ newest).1
    have listed : suite.key ∈ (registry.suitesFor capability).map Suite.key := by
      rw [tells.keys]
      exact (mem_keysFor_iff history capability suite.key).mpr ⟨same, suite, registered, rfl⟩
    obtain ⟨holder, member, sameKey⟩ := List.mem_map.mp listed
    have holderNewest := tells.last capability holder member
    rw [sameKey] at holderNewest
    obtain rfl : holder = suite := Option.some.inj (holderNewest.symm.trans newest)
    exact member

/-- The list of a capability is a function of the history. -/
theorem suitesFor_eq_standing (tells : registry.Tells history) (capability : Name) :
    registry.suitesFor capability = standing history capability := by
  have filled (suites : List Suite)
      (last : ∀ suite ∈ suites,
        latest? history (fun other => decide (other.key = suite.key)) = some suite) :
      (suites.map Suite.key).filterMap (fun key =>
        latest? history fun suite => decide (suite.key = key)) = suites := by
    rw [List.filterMap_map]
    calc suites.filterMap _ = suites.filterMap some := List.filterMap_congr last
      _ = suites := List.filterMap_some
  rw [standing, ← tells.keys]
  exact (filled _ (tells.last capability)).symm

/-- A capability without suites is one that nothing was registered for. -/
theorem suitesFor_eq_nil_iff (tells : registry.Tells history) (capability : Name) :
    registry.suitesFor capability = [] ↔ ∀ suite ∈ history, suite.target ≠ capability := by
  have emptyKeys : registry.suitesFor capability = [] ↔ keysFor history capability = [] := by
    rw [← tells.keys, List.map_eq_nil_iff]
  rw [emptyKeys, List.eq_nil_iff_forall_not_mem]
  constructor
  · intro none suite member same
    exact none suite.key ((mem_keysFor_iff history capability suite.key).mpr
      ⟨same, suite, member, rfl⟩)
  · intro none key listed
    obtain ⟨same, suite, member, rfl⟩ := (mem_keysFor_iff history capability key).mp listed
    exact none suite member same

/-- A capability has suites if some suite was registered for it. -/
theorem exists_mem_suitesFor_iff (tells : registry.Tells history) (capability : Name) :
    (∃ suite, suite ∈ registry.suitesFor capability) ↔
      ∃ suite ∈ history, suite.target = capability := by
  rw [← not_iff_not, not_exists, ← List.eq_nil_iff_forall_not_mem,
    tells.suitesFor_eq_nil_iff]
  simp

/-- The capabilities in the index are those with suites. -/
theorem mem_capabilities_iff (tells : registry.Tells history) (capability : Name) :
    capability ∈ registry.capabilities ↔ registry.suitesFor capability ≠ [] := by
  rw [tells.targets, ← tells.exists_mem_suitesFor_iff, ne_eq, List.eq_nil_iff_forall_not_mem,
    not_forall_not]

/-- The suite that a type declared last stands in the list of its own capability, where its key is
held by the last suite registered with it. -/
theorem listed_of_suiteOf? (tells : registry.Tells history) (declaringType : Name) (suite : Suite)
    (found : registry.suiteOf? declaringType = some suite) :
    suite ∈ registry.suitesFor suite.target := by
  rw [tells.byType] at found
  have declared : suite.declaringType = declaringType := by
    simpa using (test_of_latest? history suite _ found).2
  refine (tells.mem_suitesFor_iff suite.target suite).mpr ⟨rfl, ?_⟩
  refine latest?_of_narrower history suite _ _ found (by simp) ?_
  intro other sameKey
  have sameType : other.declaringType = suite.declaringType :=
    congrArg SuiteKey.declaringType (of_decide_eq_true sameKey)
  exact decide_eq_true (sameType.trans declared)

/-- The types that a registry knows are those that declare the suites of its history. -/
theorem mem_types_iff (tells : registry.Tells history) (name : Name) :
    name ∈ registry.byType.keys ↔ name ∈ history.map Suite.declaringType := by
  have found : registry.byType.get? name =
      latest? history fun suite => decide (suite.declaringType = name) := tells.byType name
  rw [SortedMap.mem_keys_iff, found, latest?_isSome_iff]
  simp

/-- The size of a registry is the number of different declaring types that registered a suite. -/
theorem size_eq (tells : registry.Tells history) :
    registry.size = (history.map Suite.declaringType).eraseDups.length := by
  have same : registry.byType.keys.Perm (history.map Suite.declaringType).eraseDups := by
    refine (List.perm_ext_iff_of_nodup (nodup_of_increasing registry.byType.keys_increasing)
      (nodup_eraseDups _)).mpr ?_
    intro name
    rw [tells.mem_types_iff, List.mem_eraseDups]
  rw [← same.length_eq, SortedMap.keys, List.length_map]
  rfl

/-- A registry knows no declaring types only if nothing was registered. -/
theorem byType_eq_nil_iff (tells : registry.Tells history) :
    registry.byType.toList = [] ↔ history = [] := by
  have keys : registry.byType.toList = [] ↔ registry.byType.keys = [] := by
    rw [SortedMap.keys, List.map_eq_nil_iff]
  rw [keys, List.eq_nil_iff_forall_not_mem]
  simp only [tells.mem_types_iff, ← List.eq_nil_iff_forall_not_mem, List.map_eq_nil_iff]

/-- A registry knows no capabilities only if nothing was registered. -/
theorem byCapability_eq_nil_iff (tells : registry.Tells history) :
    registry.byCapability.toList = [] ↔ history = [] := by
  have keys : registry.byCapability.toList = [] ↔ registry.capabilities = [] := by
    rw [capabilities, SortedMap.keys, List.map_eq_nil_iff]
  have targets (capability : Name) :
      capability ∈ registry.capabilities ↔ capability ∈ history.map Suite.target := by
    rw [tells.targets, List.mem_map]
  rw [keys, List.eq_nil_iff_forall_not_mem]
  simp only [targets, ← List.eq_nil_iff_forall_not_mem, List.map_eq_nil_iff]

/-- The registry without suites tells the history without registrations. -/
theorem ofEmpty : (∅ : Registry).Tells [] where
  keys _ := rfl
  last _ _ member := absurd member List.not_mem_nil
  byType _ := rfl
  targets capability := by
    constructor
    · intro listed
      exact absurd listed List.not_mem_nil
    · rintro ⟨suite, member, _⟩
      exact absurd member List.not_mem_nil

/-- Registering a suite adds it to the history that both indices tell. -/
theorem register (tells : registry.Tells history) (suite : Suite) :
    (registry.register suite).Tells (history ++ [suite]) where
  keys capability := by
    rw [suitesFor_register, keysFor_append_singleton]
    by_cases same : suite.target = capability
    · subst same
      simp only [if_true, keys_enlist, tells.keys]
    · simp only [same, Ne.symm same, if_false, tells.keys]
  last capability other member := by
    rw [suitesFor_register] at member
    rw [latest?_append_singleton]
    split at member
    · rcases (mem_enlist_iff suite other _ (tells.distinct suite.target)).mp member
        with rfl | ⟨older, different⟩
      · simp
      · simpa [Ne.symm different] using tells.last _ other older
    · next elsewhere =>
      -- what is listed for another capability has another target, hence another key
      have different : suite.key ≠ other.key := by
        intro sameKey
        have sameTarget : suite.target = other.target := congrArg SuiteKey.target sameKey
        exact elsewhere ((tells.target_of_mem capability other member).symm.trans sameTarget.symm)
      simpa [different] using tells.last capability other member
  byType declaringType := by
    rw [suiteOf?_register, latest?_append_singleton, tells.byType]
    by_cases same : declaringType = suite.declaringType
    · simp [same]
    · simp [same, Ne.symm same]
  targets capability := by
    rw [mem_capabilities_register, tells.targets]
    simp only [List.mem_append, List.mem_singleton, or_and_right, exists_or, exists_eq_left]
    constructor
    · rintro (rfl | older)
      · exact .inr rfl
      · exact .inl older
    · rintro (older | rfl)
      · exact .inr older
      · exact .inl rfl

/-- Remembering a declaring type leaves both indices alone. -/
theorem meet (tells : registry.Tells history) (declaringType : Name) :
    (registry.meet declaringType).Tells history :=
  ⟨tells.keys, tells.last, tells.byType, tells.targets⟩

end Tells

/-- One discovered suite is registered, or only its declaring type is remembered. -/
theorem value_takeIn (skip : SkipList) (registry : Registry) (suite : Suite) :
    (takeIn skip registry suite).value =
      if suite.declaringType ∈ skip then registry.meet suite.declaringType
      else registry.register suite := by
  unfold takeIn
  split <;> rfl

/-- Scanning takes the discovered suites in one by one. -/
theorem value_scan (suites : List Suite) (skip : SkipList) :
    (scan suites skip).value =
      suites.foldl (fun registry suite => (takeIn skip registry suite).value) ∅ :=
  Recorded.value_foldlM _ _ _

/-- Scanning adds to the history what is not on the skip list. -/
theorem tells_takeIn_all (skip : SkipList) (suites : List Suite) (registry : Registry)
    (history : List Suite) (tells : registry.Tells history) :
    (suites.foldl (fun registry suite => (takeIn skip registry suite).value) registry).Tells
      (history ++ suites.filter fun suite => decide (¬ suite.declaringType ∈ skip)) := by
  induction suites generalizing registry history with
  | nil => simpa using tells
  | cons suite rest inductionHypothesis =>
    rw [List.foldl_cons, value_takeIn]
    by_cases leftOut : suite.declaringType ∈ skip
    · simpa [leftOut] using inductionHypothesis _ _ (tells.meet suite.declaringType)
    · simpa [leftOut] using inductionHypothesis _ _ (tells.register suite)

/-- A scanned registry tells the discovered suites without those on the skip list. -/
theorem tells_scan (suites : List Suite) (skip : SkipList) :
    (scan suites skip).value.Tells
      (suites.filter fun suite => decide (¬ suite.declaringType ∈ skip)) := by
  rw [value_scan]
  simpa using tells_takeIn_all skip suites ∅ [] Tells.ofEmpty

/-- An operation adds to the registry what it adds to the history. -/
theorem Operation.tells_apply (operation : Operation) (registry : Registry) (history : List Suite)
    (tells : registry.Tells history) :
    (operation.apply registry).Tells (operation.record history) := by
  cases operation with
  | register suite => exact tells.register suite
  | scan suites skip => exact tells_scan suites skip

/-- After any operations the registry tells their history. -/
theorem tells_after (operations : List Operation) :
    (after operations).Tells (history operations) := by
  induction operations using List.reverseRecOn with
  | nil => exact Tells.ofEmpty
  | append_singleton operations operation inductionHypothesis =>
    simp only [after, history, List.foldl_append, List.foldl_cons, List.foldl_nil]
    exact operation.tells_apply _ _ inductionHypothesis

/-- The declaring types met by a scan are those of all discovered suites. -/
theorem mem_declaringTypes_takeIn_all (skip : SkipList) (suites : List Suite) (registry : Registry)
    (name : Name) :
    name ∈ (suites.foldl (fun registry suite =>
        (takeIn skip registry suite).value) registry).declaringTypes ↔
      name ∈ registry.declaringTypes ∨ name ∈ suites.map Suite.declaringType := by
  induction suites generalizing registry with
  | nil => simp
  | cons suite rest inductionHypothesis =>
    have taken : name ∈ (takeIn skip registry suite).value.declaringTypes ↔
        name = suite.declaringType ∨ name ∈ registry.declaringTypes := by
      rw [value_takeIn]
      split <;> exact SortedSet.mem_insert registry.declaringTypes suite.declaringType name
    rw [List.foldl_cons, inductionHypothesis, taken, List.map_cons, List.mem_cons, or_assoc,
      or_left_comm]

/-- A scanned registry remembers the declaring types of all discovered suites, those on the skip
list included. -/
theorem mem_declaringTypes_scan (suites : List Suite) (skip : SkipList) (name : Name) :
    name ∈ (scan suites skip).value.declaringTypes ↔ name ∈ suites.map Suite.declaringType := by
  have nothing : ¬ name ∈ (∅ : Registry).declaringTypes := SortedSet.not_mem_empty name
  rw [value_scan, mem_declaringTypes_takeIn_all, or_iff_right nothing]

/-- A registry remembers exactly the declaring types it was shown. -/
theorem mem_declaringTypes_after (operations : List Operation) (name : Name) :
    name ∈ (after operations).declaringTypes ↔ name ∈ shownTypes operations := by
  induction operations using List.reverseRecOn with
  | nil => exact Iff.rfl
  | append_singleton operations operation inductionHypothesis =>
    simp only [after, shownTypes, List.foldl_append, List.foldl_cons, List.foldl_nil] at *
    cases operation with
    | register suite =>
      rw [Operation.apply, Operation.reveal, List.mem_append, List.mem_singleton,
        ← inductionHypothesis, or_comm]
      exact SortedSet.mem_insert _ _ _
    | scan suites skip => exact mem_declaringTypes_scan suites skip name

/-- Whoever registers a suite shows its declaring type. -/
theorem declaringType_shown (operations : List Operation) (suite : Suite)
    (registered : suite ∈ history operations) : suite.declaringType ∈ shownTypes operations := by
  induction operations using List.reverseRecOn with
  | nil => exact absurd registered List.not_mem_nil
  | append_singleton operations operation inductionHypothesis =>
    simp only [history, shownTypes, List.foldl_append, List.foldl_cons, List.foldl_nil] at *
    cases operation with
    | register newest =>
      rw [Operation.record, List.mem_append, List.mem_singleton] at registered
      rw [Operation.reveal, List.mem_append, List.mem_singleton]
      rcases registered with older | rfl
      · exact .inl (inductionHypothesis older)
      · exact .inr rfl
    | scan suites skip =>
      exact List.mem_map_of_mem (List.mem_filter.mp registered).1

/-- The defects are those of the listed suites, capability by capability. -/
theorem defects_by_capability (registry : Registry) :
    registry.defects = registry.capabilities.flatMap fun capability =>
      (registry.suitesFor capability).flatMap Suite.defects := by
  rw [defects, values_byCapability, ← List.flatMap_def, List.flatMap_assoc]

/-- What a registry answers is told by its history, whatever was registered again and for whichever
capability. A capability lists each key registered for it once, at the place of its first
registration and with the suite registered last; a type has the suite it declared last, and that
suite is listed under its own capability. So the capabilities are exactly the targets, none with an
empty list, the size counts the declaring types, the registry is empty if both indices are, and the
defects are those of the listed suites, capability by capability.

All of it follows from the invariant that ties both indices to the history. -/
theorem indices_tell_history (operations : List Operation) :
    let registry := after operations
    let history := history operations
    (∀ capability,
      (registry.suitesFor capability).map Suite.key =
          ((history.filter fun suite => decide (suite.target = capability)).map
            Suite.key).eraseDups ∧
        ((registry.suitesFor capability).map Suite.key).Nodup ∧
        ∀ suite ∈ registry.suitesFor capability,
          (history.filter fun other => decide (other.key = suite.key)).getLast? = some suite) ∧
    (∀ declaringType,
      registry.suiteOf? declaringType =
          (history.filter fun suite => decide (suite.declaringType = declaringType)).getLast? ∧
        ∀ suite, registry.suiteOf? declaringType = some suite →
          suite ∈ registry.suitesFor suite.target) ∧
    (registry.capabilities.Pairwise (fun left right => compare left right = .lt) ∧
      ∀ capability,
        (capability ∈ registry.capabilities ↔ ∃ suite ∈ history, suite.target = capability) ∧
          (capability ∈ registry.capabilities → registry.suitesFor capability ≠ [])) ∧
    registry.size = (history.map Suite.declaringType).eraseDups.length ∧
    (registry.isEmpty = true ↔
      registry.byType.toList = [] ∧ registry.byCapability.toList = []) ∧
    registry.defects = registry.capabilities.flatMap fun capability =>
      (registry.suitesFor capability).flatMap Suite.defects := by
  intro registry history
  have tells : registry.Tells history := tells_after operations
  refine ⟨?_, ?_, ⟨registry.byCapability.keys_increasing, ?_⟩, tells.size_eq, ?_, ?_⟩
  · intro capability
    exact ⟨tells.keys capability, tells.distinct capability, tells.last capability⟩
  · intro declaringType
    exact ⟨tells.byType declaringType, tells.listed_of_suiteOf? declaringType⟩
  · intro capability
    refine ⟨tells.targets capability, ?_⟩
    intro named none
    obtain ⟨suite, member, same⟩ := (tells.targets capability).mp named
    exact (tells.suitesFor_eq_nil_iff capability).mp none suite member same
  · have isEmpty : registry.isEmpty = true ↔ registry.byType.toList = [] := List.isEmpty_iff
    rw [isEmpty, tells.byType_eq_nil_iff, tells.byCapability_eq_nil_iff, and_self]
  · exact registry.defects_by_capability

end Registry

end Conformance
