/-!
# Finite maps in increasing key order

A map is held as the list of its bindings with strictly increasing keys. Walking a
map therefore meets the keys in order, and no key twice, whatever was bound first.

Main statements: `get?_insert` is the law of binding, and `get?_eq_some_iff` says
that a map holds exactly the bindings that its walk meets.
-/

namespace Conformance

universe u v

/-- A finite map, held as its bindings in strictly increasing key order. -/
structure SortedMap (κ : Type u) (ν : Type v) [Ord κ] where
  /-- The bindings, least key first. -/
  toList : List (κ × ν)
  increasing : toList.Pairwise fun left right => compare left.1 right.1 = .lt

namespace SortedMap

variable {κ : Type u} {ν : Type v} [Ord κ]

/-- Puts a binding at its place among increasing keys; a binding of the same key gives way. -/
def place (key : κ) (value : ν) : List (κ × ν) → List (κ × ν)
  | [] => [(key, value)]
  | head :: rest =>
    match compare key head.1 with
    | .lt => (key, value) :: head :: rest
    | .eq => (key, value) :: rest
    | .gt => head :: place key value rest

/-- The value bound to a key in a list of bindings. -/
def find? (key : κ) : List (κ × ν) → Option ν
  | [] => none
  | head :: rest => if compare key head.1 = .eq then some head.2 else find? key rest

/-- Placing a binding brings in no other one. -/
theorem mem_place (key : κ) (value : ν) (binding : κ × ν) (bindings : List (κ × ν))
    (member : binding ∈ place key value bindings) :
    binding = (key, value) ∨ binding ∈ bindings := by
  induction bindings with
  | nil => simpa [place] using member
  | cons head rest inductionHypothesis =>
    simp only [place] at member
    split at member
    · simpa using member
    · rcases List.mem_cons.mp member with found | found
      · exact .inl found
      · exact .inr (List.mem_cons_of_mem _ found)
    · rcases List.mem_cons.mp member with found | found
      · exact .inr (found ▸ List.mem_cons_self)
      · rcases inductionHypothesis found with equal | older
        · exact .inl equal
        · exact .inr (List.mem_cons_of_mem _ older)

/-- Placing a binding keeps the keys increasing. -/
theorem place_increasing [Std.TransOrd κ] [Std.LawfulEqOrd κ] (key : κ) (value : ν)
    (bindings : List (κ × ν))
    (increasing : bindings.Pairwise fun left right => compare left.1 right.1 = .lt) :
    (place key value bindings).Pairwise fun left right => compare left.1 right.1 = .lt := by
  induction bindings with
  | nil => simp [place]
  | cons head rest inductionHypothesis =>
    obtain ⟨headFirst, restIncreasing⟩ := List.pairwise_cons.mp increasing
    simp only [place]
    split
    · next before =>
      refine List.pairwise_cons.mpr ⟨?_, increasing⟩
      intro later member
      rcases List.mem_cons.mp member with rfl | member
      · exact before
      · exact Std.TransCmp.lt_trans before (headFirst later member)
    · next same =>
      have equal : key = head.1 := Std.LawfulEqOrd.eq_of_compare same
      exact List.pairwise_cons.mpr ⟨by rw [equal]; exact headFirst, restIncreasing⟩
    · next after =>
      refine List.pairwise_cons.mpr ⟨?_, inductionHypothesis restIncreasing⟩
      intro later member
      rcases mem_place key value later rest member with rfl | member
      · exact Std.OrientedCmp.lt_of_gt after
      · exact headFirst later member

/-- Placing a binding changes what is found under its key and under no other. -/
theorem find?_place [Std.TransOrd κ] [Std.LawfulEqOrd κ] [DecidableEq κ] (key other : κ) (value : ν)
    (bindings : List (κ × ν)) :
    find? other (place key value bindings) =
      if other = key then some value else find? other bindings := by
  have same_iff (left right : κ) : compare left right = .eq ↔ left = right :=
    Std.LawfulEqOrd.compare_eq_iff_eq
  induction bindings with
  | nil => simp [place, find?, same_iff]
  | cons head rest inductionHypothesis =>
    simp only [place]
    split
    · next before =>
      simp only [find?, same_iff]
    · next same =>
      have equal : key = head.1 := (same_iff key head.1).mp same
      subst equal
      by_cases target : other = head.1 <;> simp [find?, same_iff, target]
    · next after =>
      have different : key ≠ head.1 := by
        intro equal
        simp [(same_iff key head.1).mpr equal] at after
      by_cases target : other = head.1
      · subst target
        simp [find?, Ne.symm different]
      · simp [find?, same_iff, target, inductionHypothesis]

/-- The map without bindings. -/
def empty : SortedMap κ ν := ⟨[], List.Pairwise.nil⟩

instance : EmptyCollection (SortedMap κ ν) := ⟨empty⟩

instance : Inhabited (SortedMap κ ν) := ⟨empty⟩

/-- The value bound to a key. -/
def get? (map : SortedMap κ ν) (key : κ) : Option ν := find? key map.toList

/-- The bound keys, least first. -/
def keys (map : SortedMap κ ν) : List κ := map.toList.map (·.1)

/-- The bound values, in the order of their keys. -/
def values (map : SortedMap κ ν) : List ν := map.toList.map (·.2)

/-- The number of bindings. -/
def size (map : SortedMap κ ν) : Nat := map.toList.length

/-- Whether nothing is bound. -/
def isEmpty (map : SortedMap κ ν) : Bool := map.toList.isEmpty

/-- The empty map binds nothing. -/
theorem get?_empty (key : κ) : (∅ : SortedMap κ ν).get? key = none := rfl

/-- The keys of a map increase. -/
theorem keys_increasing (map : SortedMap κ ν) :
    map.keys.Pairwise fun left right => compare left right = .lt :=
  List.pairwise_map.mpr map.increasing

variable [Std.TransOrd κ] [Std.LawfulEqOrd κ]

/-- Binds a value to a key, in place of any value bound to it before. -/
def insert (map : SortedMap κ ν) (key : κ) (value : ν) : SortedMap κ ν :=
  ⟨place key value map.toList, place_increasing key value map.toList map.increasing⟩

/-- The map of a list of bindings; of two bindings of one key the later counts. -/
def ofList (bindings : List (κ × ν)) : SortedMap κ ν :=
  bindings.foldl (fun map binding => map.insert binding.1 binding.2) ∅

/-- Inserting a binding changes what is found under its key and under no other. -/
theorem get?_insert [DecidableEq κ] (map : SortedMap κ ν) (key other : κ) (value : ν) :
    (map.insert key value).get? other = if other = key then some value else map.get? other :=
  find?_place key other value map.toList

omit [Std.TransOrd κ] in
/-- A key is not found if no binding has it. -/
theorem find?_eq_none_iff (key : κ) (bindings : List (κ × ν)) :
    find? key bindings = none ↔ ∀ binding ∈ bindings, binding.1 ≠ key := by
  induction bindings with
  | nil => simp [find?]
  | cons head rest inductionHypothesis =>
    by_cases same : compare key head.1 = .eq
    · have equal : key = head.1 := Std.LawfulEqOrd.eq_of_compare same
      simp [find?, equal]
    · have different : head.1 ≠ key := by
        intro equal
        subst equal
        exact same Std.ReflCmp.compare_self
      simp [find?, same, inductionHypothesis, different]

omit [Std.TransOrd κ] in
/-- A key is bound to a value if the two are among the bindings. -/
theorem get?_eq_some_iff (map : SortedMap κ ν) (key : κ) (value : ν) :
    map.get? key = some value ↔ (key, value) ∈ map.toList := by
  have lookup (bindings : List (κ × ν))
      (increasing : bindings.Pairwise fun left right => compare left.1 right.1 = .lt) :
      find? key bindings = some value ↔ (key, value) ∈ bindings := by
    induction bindings with
    | nil => simp [find?]
    | cons head rest inductionHypothesis =>
      obtain ⟨headFirst, restIncreasing⟩ := List.pairwise_cons.mp increasing
      by_cases same : compare key head.1 = .eq
      · have equal : key = head.1 := Std.LawfulEqOrd.eq_of_compare same
        have notLater (item : ν) : (key, item) ∉ rest := by
          intro member
          have below := headFirst _ member
          simp [← equal, Std.ReflCmp.compare_self] at below
        simp only [find?, same, if_true, Option.some.injEq, List.mem_cons, notLater, or_false]
        constructor
        · rintro rfl
          rw [equal]
        · intro found
          exact (congrArg Prod.snd found).symm
      · have different : key ≠ head.1 := by
          intro equal
          subst equal
          exact same Std.ReflCmp.compare_self
        have notHead : (key, value) ≠ head := fun equal => different (congrArg Prod.fst equal)
        simp [find?, same, inductionHypothesis restIncreasing, notHead]
  exact lookup map.toList map.increasing

omit [Std.TransOrd κ] in
/-- The keys of a map are those that are bound. -/
theorem mem_keys_iff (map : SortedMap κ ν) (key : κ) : key ∈ map.keys ↔ (map.get? key).isSome := by
  rw [Option.isSome_iff_ne_none, get?, ne_eq, find?_eq_none_iff]
  simp [keys]

end SortedMap

end Conformance
