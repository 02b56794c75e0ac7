/-!
# Finite sets in increasing order

A set is held as the strictly increasing list of its members, so a set has one
representation only: two sets with the same members are equal, and walking a set
always meets its members in the same order, whatever the insertion order was.

Main statements: `mem_insert` and `mem_ofList` say what the operations do to the
members, and `ext` says that the members determine the set.
-/

namespace Conformance

universe u

/-- A finite set, held as its members in strictly increasing order. -/
structure SortedSet (α : Type u) [Ord α] where
  /-- The members, least first. -/
  toList : List α
  increasing : toList.Pairwise fun left right => compare left right = .lt

namespace SortedSet

variable {α : Type u} [Ord α]

/-- Puts a member at its place in an increasing list; a member already there stays alone. -/
def place (item : α) : List α → List α
  | [] => [item]
  | head :: rest =>
    match compare item head with
    | .lt => item :: head :: rest
    | .eq => item :: rest
    | .gt => head :: place item rest

/-- Placing an item adds this one and no other. -/
theorem mem_place [Std.LawfulEqOrd α] (item other : α) (items : List α) :
    other ∈ place item items ↔ other = item ∨ other ∈ items := by
  induction items with
  | nil => simp [place]
  | cons head rest inductionHypothesis =>
    simp only [place]
    split
    · simp
    · next same =>
      have equal : item = head := Std.LawfulEqOrd.eq_of_compare same
      simp [equal]
    · simp only [List.mem_cons, inductionHypothesis]
      exact or_left_comm

/-- Placing an item keeps the items increasing. -/
theorem place_increasing [Std.TransOrd α] [Std.LawfulEqOrd α] (item : α) (items : List α)
    (increasing : items.Pairwise fun left right => compare left right = .lt) :
    (place item items).Pairwise fun left right => compare left right = .lt := by
  induction items with
  | nil => simp [place]
  | cons head rest inductionHypothesis =>
    obtain ⟨headFirst, restIncreasing⟩ := List.pairwise_cons.mp increasing
    simp only [place]
    split
    · next before =>
      refine List.pairwise_cons.mpr ⟨?_, increasing⟩
      intro later member
      rcases List.mem_cons.mp member with rfl | member
      · exact before
      · exact Std.TransCmp.lt_trans before (headFirst later member)
    · next same =>
      have equal : item = head := Std.LawfulEqOrd.eq_of_compare same
      exact List.pairwise_cons.mpr ⟨by rw [equal]; exact headFirst, restIncreasing⟩
    · next after =>
      refine List.pairwise_cons.mpr ⟨?_, inductionHypothesis restIncreasing⟩
      intro later member
      rcases (mem_place item later rest).mp member with rfl | member
      · exact Std.OrientedCmp.lt_of_gt after
      · exact headFirst later member

/-- The set without members. -/
def empty : SortedSet α := ⟨[], List.Pairwise.nil⟩

instance : EmptyCollection (SortedSet α) := ⟨empty⟩

instance : Inhabited (SortedSet α) := ⟨empty⟩

instance : Membership α (SortedSet α) := ⟨fun set item => item ∈ set.toList⟩

instance [DecidableEq α] (item : α) (set : SortedSet α) : Decidable (item ∈ set) :=
  inferInstanceAs (Decidable (item ∈ set.toList))

/-- What is listed of a set is what it has. -/
theorem mem_toList (item : α) (set : SortedSet α) : item ∈ set.toList ↔ item ∈ set := Iff.rfl

/-- The number of members. -/
def size (set : SortedSet α) : Nat := set.toList.length

/-- Whether there is no member. -/
def isEmpty (set : SortedSet α) : Bool := set.toList.isEmpty

/-- The members that pass the test. -/
def filter (keep : α → Bool) (set : SortedSet α) : SortedSet α :=
  ⟨set.toList.filter keep, set.increasing.sublist List.filter_sublist⟩

/-- Filtering a set keeps those of its members that pass. -/
theorem mem_filter (keep : α → Bool) (item : α) (set : SortedSet α) :
    item ∈ set.filter keep ↔ item ∈ set ∧ keep item = true := List.mem_filter

/-- The empty set has no members. -/
theorem not_mem_empty (item : α) : ¬ item ∈ (∅ : SortedSet α) := List.not_mem_nil

variable [Std.TransOrd α] [Std.LawfulEqOrd α]

/-- Adds a member. -/
def insert (set : SortedSet α) (item : α) : SortedSet α :=
  ⟨place item set.toList, place_increasing item set.toList set.increasing⟩

/-- The set of the members of a list. -/
def ofList (items : List α) : SortedSet α := items.foldl insert ∅

/-- The members of either set. -/
def union (left right : SortedSet α) : SortedSet α := right.toList.foldl insert left

instance : Union (SortedSet α) := ⟨union⟩

/-- Inserting an item adds this one and no other. -/
theorem mem_insert (set : SortedSet α) (item other : α) :
    other ∈ set.insert item ↔ other = item ∨ other ∈ set := mem_place item other set.toList

/-- Inserting items one by one adds them all. -/
theorem mem_foldl_insert (items : List α) (set : SortedSet α) (other : α) :
    other ∈ items.foldl insert set ↔ other ∈ items ∨ other ∈ set := by
  induction items generalizing set with
  | nil => simp
  | cons head rest inductionHypothesis =>
    simp only [List.foldl_cons, inductionHypothesis, mem_insert, List.mem_cons, or_left_comm,
      or_assoc]

/-- The set of a list has the items of the list. -/
theorem mem_ofList (items : List α) (other : α) : other ∈ ofList items ↔ other ∈ items := by
  simp [ofList, mem_foldl_insert, not_mem_empty]

/-- A union has the members of both sets. -/
theorem mem_union (left right : SortedSet α) (other : α) :
    other ∈ left ∪ right ↔ other ∈ left ∨ other ∈ right := by
  show other ∈ right.toList.foldl insert left ↔ _
  rw [mem_foldl_insert, mem_toList, or_comm]

end SortedSet

/-- A strictly increasing list holds nothing twice. -/
theorem nodup_of_increasing {α : Type u} [Ord α] [Std.ReflOrd α] {items : List α}
    (increasing : items.Pairwise fun left right => compare left right = .lt) : items.Nodup := by
  refine increasing.imp ?_
  rintro left right below rfl
  simp [Std.ReflCmp.compare_self] at below

/-- Two strictly increasing lists with the same members are equal. -/
theorem increasing_ext {α : Type u} [Ord α] [Std.TransOrd α] [Std.LawfulEqOrd α]
    {left right : List α}
    (leftIncreasing : left.Pairwise fun a b => compare a b = .lt)
    (rightIncreasing : right.Pairwise fun a b => compare a b = .lt)
    (same : ∀ item, item ∈ left ↔ item ∈ right) : left = right := by
  have irreflexive (item : α) (below : compare item item = .lt) : False := by
    simp [Std.ReflCmp.compare_self] at below
  induction left generalizing right with
  | nil =>
    cases right with
    | nil => rfl
    | cons head rest => exact absurd ((same head).mpr List.mem_cons_self) List.not_mem_nil
  | cons leftHead leftRest inductionHypothesis =>
    cases right with
    | nil => exact absurd ((same leftHead).mp List.mem_cons_self) List.not_mem_nil
    | cons rightHead rightRest =>
      obtain ⟨leftFirst, leftRestIncreasing⟩ := List.pairwise_cons.mp leftIncreasing
      obtain ⟨rightFirst, rightRestIncreasing⟩ := List.pairwise_cons.mp rightIncreasing
      -- each head is in the other list; if neither led it, each would be below the other
      have heads : leftHead = rightHead := by
        rcases List.mem_cons.mp ((same leftHead).mp List.mem_cons_self) with equal | inRight
        · exact equal
        · rcases List.mem_cons.mp ((same rightHead).mpr List.mem_cons_self) with equal | inLeft
          · exact equal.symm
          · exact (irreflexive leftHead
              (Std.TransCmp.lt_trans (leftFirst rightHead inLeft)
                (rightFirst leftHead inRight))).elim
      subst heads
      refine congrArg (leftHead :: ·)
        (inductionHypothesis leftRestIncreasing rightRestIncreasing ?_)
      intro item
      constructor
      · intro inLeft
        rcases List.mem_cons.mp ((same item).mp (List.mem_cons_of_mem _ inLeft)) with rfl | inRight
        · exact (irreflexive _ (leftFirst _ inLeft)).elim
        · exact inRight
      · intro inRight
        rcases List.mem_cons.mp ((same item).mpr (List.mem_cons_of_mem _ inRight)) with rfl | inLeft
        · exact (irreflexive _ (rightFirst _ inRight)).elim
        · exact inLeft

/-- The members determine the set. -/
theorem SortedSet.ext {α : Type u} [Ord α] [Std.TransOrd α] [Std.LawfulEqOrd α]
    {left right : SortedSet α} (same : ∀ item, item ∈ left ↔ item ∈ right) : left = right := by
  have lists : left.toList = right.toList := increasing_ext left.increasing right.increasing same
  cases left
  cases right
  cases lists
  rfl

end Conformance
