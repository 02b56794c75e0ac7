import Mathlib.Data.List.Induction
import Mathlib.Data.List.Nodup

/-!
# First occurrences

Of equal items in a list `eraseDups` keeps the first one. These are the laws of that:
what comes of an item at the end, that nothing is left twice, that the order stays, and that
filters, injective functions and searches see no difference between the list and its first
occurrences. Of pairs with equal keys a lookup finds the first one.
-/

namespace Conformance

/-- Of equal items the first one stays, so an item that came before adds nothing at the end. -/
theorem eraseDups_append_singleton {α : Type} [DecidableEq α] (items : List α) (item : α) :
    (items ++ [item]).eraseDups =
      if item ∈ items then items.eraseDups else items.eraseDups ++ [item] := by
  rw [List.eraseDups_append]
  split
  · next known => simp [List.removeAll, known]
  · next fresh => simp [List.removeAll, fresh, List.eraseDups_cons]

/-- First occurrences are all different. -/
theorem nodup_eraseDups {α : Type} [DecidableEq α] (items : List α) : items.eraseDups.Nodup := by
  induction items using List.reverseRecOn with
  | nil => exact List.nodup_nil
  | append_singleton items item inductionHypothesis =>
    rw [eraseDups_append_singleton]
    split
    · exact inductionHypothesis
    · next fresh =>
      refine List.nodup_append.mpr ⟨inductionHypothesis, List.nodup_singleton item, ?_⟩
      rintro older member _ single rfl
      rw [List.mem_singleton.mp single] at member
      exact fresh (List.mem_eraseDups.mp member)

/-- First occurrences stand in their order. -/
theorem eraseDups_inOrder {α : Type} [DecidableEq α] (items : List α) :
    items.eraseDups.Pairwise fun earlier later => items.idxOf earlier < items.idxOf later := by
  induction items using List.reverseRecOn with
  | nil => exact .nil
  | append_singleton items item inductionHypothesis =>
    have sooner {left right : α} (leftMember : left ∈ items.eraseDups)
        (rightMember : right ∈ items.eraseDups) (before : items.idxOf left < items.idxOf right) :
        (items ++ [item]).idxOf left < (items ++ [item]).idxOf right := by
      rw [List.mem_eraseDups] at leftMember rightMember
      rwa [List.idxOf_append_of_mem leftMember, List.idxOf_append_of_mem rightMember]
    have older := inductionHypothesis.imp_of_mem sooner
    rw [eraseDups_append_singleton]
    split
    · exact older
    · next fresh =>
      refine List.pairwise_append.mpr ⟨older, List.pairwise_singleton _ _, ?_⟩
      intro left leftMember right single
      obtain rfl := List.mem_singleton.mp single
      rw [List.mem_eraseDups] at leftMember
      rw [List.idxOf_append_of_mem leftMember, List.idxOf_append_of_notMem fresh]
      exact Nat.lt_of_lt_of_le (List.idxOf_lt_length_of_mem leftMember) (Nat.le_add_right _ _)

/-- The first of equal items is kept by a filter exactly if the others are. -/
theorem eraseDups_filter {α : Type} [DecidableEq α] (keep : α → Bool) (items : List α) :
    (items.filter keep).eraseDups = items.eraseDups.filter keep := by
  induction items using List.reverseRecOn with
  | nil => rfl
  | append_singleton items item inductionHypothesis =>
    rw [List.filter_append, eraseDups_append_singleton]
    cases kept : keep item with
    | true =>
      have single : [item].filter keep = [item] := by simp [kept]
      rw [single, eraseDups_append_singleton, inductionHypothesis]
      by_cases known : item ∈ items
      · have still : item ∈ items.filter keep := List.mem_filter.mpr ⟨known, kept⟩
        rw [if_pos known, if_pos still]
      · have still : item ∉ items.filter keep := fun member => known (List.mem_filter.mp member).1
        rw [if_neg known, if_neg still, List.filter_append, single]
    | false =>
      have gone : [item].filter keep = [] := by simp [kept]
      rw [gone, List.append_nil, inductionHypothesis]
      split
      · rfl
      · rw [List.filter_append, gone, List.append_nil]

/-- Equal items stay equal under a function, and different ones stay different if the function tells
them apart; so the same ones are dropped. -/
theorem map_eraseDups_of_injective_on {α β : Type} [DecidableEq α] [DecidableEq β] (f : α → β)
    (items : List α)
    (injective : ∀ left ∈ items, ∀ right ∈ items, f left = f right → left = right) :
    items.eraseDups.map f = (items.map f).eraseDups := by
  induction items using List.reverseRecOn with
  | nil => rfl
  | append_singleton items item inductionHypothesis =>
    have earlier : items.eraseDups.map f = (items.map f).eraseDups := by
      refine inductionHypothesis ?_
      intro left leftMember right rightMember
      exact injective left (List.mem_append_left _ leftMember) right
        (List.mem_append_left _ rightMember)
    have known : f item ∈ items.map f ↔ item ∈ items := by
      constructor
      · intro mapped
        obtain ⟨other, member, same⟩ := List.mem_map.mp mapped
        have equal := injective other (List.mem_append_left _ member) item
          (List.mem_append_right _ (List.mem_singleton_self item)) same
        exact equal ▸ member
      · exact List.mem_map_of_mem
    rw [List.map_append, List.map_singleton, eraseDups_append_singleton,
      eraseDups_append_singleton]
    by_cases old : item ∈ items
    · rw [if_pos old, if_pos (known.mpr old), earlier]
    · rw [if_neg old, if_neg fun mapped => old (known.mp mapped), List.map_append,
        List.map_singleton, earlier]

/-- A search answers with the first occurrence of an item, so the others are never asked. -/
theorem findSome?_eraseDups {α β : Type} [DecidableEq α] (answer? : α → Option β)
    (items : List α) : items.eraseDups.findSome? answer? = items.findSome? answer? := by
  induction items using List.reverseRecOn with
  | nil => rfl
  | append_singleton items item inductionHypothesis =>
    rw [eraseDups_append_singleton, List.findSome?_append, ← inductionHypothesis]
    split
    · next known =>
      cases found : items.eraseDups.findSome? answer? with
      | some result => rfl
      | none =>
        have silent : answer? item = none :=
          List.findSome?_eq_none_iff.mp found item (List.mem_eraseDups.mpr known)
        simp [silent]
    · rw [List.findSome?_append]

/-- What is found first is a first occurrence. -/
theorem find?_eraseDups {α : Type} [DecidableEq α] (wanted : α → Bool) (items : List α) :
    items.eraseDups.find? wanted = items.find? wanted := by
  rw [← List.findSome?_guard, findSome?_eraseDups, List.findSome?_guard]

/-- A lookup passes over what has another key. -/
theorem lookup_cons_of_ne {α β : Type} [DecidableEq α] {sought key : α} (value : β)
    (rest : List (α × β)) (different : sought ≠ key) :
    List.lookup sought ((key, value) :: rest) = List.lookup sought rest := by
  rw [List.lookup_cons, beq_false_of_ne different]

end Conformance
