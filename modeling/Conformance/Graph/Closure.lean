import Conformance.Graph.Basic

/-!
# What a type satisfies

The closure of a capability is the capability with all that it extends, directly or
not. The closure of a class is what the class and its superclasses implement, with
all that those capabilities extend. Undeclared names occur in closures as leaves.

Edges may form cycles. The walks end all the same: each step either drops a pending
name or meets a declared name for the first time.
-/

namespace Conformance

namespace Graph

/-- The declared names that are not in a set. -/
def unmet (graph : Graph) (met : NameSet) : List Name :=
  graph.types.keys.filter fun name => !decide (name ∈ met)

/-- Meeting a declared name for the first time leaves fewer of them unmet. -/
theorem unmet_insert_lt (graph : Graph) (met : NameSet) (name : Name)
    (declared : name ∈ graph.types.keys) (fresh : ¬ name ∈ met) :
    (graph.unmet (met.insert name)).length < (graph.unmet met).length := by
  have keep (other : Name) : (!decide (other ∈ met.insert name)) =
      (!decide (other = name) && !decide (other ∈ met)) := by
    simp [SortedSet.mem_insert]
  unfold unmet
  simp only [keep]
  rw [← List.filter_filter]
  have inside : name ∈ graph.types.keys.filter fun other => !decide (other ∈ met) :=
    List.mem_filter.mpr ⟨declared, by simp [fresh]⟩
  exact List.length_filter_lt_length_iff_exists.mpr ⟨name, inside, by simp⟩

/-- Meeting a name never leaves more names unmet. -/
theorem unmet_insert_le (graph : Graph) (met : NameSet) (name : Name) :
    (graph.unmet (met.insert name)).length ≤ (graph.unmet met).length := by
  have keep (other : Name) : (!decide (other ∈ met.insert name)) =
      (!decide (other = name) && !decide (other ∈ met)) := by
    simp [SortedSet.mem_insert]
  unfold unmet
  simp only [keep]
  rw [← List.filter_filter]
  exact List.length_filter_le _ _

/-- A name that is found is among the keys. -/
theorem mem_keys_of_get? (graph : Graph) (name : Name) (decl : TypeDecl)
    (found : graph.get? name = some decl) : name ∈ graph.types.keys :=
  (SortedMap.mem_keys_iff graph.types name).mpr (by
    change (graph.get? name).isSome = true
    rw [found]
    rfl)

/-- Adds to the met names all that the pending names lead to along interface edges. -/
def reach (graph : Graph) (met : NameSet) : List Name → NameSet
  | [] => met
  | name :: pending =>
    if _met : name ∈ met then graph.reach met pending
    else
      match _found : graph.get? name with
      | none => graph.reach (met.insert name) pending
      | some decl => graph.reach (met.insert name) (pending ++ decl.interfaces)
termination_by pending => ((graph.unmet met).length, pending.length)
decreasing_by
  -- a name that is dropped or declared nowhere shortens the list; a declared one was unmet before
  · exact Prod.Lex.right _ (Nat.lt_succ_self _)
  · rcases Nat.lt_or_eq_of_le (graph.unmet_insert_le met name) with fewer | same
    · exact Prod.Lex.left _ _ fewer
    · rw [same]
      exact Prod.Lex.right _ (Nat.lt_succ_self _)
  · exact Prod.Lex.left _ _
      (graph.unmet_insert_lt met name (graph.mem_keys_of_get? name decl _found) _met)

/-- The declarations of a class and of its declared superclasses, nearest first. A class already
passed ends the walk. -/
def lineage (graph : Graph) (passed : NameSet) (name : Name) : List TypeDecl :=
  if _passed : name ∈ passed then []
  else
    match _found : graph.get? name with
    | none => []
    | some decl =>
      decl :: match decl.superclass with
        | none => []
        | some superclass => graph.lineage (passed.insert name) superclass
termination_by (graph.unmet passed).length
decreasing_by
  exact graph.unmet_insert_lt passed name (graph.mem_keys_of_get? name decl _found) _passed

/-- What a declared type satisfies before what capabilities extend is added. -/
def roots (graph : Graph) (decl : TypeDecl) : List Name :=
  if decl.isCapability then [decl.name]
  else (graph.lineage ∅ decl.name).flatMap TypeDecl.interfaces

/-- A query named a type that the graph does not declare. -/
structure UnknownType where
  name : Name
deriving DecidableEq

/-- The wording of the refusal. -/
def UnknownType.message (error : UnknownType) : String := "unknown type: " ++ error.name.text

/-- All that a declared type satisfies. -/
def closure (graph : Graph) (name : Name) : Except UnknownType NameSet :=
  match graph.get? name with
  | none => .error ⟨name⟩
  | some decl => .ok (graph.reach ∅ (graph.roots decl))

/-- Whether a declared type satisfies a capability. -/
def satisfies (graph : Graph) (name capability : Name) : Bool :=
  match graph.closure name with
  | .ok closure => decide (capability ∈ closure)
  | .error _ => false

/-- The concrete classes that satisfy a capability, in name order. -/
def implementors (graph : Graph) (capability : Name) : NameSet :=
  SortedSet.ofList ((graph.concreteClasses.map TypeDecl.name).filter (graph.satisfies · capability))

end Graph

end Conformance
