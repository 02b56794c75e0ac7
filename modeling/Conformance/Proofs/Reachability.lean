import Conformance.Graph.Closure
import Mathlib.Logic.Relation

/-!
# Reachability in the graph of types

The edges of a graph are relations on names: a declared type extends or implements a
capability, and it inherits from a superclass. What a type satisfies is said by paths
along these edges, without any walk and without a bound; paths may run through cycles.

The walks that compute closures and lineages agree with the paths. Both are followed
with the same invariant: an edge out of what was met leads to what was met or to what
is still pending, so a path can leave the met names only through a pending one.

Main statement: `mem_closure_iff` says that the closure of a type holds exactly the
capabilities that the type satisfies. For a class above which nothing is declared these
are what it implements (`closure_of_lone`).
-/

namespace Conformance

namespace Graph

open Relation (ReflTransGen TransGen)

/-- The upper name is among the interfaces that the declaration of the lower one lists. -/
def Extends (graph : Graph) (lower upper : Name) : Prop :=
  ∃ decl, graph.get? lower = some decl ∧ upper ∈ decl.interfaces

/-- The upper name is the superclass in the declaration of the lower one. -/
def Inherits (graph : Graph) (lower upper : Name) : Prop :=
  ∃ decl, graph.get? lower = some decl ∧ decl.superclass = some upper

/-- A capability satisfies itself and all that it extends, directly or not. A class satisfies what
it or a class above it implements, with all that those capabilities extend. -/
inductive Satisfies (graph : Graph) (name capability : Name) : Prop where
  | ofCapability (decl : TypeDecl) (declared : graph.get? name = some decl)
      (kind : decl.isCapability = true) (path : ReflTransGen graph.Extends name capability)
  | ofClass (decl : TypeDecl) (declared : graph.get? name = some decl)
      (kind : decl.isCapability = false) (ancestor : Name)
      (above : ReflTransGen graph.Inherits name ancestor)
      (path : TransGen graph.Extends ancestor capability)

/-- A path that starts among the met names stays there or passes a name on the frontier, provided
that every edge out of the met names leads to the met names or to the frontier. -/
theorem stays_or_leaves_through_frontier {α : Type} {edge : α → α → Prop} (met frontier : α → Prop)
    (settled : ∀ lower, met lower → ∀ upper, edge lower upper → met upper ∨ frontier upper)
    (start finish : α) (inside : met start) (path : ReflTransGen edge start finish) :
    met finish ∨ ∃ root, frontier root ∧ ReflTransGen edge root finish := by
  induction path with
  | refl => exact .inl inside
  | tail _ last inductionHypothesis =>
    rcases inductionHypothesis with metSoFar | ⟨root, onFrontier, travelled⟩
    · rcases settled _ metSoFar _ last with metNext | reached
      · exact .inl metNext
      · exact .inr ⟨_, reached, ReflTransGen.refl⟩
    · exact .inr ⟨root, onFrontier, travelled.tail last⟩

/-- Every interface edge out of a met name leads to a met or to a pending name. This is what the
walk along interface edges preserves. -/
def Settled (graph : Graph) (met : NameSet) (pending : List Name) : Prop :=
  ∀ lower ∈ met, ∀ upper, graph.Extends lower upper → upper ∈ met ∨ upper ∈ pending

/-- Met names may leave the pending ones. -/
theorem Settled.narrow {graph : Graph} {met : NameSet} {pending kept : List Name}
    (settled : graph.Settled met pending)
    (enough : ∀ name ∈ pending, name ∈ met ∨ name ∈ kept) : graph.Settled met kept := by
  intro lower member upper edge
  rcases settled lower member upper edge with known | listed
  · exact .inl known
  · exact enough upper listed

/-- Met names may leave the pending ones without loss: what they lead to is met or behind a name
that stays. -/
theorem led_to_by_kept (graph : Graph) (met : NameSet) (pending kept : List Name)
    (capability : Name) (settled : graph.Settled met kept)
    (fewer : ∀ name ∈ kept, name ∈ pending)
    (enough : ∀ name ∈ pending, name ∈ met ∨ name ∈ kept) :
    (capability ∈ met ∨ ∃ root ∈ kept, ReflTransGen graph.Extends root capability) ↔
      capability ∈ met ∨ ∃ root ∈ pending, ReflTransGen graph.Extends root capability := by
  constructor
  · rintro (known | ⟨root, listed, path⟩)
    · exact .inl known
    · exact .inr ⟨root, fewer root listed, path⟩
  · rintro (known | ⟨root, listed, path⟩)
    · exact .inl known
    · rcases enough root listed with rootKnown | stays
      · exact stays_or_leaves_through_frontier (· ∈ met) (· ∈ kept) settled
          root capability rootKnown path
      · exact .inr ⟨root, stays, path⟩

/-- The first pending name may be left out once it is met. -/
theorem met_or_later {met : NameSet} {name : Name} {pending : List Name} (known : name ∈ met) :
    ∀ other ∈ name :: pending, other ∈ met ∨ other ∈ pending := by
  intro other listed
  rcases List.mem_cons.mp listed with rfl | later
  · exact .inl known
  · exact .inr later

/-- Meeting a pending name keeps the invariant if all its interfaces become pending. -/
theorem Settled.meet {graph : Graph} {met : NameSet} {name : Name} {pending interfaces : List Name}
    (settled : graph.Settled met (name :: pending))
    (complete : ∀ upper, graph.Extends name upper → upper ∈ interfaces) :
    graph.Settled (met.insert name) (pending ++ interfaces) := by
  intro lower member upper edge
  rw [SortedSet.mem_insert] at member ⊢
  rcases member with rfl | older
  · exact .inr (List.mem_append_right _ (complete upper edge))
  · rcases settled lower older upper edge with known | listed
    · exact .inl (.inr known)
    · rcases List.mem_cons.mp listed with rfl | later
      · exact .inl (.inl rfl)
      · exact .inr (List.mem_append_left _ later)

/-- What a name leads to is the name itself and what its interfaces lead to, so a met name can
stand for its interfaces among the pending ones. -/
theorem led_to_by_meeting (graph : Graph) (met : NameSet) (name : Name)
    (pending interfaces : List Name) (capability : Name)
    (exact : ∀ upper, graph.Extends name upper ↔ upper ∈ interfaces) :
    (capability ∈ met.insert name ∨
        ∃ root ∈ pending ++ interfaces, ReflTransGen graph.Extends root capability) ↔
      capability ∈ met ∨ ∃ root ∈ name :: pending, ReflTransGen graph.Extends root capability := by
  rw [SortedSet.mem_insert]
  constructor
  · rintro ((rfl | known) | ⟨root, listed, path⟩)
    · exact .inr ⟨capability, List.mem_cons_self, ReflTransGen.refl⟩
    · exact .inl known
    · rcases List.mem_append.mp listed with later | interface
      · exact .inr ⟨root, List.mem_cons_of_mem _ later, path⟩
      · exact .inr ⟨name, List.mem_cons_self, path.head ((exact root).mpr interface)⟩
  · rintro (known | ⟨root, listed, path⟩)
    · exact .inl (.inr known)
    · rcases List.mem_cons.mp listed with rfl | later
      · rcases path.cases_head with rfl | ⟨middle, edge, rest⟩
        · exact .inl (.inl rfl)
        · exact .inr ⟨middle, List.mem_append_right _ ((exact middle).mp edge), rest⟩
      · exact .inr ⟨root, List.mem_append_left _ later, path⟩

/-- A declared type extends the interfaces of its declaration. -/
theorem extends_iff_of_declared (graph : Graph) (name upper : Name) (decl : TypeDecl)
    (declared : graph.get? name = some decl) :
    graph.Extends name upper ↔ upper ∈ decl.interfaces := by
  simp [Extends, declared]

/-- An undeclared type extends nothing. -/
theorem extends_iff_of_undeclared (graph : Graph) (name upper : Name)
    (undeclared : graph.get? name = none) :
    graph.Extends name upper ↔ upper ∈ ([] : List Name) := by
  simp [Extends, undeclared]

/-- The walk along interface edges meets what was met before and all that the pending names lead
to, whatever cycles there are.

The induction is on the walk itself. A name met before is dropped, since what it leads to is met
or behind another pending name. A name met for the first time hands over to its interfaces; an
undeclared one has none. -/
theorem mem_reach_iff (graph : Graph) (met : NameSet) (pending : List Name) (capability : Name)
    (settled : graph.Settled met pending) :
    capability ∈ graph.reach met pending ↔
      capability ∈ met ∨ ∃ root ∈ pending, ReflTransGen graph.Extends root capability := by
  fun_induction graph.reach met pending with
  | case1 met => simp
  | case2 met name pending known inductionHypothesis =>
    have remaining : graph.Settled met pending := settled.narrow (met_or_later known)
    rw [inductionHypothesis remaining]
    exact graph.led_to_by_kept met (name :: pending) pending capability remaining
      (fun _ later => List.mem_cons_of_mem _ later) (met_or_later known)
  | case3 met name pending fresh undeclared inductionHypothesis =>
    have exact (upper : Name) := graph.extends_iff_of_undeclared name upper undeclared
    have advanced := settled.meet fun upper edge => (exact upper).mp edge
    have handedOver := graph.led_to_by_meeting met name pending [] capability exact
    rw [List.append_nil] at advanced handedOver
    rw [inductionHypothesis advanced, handedOver]
  | case4 met name pending fresh decl declared inductionHypothesis =>
    have exact (upper : Name) := graph.extends_iff_of_declared name upper decl declared
    rw [inductionHypothesis (settled.meet fun upper edge => (exact upper).mp edge)]
    exact graph.led_to_by_meeting met name pending decl.interfaces capability exact

/-- Only declarations of superclasses stand in a lineage. -/
theorem ancestor_of_mem_lineage (graph : Graph) (passed : NameSet) (name : Name) (decl : TypeDecl)
    (member : decl ∈ graph.lineage passed name) :
    ∃ ancestor, ReflTransGen graph.Inherits name ancestor ∧ graph.get? ancestor = some decl := by
  fun_induction graph.lineage passed name with
  | case1 => simp at member
  | case2 => simp at member
  | case3 passed name fresh first declared inductionHypothesis =>
    rcases List.mem_cons.mp member with rfl | higher
    · exact ⟨name, ReflTransGen.refl, declared⟩
    · cases edge : first.superclass with
      | none => simp [edge] at higher
      | some superclass =>
        rw [edge] at higher
        obtain ⟨ancestor, path, found⟩ := inductionHypothesis superclass higher
        exact ⟨ancestor, path.head ⟨first, declared, edge⟩, found⟩

/-- Every declared superclass stands in the lineage or was passed before. The superclass of a class
that was passed must have been passed too, or be the one where the walk stands. So the walk may
stop at a passed class: nothing above it is new. -/
theorem mem_lineage_of_ancestor (graph : Graph) (passed : NameSet) (name ancestor : Name)
    (decl : TypeDecl)
    (settled : ∀ lower ∈ passed, ∀ upper, graph.Inherits lower upper →
      upper ∈ passed ∨ upper = name)
    (above : ReflTransGen graph.Inherits name ancestor)
    (declared : graph.get? ancestor = some decl) :
    decl ∈ graph.lineage passed name ∨ ancestor ∈ passed := by
  -- what is passed is closed upwards, but for the class that comes next
  fun_induction graph.lineage passed name with
  | case1 passed name known =>
    rcases stays_or_leaves_through_frontier (· ∈ passed) (fun _ => False)
      (fun lower member upper edge => .inl ((settled lower member upper edge).elim id
        fun same => same ▸ known)) name ancestor known above with inside | ⟨_, impossible, _⟩
    · exact .inr inside
    · exact impossible.elim
  | case2 passed name fresh undeclared =>
    rcases above.cases_head with rfl | ⟨middle, ⟨found, foundDeclared, _⟩, _⟩
    · simp [undeclared] at declared
    · simp [undeclared] at foundDeclared
  | case3 passed name fresh first firstDeclared inductionHypothesis =>
    rcases above.cases_head with rfl | ⟨superclass, ⟨found, foundDeclared, edge⟩, higher⟩
    · obtain rfl : first = decl := Option.some.inj (firstDeclared.symm.trans declared)
      exact .inl List.mem_cons_self
    · obtain rfl : first = found := Option.some.inj (firstDeclared.symm.trans foundDeclared)
      have advanced : ∀ lower ∈ passed.insert name, ∀ upper, graph.Inherits lower upper →
          upper ∈ passed.insert name ∨ upper = superclass := by
        intro lower member upper step
        rw [SortedSet.mem_insert] at member ⊢
        rcases member with rfl | older
        · obtain ⟨other, otherDeclared, otherEdge⟩ := step
          obtain rfl : first = other := Option.some.inj (firstDeclared.symm.trans otherDeclared)
          exact .inr (Option.some.inj (otherEdge.symm.trans edge))
        · rcases settled lower older upper step with inside | same
          · exact .inl (.inr inside)
          · exact .inl (.inl same)
      rw [edge]
      rcases inductionHypothesis superclass advanced higher with listed | inside
      · exact .inl (List.mem_cons_of_mem _ listed)
      · rcases (SortedSet.mem_insert passed name ancestor).mp inside with rfl | older
        · obtain rfl : first = decl := Option.some.inj (firstDeclared.symm.trans declared)
          exact .inl List.mem_cons_self
        · exact .inr older

/-- The lineage of a class holds the declarations of the class and of all classes above it. -/
theorem mem_lineage_iff (graph : Graph) (name : Name) (decl : TypeDecl) :
    decl ∈ graph.lineage ∅ name ↔
      ∃ ancestor, ReflTransGen graph.Inherits name ancestor ∧ graph.get? ancestor = some decl := by
  constructor
  · exact graph.ancestor_of_mem_lineage ∅ name decl
  · rintro ⟨ancestor, above, declared⟩
    rcases graph.mem_lineage_of_ancestor ∅ name ancestor decl
      (fun lower member => absurd member (SortedSet.not_mem_empty lower)) above declared
      with listed | impossible
    · exact listed
    · exact absurd impossible (SortedSet.not_mem_empty ancestor)

/-- What a capability satisfies is what it leads to. -/
theorem satisfies_iff_of_capability (graph : Graph) (name capability : Name) (decl : TypeDecl)
    (declared : graph.get? name = some decl) (kind : decl.isCapability = true) :
    graph.Satisfies name capability ↔ ReflTransGen graph.Extends name capability := by
  constructor
  · rintro (⟨_, _, _, path⟩ | ⟨other, otherDeclared, otherKind, _, _, _⟩)
    · exact path
    · obtain rfl : decl = other := Option.some.inj (declared.symm.trans otherDeclared)
      simp [kind] at otherKind
  · exact .ofCapability decl declared kind

/-- What a class satisfies is what the interfaces of the classes from it upwards lead to. -/
theorem satisfies_iff_of_class (graph : Graph) (name capability : Name) (decl : TypeDecl)
    (declared : graph.get? name = some decl) (kind : decl.isCapability = false) :
    graph.Satisfies name capability ↔ ∃ ancestor,
      ReflTransGen graph.Inherits name ancestor ∧ TransGen graph.Extends ancestor capability := by
  constructor
  · rintro (⟨other, otherDeclared, otherKind, _⟩ | ⟨_, _, _, ancestor, above, path⟩)
    · obtain rfl : decl = other := Option.some.inj (declared.symm.trans otherDeclared)
      simp [kind] at otherKind
    · exact ⟨ancestor, above, path⟩
  · rintro ⟨ancestor, above, path⟩
    exact .ofClass decl declared kind ancestor above path

/-- What the roots of a declared type lead to is what the type satisfies. -/
theorem led_to_by_roots_iff (graph : Graph) (name capability : Name) (decl : TypeDecl)
    (declared : graph.get? name = some decl) :
    (∃ root ∈ graph.roots decl, ReflTransGen graph.Extends root capability) ↔
      graph.Satisfies name capability := by
  have named : decl.name = name := graph.name_of_get? name decl declared
  cases kind : decl.isCapability with
  | true =>
    rw [graph.satisfies_iff_of_capability name capability decl declared kind]
    simp only [roots, kind, if_true, named, List.mem_singleton, exists_eq_left]
  | false =>
    rw [graph.satisfies_iff_of_class name capability decl declared kind]
    simp only [roots, kind, Bool.false_eq_true, if_false, named, List.mem_flatMap, mem_lineage_iff]
    constructor
    · rintro ⟨root, ⟨upper, ⟨ancestor, above, upperDeclared⟩, interface⟩, path⟩
      exact ⟨ancestor, above, TransGen.head' ⟨upper, upperDeclared, interface⟩ path⟩
    · rintro ⟨ancestor, above, path⟩
      obtain ⟨root, ⟨upper, upperDeclared, interface⟩, rest⟩ := TransGen.head'_iff.mp path
      exact ⟨root, ⟨upper, ⟨ancestor, above, upperDeclared⟩, interface⟩, rest⟩

/-- A type has no closure exactly if it is not declared, and the refusal names it. -/
theorem closure_eq_error_iff (graph : Graph) (name : Name) (unknown : UnknownType) :
    graph.closure name = .error unknown ↔ graph.get? name = none ∧ unknown = ⟨name⟩ := by
  unfold closure
  cases graph.get? name <;> simp [eq_comm]

/-- The closure of a type holds exactly the capabilities that the type satisfies. -/
theorem mem_closure_iff (graph : Graph) (name capability : Name) (closure : NameSet)
    (computed : graph.closure name = .ok closure) :
    capability ∈ closure ↔ graph.Satisfies name capability := by
  unfold Graph.closure at computed
  cases declared : graph.get? name with
  | none => simp [declared] at computed
  | some decl =>
    obtain rfl : graph.reach ∅ (graph.roots decl) = closure := by simpa [declared] using computed
    have settled : graph.Settled ∅ (graph.roots decl) :=
      fun lower member => absurd member (SortedSet.not_mem_empty lower)
    rw [mem_reach_iff graph ∅ _ capability settled,
      ← graph.led_to_by_roots_iff name _ decl declared]
    simp [SortedSet.not_mem_empty]

/-- Every declared type has a closure. -/
theorem closure_of_declared (graph : Graph) (name : Name) (declared : graph.get? name ≠ none) :
    ∃ closure, graph.closure name = .ok closure := by
  cases computed : graph.closure name with
  | error unknown =>
    exact absurd ((graph.closure_eq_error_iff name unknown).mp computed).1 declared
  | ok closure => exact ⟨closure, rfl⟩

/-- Only a declared type has a closure. -/
theorem declared_of_closure (graph : Graph) (name : Name) (closure : NameSet)
    (computed : graph.closure name = .ok closure) : graph.get? name ≠ none := by
  intro undeclared
  have refused := (graph.closure_eq_error_iff name ⟨name⟩).mpr ⟨undeclared, rfl⟩
  rw [computed] at refused
  cases refused

/-- Only declared types satisfy anything. -/
theorem Satisfies.declared {graph : Graph} {name capability : Name}
    (satisfied : graph.Satisfies name capability) : graph.get? name ≠ none := by
  rcases satisfied with ⟨decl, declared, _, _⟩ | ⟨decl, declared, _, _, _, _⟩ <;> simp [declared]

/-- A class satisfies what it implements itself. -/
theorem Satisfies.ofInterface {graph : Graph} {name capability : Name} {decl : TypeDecl}
    (declared : graph.get? name = some decl) (kind : decl.isCapability = false)
    (implemented : capability ∈ decl.interfaces) : graph.Satisfies name capability :=
  .ofClass decl declared kind name .refl (.single ⟨decl, declared, implemented⟩)

/-- From a name that is not declared no path of interfaces leads away. -/
theorem eq_of_path_of_undeclared (graph : Graph) (name upper : Name)
    (undeclared : graph.get? name = none) (path : ReflTransGen graph.Extends name upper) :
    upper = name := by
  rcases path.cases_head with same | ⟨_, ⟨decl, declared, _⟩, _⟩
  · exact same.symm
  · simp [undeclared] at declared

/-- A class satisfies just what it implements, if neither that nor its superclass is declared. -/
theorem satisfies_iff_of_lone (graph : Graph) (name capability : Name) (decl : TypeDecl)
    (declared : graph.get? name = some decl) (kind : decl.isCapability = false)
    (top : ∀ upper, decl.superclass = some upper → graph.get? upper = none)
    (leaves : ∀ upper ∈ decl.interfaces, graph.get? upper = none) :
    graph.Satisfies name capability ↔ capability ∈ decl.interfaces := by
  rw [graph.satisfies_iff_of_class name capability decl declared kind]
  constructor
  · rintro ⟨ancestor, above, path⟩
    obtain ⟨root, ⟨implementor, implementorDeclared, implemented⟩, rest⟩ :=
      TransGen.head'_iff.mp path
    rcases above.cases_head with rfl | ⟨superclass, ⟨found, foundDeclared, edge⟩, higher⟩
    · obtain rfl : decl = implementor := Option.some.inj (declared.symm.trans implementorDeclared)
      rwa [graph.eq_of_path_of_undeclared root capability (leaves root implemented) rest]
    · obtain rfl : decl = found := Option.some.inj (declared.symm.trans foundDeclared)
      have undeclared := top superclass edge
      rcases higher.cases_head with rfl | ⟨_, ⟨other, otherDeclared, _⟩, _⟩
      · simp [undeclared] at implementorDeclared
      · simp [undeclared] at otherDeclared
  · intro implemented
    exact ⟨name, .refl, .single ⟨decl, declared, implemented⟩⟩

/-- The closure of such a class is what it implements. -/
theorem closure_of_lone (graph : Graph) (name : Name) (decl : TypeDecl)
    (declared : graph.get? name = some decl) (kind : decl.isCapability = false)
    (top : ∀ upper, decl.superclass = some upper → graph.get? upper = none)
    (leaves : ∀ upper ∈ decl.interfaces, graph.get? upper = none) :
    graph.closure name = .ok (SortedSet.ofList decl.interfaces) := by
  obtain ⟨closure, computed⟩ := graph.closure_of_declared name (by simp [declared])
  rw [computed]
  refine congrArg Except.ok (SortedSet.ext fun capability => ?_)
  rw [graph.mem_closure_iff name capability closure computed,
    graph.satisfies_iff_of_lone name capability decl declared kind top leaves,
    SortedSet.mem_ofList]

/-- Whoever satisfies a capability satisfies all that the capability leads to. -/
theorem Satisfies.trans {graph : Graph} {name capability further : Name}
    (satisfied : graph.Satisfies name capability)
    (path : ReflTransGen graph.Extends capability further) : graph.Satisfies name further := by
  rcases satisfied with
    ⟨decl, declared, kind, first⟩ | ⟨decl, declared, kind, ancestor, above, first⟩
  · exact .ofCapability decl declared kind (first.trans path)
  · exact .ofClass decl declared kind ancestor above (first.trans_left path)

/-- The computed answer agrees with the paths. -/
theorem satisfies_eq_true_iff (graph : Graph) (name capability : Name) :
    graph.satisfies name capability = true ↔ graph.Satisfies name capability := by
  unfold satisfies
  cases computed : graph.closure name with
  | ok closure => rw [← graph.mem_closure_iff name capability closure computed, decide_eq_true_eq]
  | error unknown =>
    obtain ⟨undeclared, _⟩ := (graph.closure_eq_error_iff name unknown).mp computed
    constructor
    · intro impossible
      cases impossible
    · intro satisfied
      exact absurd undeclared satisfied.declared

/-- The names of the declarations that pass a test. -/
theorem mem_names_filter_iff (graph : Graph) (test : TypeDecl → Bool) (name : Name) :
    name ∈ (graph.declared.filter test).map TypeDecl.name ↔
      ∃ decl, graph.get? name = some decl ∧ test decl = true := by
  rw [List.mem_map]
  constructor
  · rintro ⟨decl, listed, rfl⟩
    obtain ⟨member, passed⟩ := List.mem_filter.mp listed
    obtain ⟨binding, bound, rfl⟩ := List.mem_map.mp member
    refine ⟨binding.2, ?_, passed⟩
    rw [graph.named binding bound]
    exact (SortedMap.get?_eq_some_iff graph.types binding.1 binding.2).mpr bound
  · rintro ⟨decl, found, passed⟩
    have bound := (SortedMap.get?_eq_some_iff graph.types name decl).mp found
    have member : decl ∈ graph.declared := List.mem_map_of_mem bound
    exact ⟨decl, List.mem_filter.mpr ⟨member, passed⟩, graph.name_of_get? name decl found⟩

/-- The implementors of a capability are the declared concrete classes that satisfy it. -/
theorem mem_implementors_iff (graph : Graph) (capability name : Name) :
    name ∈ graph.implementors capability ↔
      (∃ decl, graph.get? name = some decl ∧ decl.isConcrete = true) ∧
        graph.Satisfies name capability := by
  rw [implementors, SortedSet.mem_ofList, List.mem_filter, concreteClasses,
    graph.mem_names_filter_iff, satisfies_eq_true_iff]

end Graph

end Conformance
