import Conformance.Proofs.Plans

/-!
# Standing in for another type

A type stands in for every declared capability that it satisfies, and a class stands in
for every declared class above it. What stands in for a type satisfies all that this type
satisfies, so it meets every suite that the other one meets, in the same order.

For capabilities this is the composition of paths. For classes it is less plain: the walk
along superclasses ends at the first class it has passed already, so that in a cycle two
classes are walked from different starts. Both walks meet all classes of the cycle, since
lineages hold exactly what paths lead to.

Main statement: `Subject.keys_of_stand_in`.
-/

namespace Conformance

namespace Graph

open Relation (ReflTransGen)

/-- The lower type may be put in the place of the upper one. -/
inductive StandsInFor (graph : Graph) (lower upper : Name) : Prop where
  /-- The upper type is a declared capability in the closure of the lower one. -/
  | satisfying (closure : NameSet) (computed : graph.closure lower = .ok closure)
      (member : upper ∈ closure) (decl : TypeDecl) (declared : graph.get? upper = some decl)
      (kind : decl.isCapability = true)
  /-- Both are declared classes, and superclasses lead from the lower to the upper one. -/
  | inheriting (lowerDecl upperDecl : TypeDecl) (lowerDeclared : graph.get? lower = some lowerDecl)
      (lowerKind : lowerDecl.isCapability = false)
      (upperDeclared : graph.get? upper = some upperDecl)
      (upperKind : upperDecl.isCapability = false) (above : ReflTransGen graph.Inherits lower upper)

variable {graph : Graph} {lower upper : Name}

/-- From a declared capability only interfaces lead further. -/
theorem Satisfies.path_of_capability {capability : Name} (decl : TypeDecl)
    (declared : graph.get? upper = some decl) (kind : decl.isCapability = true)
    (satisfied : graph.Satisfies upper capability) :
    ReflTransGen graph.Extends upper capability := by
  rcases satisfied with ⟨_, _, _, path⟩ | ⟨other, otherDeclared, otherKind, _, _, _⟩
  · exact path
  · obtain rfl : decl = other := Option.some.inj (declared.symm.trans otherDeclared)
    simp [kind] at otherKind

/-- What stands in for a type satisfies all that the type satisfies. -/
theorem StandsInFor.satisfies (standsIn : graph.StandsInFor lower upper) (capability : Name)
    (satisfied : graph.Satisfies upper capability) : graph.Satisfies lower capability := by
  cases standsIn with
  | satisfying closure computed member decl declared kind =>
    have reached : graph.Satisfies lower upper :=
      (graph.mem_closure_iff lower upper closure computed).mp member
    exact reached.trans (satisfied.path_of_capability decl declared kind)
  | inheriting lowerDecl upperDecl lowerDeclared lowerKind upperDeclared upperKind above =>
    rcases satisfied with ⟨other, otherDeclared, otherKind, _⟩ | ⟨_, _, _, ancestor, higher, path⟩
    · obtain rfl : upperDecl = other := Option.some.inj (upperDeclared.symm.trans otherDeclared)
      simp [upperKind] at otherKind
    · exact .ofClass lowerDecl lowerDeclared lowerKind ancestor (above.trans higher) path

/-- Both the type that stands in and the one it stands in for are declared. -/
theorem StandsInFor.declared (standsIn : graph.StandsInFor lower upper) :
    graph.get? lower ≠ none ∧ graph.get? upper ≠ none := by
  cases standsIn with
  | satisfying closure computed member decl declared kind =>
    exact ⟨graph.declared_of_closure lower closure computed, by simp [declared]⟩
  | inheriting lowerDecl upperDecl lowerDeclared lowerKind upperDeclared upperKind above =>
    exact ⟨by simp [lowerDeclared], by simp [upperDeclared]⟩

/-- Both types have closures, and the closure of the upper one is part of the other. -/
theorem StandsInFor.closures (standsIn : graph.StandsInFor lower upper) :
    ∃ inner outer, graph.closure upper = .ok inner ∧ graph.closure lower = .ok outer ∧
      ∀ capability ∈ inner, capability ∈ outer := by
  obtain ⟨lowerDeclared, upperDeclared⟩ := standsIn.declared
  obtain ⟨inner, innerComputed⟩ := graph.closure_of_declared upper upperDeclared
  obtain ⟨outer, outerComputed⟩ := graph.closure_of_declared lower lowerDeclared
  refine ⟨inner, outer, innerComputed, outerComputed, ?_⟩
  intro capability member
  rw [graph.mem_closure_iff upper capability inner innerComputed] at member
  rw [graph.mem_closure_iff lower capability outer outerComputed]
  exact standsIn.satisfies capability member

/-- Whoever implements a declared capability implements all that the capability satisfies, declared
or not. -/
theorem implementors_of_satisfied {capability further : Name} (decl : TypeDecl)
    (declared : graph.get? capability = some decl) (kind : decl.isCapability = true)
    (satisfied : graph.Satisfies capability further) (name : Name)
    (implements : name ∈ graph.implementors capability) : name ∈ graph.implementors further := by
  rw [mem_implementors_iff] at implements ⊢
  obtain ⟨concrete, reached⟩ := implements
  exact ⟨concrete, reached.trans (satisfied.path_of_capability decl declared kind)⟩

end Graph

/-- Whatever stands in for a type has all that the type has. Its closure holds the closure of the
type, and its plan lists the keys of the plan of the type in the same order, for every registry and
whatever is left out by both. So the implementors of a capability implement all that it extends,
and a concrete class implements all that the classes above it have in their closures.

The order needs no argument of its own: both plans walk their closures in the order of the names,
so more capabilities mean more keys between the old ones. -/
theorem Subject.keys_of_stand_in (graph : Graph) (operations : List Registry.Operation) :
    (∀ lower upper, graph.StandsInFor lower upper →
      ∃ inner outer, graph.closure upper = .ok inner ∧ graph.closure lower = .ok outer ∧
        ∀ capability ∈ inner, capability ∈ outer) ∧
    (∀ lower upper : Subject, graph.StandsInFor lower.target upper.target →
      upper.skip = lower.skip →
      ∃ upperPlan lowerPlan,
        (upper.resolve graph (Registry.after operations)).value = .ok upperPlan ∧
        (lower.resolve graph (Registry.after operations)).value = .ok lowerPlan ∧
        upperPlan.keys.Sublist lowerPlan.keys) ∧
    (∀ capability decl, graph.get? capability = some decl → decl.isCapability = true →
      ∀ closure, graph.closure capability = .ok closure → ∀ further ∈ closure,
        ∀ name ∈ graph.implementors capability, name ∈ graph.implementors further) ∧
    (∀ name decl, graph.get? name = some decl → decl.isConcrete = true →
      ∀ above, graph.StandsInFor name above →
        ∀ closure, graph.closure above = .ok closure →
          ∀ capability ∈ closure, name ∈ graph.implementors capability) := by
  refine ⟨fun _ _ standsIn => standsIn.closures, ?_, ?_, ?_⟩
  · intro lower upper standsIn skip
    obtain ⟨inner, outer, innerComputed, outerComputed, within⟩ := standsIn.closures
    refine ⟨_, _, (upper.resolve_eq_ok_iff graph _ _).mpr ⟨inner, innerComputed, rfl⟩,
      (lower.resolve_eq_ok_iff graph _ _).mpr ⟨outer, outerComputed, rfl⟩, ?_⟩
    exact Plan.keys_sublist (Registry.tells_after operations) lower upper skip inner outer within
  · intro capability decl declared kind closure computed further member
    have satisfied : graph.Satisfies capability further :=
      (graph.mem_closure_iff capability further closure computed).mp member
    exact graph.implementors_of_satisfied decl declared kind satisfied
  · intro name decl declared concrete above standsIn closure computed capability member
    have satisfied : graph.Satisfies above capability :=
      (graph.mem_closure_iff above capability closure computed).mp member
    rw [Graph.mem_implementors_iff]
    exact ⟨⟨decl, declared, concrete⟩, standsIn.satisfies capability satisfied⟩

/-- Two classes that are each other's superclass have the same keys on their plans, whichever of the
two the walk begins with: each has the suites for what the other one implements. -/
theorem Subject.keys_of_stand_in_cyclic :
    let cartDecl := ((TypeDecl.ofClass ⟨"Cart"⟩).extending ⟨"Sums"⟩).inheriting ⟨"Shelf"⟩
    let shelfDecl := ((TypeDecl.ofClass ⟨"Shelf"⟩).extending ⟨"Keeps"⟩).inheriting ⟨"Cart"⟩
    let graph := Graph.ofList [cartDecl, shelfDecl]
    let operations : List Registry.Operation :=
      [.register (Suite.new ⟨"SumsTests"⟩ ⟨"Sums"⟩), .register (Suite.new ⟨"KeepsTests"⟩ ⟨"Keeps"⟩)]
    let host : Host := ⟨⟨"Tests"⟩, false, .ok fun _ => none⟩
    let cart : Subject := ⟨⟨"Tests"⟩, ⟨"Cart"⟩, ∅, host, [], none⟩
    let shelf : Subject := ⟨⟨"Tests"⟩, ⟨"Shelf"⟩, ∅, host, [], none⟩
    graph.StandsInFor cart.target shelf.target ∧ graph.StandsInFor shelf.target cart.target ∧
      ∃ cartPlan shelfPlan,
        (cart.resolve graph (Registry.after operations)).value = .ok cartPlan ∧
        (shelf.resolve graph (Registry.after operations)).value = .ok shelfPlan ∧
        ⟨⟨"KeepsTests"⟩, ⟨"Keeps"⟩⟩ ∈ shelfPlan.keys ∧ shelfPlan.keys = cartPlan.keys := by
  intro cartDecl shelfDecl graph operations host cart shelf
  have cartDeclared : graph.get? ⟨"Cart"⟩ = some cartDecl := by cbv
  have shelfDeclared : graph.get? ⟨"Shelf"⟩ = some shelfDecl := by cbv
  have cartForShelf : graph.StandsInFor cart.target shelf.target :=
    .inheriting cartDecl shelfDecl cartDeclared rfl shelfDeclared rfl
      (Relation.ReflTransGen.single ⟨cartDecl, cartDeclared, rfl⟩)
  have shelfForCart : graph.StandsInFor shelf.target cart.target :=
    .inheriting shelfDecl cartDecl shelfDeclared rfl cartDeclared rfl
      (Relation.ReflTransGen.single ⟨shelfDecl, shelfDeclared, rfl⟩)
  obtain ⟨_, plans, _, _⟩ := Subject.keys_of_stand_in graph operations
  obtain ⟨shelfPlan, cartPlan, shelfResolved, cartResolved, upward⟩ :=
    plans cart shelf cartForShelf rfl
  obtain ⟨_, _, cartAgain, shelfAgain, downward⟩ := plans shelf cart shelfForCart rfl
  obtain rfl := Except.ok.inj (cartResolved.symm.trans cartAgain)
  obtain rfl := Except.ok.inj (shelfResolved.symm.trans shelfAgain)
  have kept : ⟨⟨"KeepsTests"⟩, ⟨"Keeps"⟩⟩ ∈ shelfPlan.keys := by
    obtain ⟨closure, computed, rfl⟩ := (shelf.resolve_eq_ok_iff graph _ _).mp shelfResolved
    have satisfied : graph.Satisfies ⟨"Shelf"⟩ ⟨"Keeps"⟩ :=
      .ofClass shelfDecl shelfDeclared rfl ⟨"Shelf"⟩ Relation.ReflTransGen.refl
        (Relation.TransGen.single ⟨shelfDecl, shelfDeclared, List.mem_singleton_self _⟩)
    have inside := (graph.mem_closure_iff ⟨"Shelf"⟩ ⟨"Keeps"⟩ closure computed).mpr satisfied
    refine (Plan.mem_keys_ofClosure_iff (Registry.tells_after operations) shelf closure _).mpr
      ⟨inside, SortedSet.not_mem_empty _, Suite.new ⟨"KeepsTests"⟩ ⟨"Keeps"⟩, ?_, rfl⟩
    exact List.mem_cons_of_mem _ (List.mem_singleton_self _)
  exact ⟨cartForShelf, shelfForCart, cartPlan, shelfPlan, cartResolved, shelfResolved, kept,
    upward.antisymm downward⟩

end Conformance
