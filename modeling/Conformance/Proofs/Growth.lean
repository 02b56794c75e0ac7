import Conformance.Proofs.Alike
import Conformance.Proofs.Plans

/-!
# Growth

What is discovered later adds to what was known and takes nothing away. A declaration
under a new name leaves all others as they are, so every path in the graph stays a path,
although it may now lead on where it used to end: at a superclass or a capability that
nobody had declared. Closures and implementors grow, and plans keep their keys in order.

A suite with a new key puts this key into the plans that want its capability, behind the
keys which the capability had before, and into no other plan. A suite with a known key
changes no keys at all.

Main statement: `Subject.keys_grow`.
-/

namespace Conformance

/-- A declaration under a new name leaves all others as they are. -/
theorem Graph.within_insert (graph : Graph) (decl : TypeDecl)
    (fresh : graph.get? decl.name = none) : graph.Within (graph.insert decl) := by
  intro name older declared
  have elsewhere : name ≠ decl.name := by
    rintro rfl
    simp [fresh] at declared
  refine ⟨older, ?_, TypeDecl.Alike.refl older⟩
  rw [get?_insert, if_neg elsewhere]
  exact declared

namespace Plan

variable {registry : Registry} {history : List Suite}

/-- A suite with a known key takes the place of another one, and all keys stay as they are. -/
theorem keys_register_known (tells : registry.Tells history) (suite : Suite)
    (known : suite.key ∈ (registry.suitesFor suite.target).map Suite.key)
    (subject : Subject) (closure : NameSet) :
    (ofClosure (registry.register suite) subject closure).keys =
      (ofClosure registry subject closure).keys := by
  have same (capability : Name) :
      Registry.keysFor (history ++ [suite]) capability = Registry.keysFor history capability := by
    rw [Registry.keysFor_append_singleton]
    by_cases target : suite.target = capability
    · subst target
      rw [tells.keys] at known
      rw [if_pos rfl, if_pos known]
    · rw [if_neg target]
  rw [keys_ofClosure (tells.register suite), keys_ofClosure tells, funext same]

/-- A suite for a capability that is not wanted changes no keys. -/
theorem keys_register_unwanted (tells : registry.Tells history) (suite : Suite)
    (subject : Subject) (closure : NameSet) (unwanted : suite.target ∉ wanted subject closure) :
    (ofClosure (registry.register suite) subject closure).keys =
      (ofClosure registry subject closure).keys := by
  rw [keys_ofClosure (tells.register suite), keys_ofClosure tells]
  apply List.flatMap_congr
  intro capability listed
  have elsewhere : suite.target ≠ capability := by
    rintro rfl
    exact unwanted listed
  rw [Registry.keysFor_append_singleton, if_neg elsewhere]

/-- A suite with a new key for a wanted capability puts its key at one place among the others.

The capability is walked once, so the wanted ones divide into those before and those after it. Both
keep their keys, and its own keys get the new one at their end. -/
theorem keys_register_fresh (tells : registry.Tells history) (suite : Suite)
    (fresh : suite.key ∉ (registry.suitesFor suite.target).map Suite.key)
    (subject : Subject) (closure : NameSet) (listed : suite.target ∈ wanted subject closure) :
    ∃ front back, (ofClosure registry subject closure).keys = front ++ back ∧
      (ofClosure (registry.register suite) subject closure).keys = front ++ suite.key :: back := by
  obtain ⟨before, after, place⟩ := List.append_of_mem listed
  -- the closure lists no capability twice, so the keys change at one place only
  have once : suite.target ∉ before ++ after := by
    have unique : (wanted subject closure).Nodup :=
      (nodup_of_increasing closure.increasing).filter _
    rw [place, List.perm_middle.nodup_iff, List.nodup_cons] at unique
    exact unique.1
  have unchanged (capability : Name) (elsewhere : capability ∈ before ++ after) :
      Registry.keysFor (history ++ [suite]) capability = Registry.keysFor history capability := by
    have different : suite.target ≠ capability := by
      rintro rfl
      exact once elsewhere
    rw [Registry.keysFor_append_singleton, if_neg different]
  have front : before.flatMap (Registry.keysFor (history ++ [suite])) =
      before.flatMap (Registry.keysFor history) :=
    List.flatMap_congr fun capability member => unchanged capability (List.mem_append_left _ member)
  have back : after.flatMap (Registry.keysFor (history ++ [suite])) =
      after.flatMap (Registry.keysFor history) :=
    List.flatMap_congr fun capability member =>
      unchanged capability (List.mem_append_right _ member)
  have own : Registry.keysFor (history ++ [suite]) suite.target =
      Registry.keysFor history suite.target ++ [suite.key] := by
    rw [tells.keys] at fresh
    rw [Registry.keysFor_append_singleton, if_pos rfl, if_neg fresh]
  refine ⟨before.flatMap (Registry.keysFor history) ++ Registry.keysFor history suite.target,
    after.flatMap (Registry.keysFor history), ?_, ?_⟩
  · rw [keys_ofClosure tells, place, List.flatMap_append, List.flatMap_cons, List.append_assoc]
  · rw [keys_ofClosure (tells.register suite), place, List.flatMap_append, List.flatMap_cons, front,
      back, own]
    simp only [List.append_assoc, List.singleton_append]

/-- A plan for a wider closure has more of everything, in the old order. -/
theorem widened (tells : registry.Tells history) (subject : Subject) (inner outer : NameSet)
    (within : ∀ capability ∈ inner, capability ∈ outer) :
    let plan := ofClosure registry subject inner
    let wider := ofClosure registry subject outer
    plan.keys.Sublist wider.keys ∧ (∀ capability ∈ plan.skipped, capability ∈ wider.skipped) ∧
      ∀ capability ∈ plan.untested, capability ∈ wider.untested := by
  refine ⟨keys_sublist tells subject subject rfl inner outer within, ?_, ?_⟩
  all_goals
    intro capability member
    rw [ofClosure, SortedSet.mem_filter] at member ⊢
    exact ⟨within capability member.1, member.2⟩

end Plan

/-- Growth loses no suites. A declaration under a new name leaves every closure and every set of
implementors at least as large as before, and whoever had a plan has one with the old keys in the
old order and with all that was skipped and untested. One more suite changes no key of a plan, or
puts in its own and nothing else, the latter exactly if the key is new and the plan wants the
capability. -/
theorem Subject.keys_grow (graph : Graph) (operations : List Registry.Operation)
    (subject : Subject) :
    let registry := Registry.after operations
    (∀ decl, graph.get? decl.name = none →
      (∀ name closure, graph.closure name = .ok closure →
        ∃ wider, (graph.insert decl).closure name = .ok wider ∧
          ∀ capability ∈ closure, capability ∈ wider) ∧
      (∀ capability, ∀ name ∈ graph.implementors capability,
        name ∈ (graph.insert decl).implementors capability) ∧
      (∀ plan, (subject.resolve graph registry).value = .ok plan →
        ∃ wider, (subject.resolve (graph.insert decl) registry).value = .ok wider ∧
          plan.keys.Sublist wider.keys ∧
          (∀ capability ∈ plan.skipped, capability ∈ wider.skipped) ∧
          ∀ capability ∈ plan.untested, capability ∈ wider.untested)) ∧
    (∀ suite plan, (subject.resolve graph registry).value = .ok plan →
      ∃ grown, (subject.resolve graph (registry.register suite)).value = .ok grown ∧
        (suite.key ∈ (registry.suitesFor suite.target).map Suite.key → grown.keys = plan.keys) ∧
        (suite.key ∉ (registry.suitesFor suite.target).map Suite.key →
          if suite.target ∈ plan.closure ∧ ¬ suite.target ∈ subject.skip then
            ∃ front back, plan.keys = front ++ back ∧ grown.keys = front ++ suite.key :: back
          else grown.keys = plan.keys)) := by
  intro registry
  have tells : registry.Tells (Registry.history operations) := Registry.tells_after operations
  refine ⟨?_, ?_⟩
  · intro decl fresh
    have within : graph.Within (graph.insert decl) := graph.within_insert decl fresh
    refine ⟨within.closure_of, within.mem_implementors_of, ?_⟩
    intro plan resolved
    obtain ⟨closure, computed, rfl⟩ := (subject.resolve_eq_ok_iff graph registry plan).mp resolved
    obtain ⟨wider, widerComputed, larger⟩ := within.closure_of subject.target closure computed
    exact ⟨Plan.ofClosure registry subject wider,
      (subject.resolve_eq_ok_iff _ registry _).mpr ⟨wider, widerComputed, rfl⟩,
      Plan.widened tells subject closure wider larger⟩
  · intro suite plan resolved
    obtain ⟨closure, computed, rfl⟩ := (subject.resolve_eq_ok_iff graph registry plan).mp resolved
    refine ⟨Plan.ofClosure (registry.register suite) subject closure,
      (subject.resolve_eq_ok_iff graph _ _).mpr ⟨closure, computed, rfl⟩, ?_, ?_⟩
    · intro known
      exact Plan.keys_register_known tells suite known subject closure
    · intro fresh
      have wanted := Plan.mem_wanted_iff subject closure suite.target
      split
      · next applies =>
        exact Plan.keys_register_fresh tells suite fresh subject closure (wanted.mpr applies)
      · next idle =>
        exact Plan.keys_register_unwanted tells suite subject closure fun listed =>
          idle (wanted.mp listed)

/-- A class whose superclass was not declared has no suites at first. Once the superclass is
declared and implements a capability, the suite of the capability is on the plan of the class. -/
theorem Subject.keys_grow_upward :
    let cartDecl := (TypeDecl.ofClass ⟨"Cart"⟩).inheriting ⟨"Shelf"⟩
    let shelfDecl := (TypeDecl.ofClass ⟨"Shelf"⟩).extending ⟨"Keeps"⟩
    let graph := Graph.ofList [cartDecl]
    let suite := Suite.new ⟨"KeepsTests"⟩ ⟨"Keeps"⟩
    let host : Host := ⟨⟨"CartTests"⟩, false, .ok fun _ => none⟩
    let subject : Subject := ⟨⟨"CartTests"⟩, ⟨"Cart"⟩, ∅, host, [], none⟩
    let registry := Registry.after [.register suite]
    graph.get? shelfDecl.name = none ∧ ∃ plan wider,
      (subject.resolve graph registry).value = .ok plan ∧ plan.keys = [] ∧
      (subject.resolve (graph.insert shelfDecl) registry).value = .ok wider ∧
      plan.keys.Sublist wider.keys ∧ suite.key ∈ wider.keys := by
  intro cartDecl shelfDecl graph suite host subject registry
  have undeclared : graph.get? shelfDecl.name = none := by cbv
  have cartDeclared : (graph.insert shelfDecl).get? ⟨"Cart"⟩ = some cartDecl := by cbv
  have shelfDeclared : (graph.insert shelfDecl).get? ⟨"Shelf"⟩ = some shelfDecl := by cbv
  have resolved :
      (subject.resolve graph registry).value = .ok (Plan.ofClosure registry subject ∅) := by
    have closure : graph.closure ⟨"Cart"⟩ = .ok ∅ := by
      refine graph.closure_of_lone ⟨"Cart"⟩ cartDecl (by decide) rfl ?_ (List.forall_mem_nil _)
      rintro superclass ⟨⟩
      exact undeclared
    exact (subject.resolve_eq_ok_iff graph registry _).mpr ⟨∅, closure, rfl⟩
  obtain ⟨declaring, _⟩ := Subject.keys_grow graph [.register suite] subject
  obtain ⟨_, _, plans⟩ := declaring shelfDecl undeclared
  obtain ⟨wider, widerResolved, keys, _, _⟩ := plans _ resolved
  have listed : suite.key ∈ wider.keys := by
    obtain ⟨closure, computed, rfl⟩ :=
      (subject.resolve_eq_ok_iff _ registry wider).mp widerResolved
    have satisfied : (graph.insert shelfDecl).Satisfies ⟨"Cart"⟩ ⟨"Keeps"⟩ :=
      .ofClass cartDecl cartDeclared rfl ⟨"Shelf"⟩
        (Relation.ReflTransGen.single ⟨cartDecl, cartDeclared, rfl⟩)
        (Relation.TransGen.single ⟨shelfDecl, shelfDeclared, List.mem_singleton_self _⟩)
    exact (Plan.mem_keys_ofClosure_iff (Registry.tells_after [.register suite]) subject closure
      suite.key).mpr ⟨((graph.insert shelfDecl).mem_closure_iff _ _ closure computed).mpr satisfied,
        SortedSet.not_mem_empty _, suite, List.mem_singleton_self _, rfl⟩
  exact ⟨undeclared, _, wider, resolved, rfl, widerResolved, keys, listed⟩

end Conformance
