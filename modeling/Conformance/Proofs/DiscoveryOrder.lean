import Conformance.Proofs.Alike
import Conformance.Proofs.Exclusions
import Mathlib.Data.List.Forall2

/-!
# The order of discovery

Two sources differ only in order if they have the same entry points, the same types up
to the order of types and interfaces, and for every capability the same suites in the
same order. How the suites of different capabilities are interleaved is free. So a
type that declares suites for several capabilities may have declared one of them last
in one source and another in the other, and the index by type may differ.

A graph holds one declaration for each name, so with distinct names the order of the
types cannot tell, and the suites of a capability are told by the part of the history
that targets it, `standing_filter_target`. The scanned contexts are therefore alike,
`alike_of_scan`, whatever is left out, and contexts that are alike are not told apart by
anything that resolves against them.
-/

namespace Conformance

namespace Graph

/-- With distinct names every declaration is found, and no other is. -/
theorem get?_ofList_iff (decls : List TypeDecl) (unique : (decls.map TypeDecl.name).Nodup)
    (name : Name) (decl : TypeDecl) :
    (ofList decls).get? name = some decl ↔ decl ∈ decls ∧ decl.name = name := by
  have among (other : TypeDecl) : other ∈ decls.filter (fun decl => decide (decl.name = name)) ↔
      other ∈ decls ∧ other.name = name := by
    rw [List.mem_filter, decide_eq_true_eq]
  rw [get?_ofList]
  constructor
  · intro found
    exact (among decl).mp (List.mem_of_getLast? found)
  · intro declared
    cases latest : (decls.filter fun decl => decide (decl.name = name)).getLast? with
    | none =>
      have nothing := List.getLast?_eq_none_iff.mp latest
      exact absurd ((among decl).mpr declared) (nothing ▸ List.not_mem_nil)
    | some last =>
      obtain ⟨member, same⟩ := (among last).mp (List.mem_of_getLast? latest)
      exact congrArg some
        (List.inj_on_of_nodup_map unique member declared.1 (same.trans declared.2.symm))

/-- What is found in the one list has its like in the other. -/
theorem within_ofList (decls others : List TypeDecl)
    (unique : (decls.map TypeDecl.name).Nodup) (othersUnique : (others.map TypeDecl.name).Nodup)
    (likes : ∀ decl ∈ decls, ∃ other ∈ others, decl.Alike other) :
    (ofList decls).Within (ofList others) := by
  intro name decl found
  obtain ⟨member, named⟩ := (get?_ofList_iff decls unique name decl).mp found
  obtain ⟨other, otherMember, alike⟩ := likes decl member
  refine ⟨other, ?_, alike⟩
  exact (get?_ofList_iff others othersUnique name other).mpr
    ⟨otherMember, alike.name.symm.trans named⟩

end Graph

namespace Registry

/-- What a history leaves for a capability is told by the suites that target it. -/
theorem standing_filter_target (history : List Suite) (capability : Name) :
    standing (history.filter fun suite => decide (suite.target = capability)) capability =
      standing history capability := by
  have sameKeys : keysFor (history.filter fun suite => decide (suite.target = capability))
      capability = keysFor history capability := by
    rw [keysFor, keysFor, List.filter_filter]
    simp only [Bool.and_self]
  rw [standing, standing, sameKeys]
  refine List.filterMap_congr ?_
  intro key listed
  have target : key.target = capability := ((mem_keysFor_iff history capability key).mp listed).1
  rw [latest?, latest?, List.filter_filter]
  refine congrArg List.getLast? (List.filter_congr ?_)
  intro suite _
  by_cases same : suite.key = key
  · have targeted : suite.target = capability :=
      (congrArg SuiteKey.target same).trans target
    simp [targeted]
  · simp [same]

section SameTargets

variable (left right : List Suite) (same : ∀ capability,
  (left.filter fun suite => decide (suite.target = capability)) =
    right.filter fun suite => decide (suite.target = capability))
include same

/-- The same suites are discovered, in whichever order the targets come. -/
theorem mem_iff_of_same_targets (suite : Suite) : suite ∈ left ↔ suite ∈ right := by
  have listed (suites : List Suite) :
      suite ∈ suites ↔ suite ∈ suites.filter fun other => decide (other.target = suite.target) := by
    simp
  rw [listed left, same, ← listed right]

/-- Suites that agree capability by capability are scanned alike. -/
theorem alike_of_same_targets (skip : SkipList) :
    (scan left skip).value.Alike (scan right skip).value := by
  have suitesFor (capability : Name) :
      (scan left skip).value.suitesFor capability =
        (scan right skip).value.suitesFor capability := by
    rw [suitesFor_scan left, suitesFor_scan right,
      (tells_scan_whole left).suitesFor_eq_standing,
      (tells_scan_whole right).suitesFor_eq_standing, ← standing_filter_target left, same,
      standing_filter_target]
  constructor
  case suitesFor => exact suitesFor
  case capabilities =>
    refine increasing_ext (SortedMap.keys_increasing _) (SortedMap.keys_increasing _) ?_
    intro capability
    refine ((tells_scan left skip).mem_capabilities_iff capability).trans ?_
    rw [suitesFor]
    exact ((tells_scan right skip).mem_capabilities_iff capability).symm
  case isDeclaringType =>
    intro name
    refine decide_eq_decide.mpr ?_
    rw [mem_declaringTypes_scan, mem_declaringTypes_scan, List.mem_map, List.mem_map]
    simp only [mem_iff_of_same_targets left right same]

end SameTargets

end Registry

/-- Two sources that show the same, if in another order. -/
structure Discovery.SameUpToOrder (left right : Discovery) : Prop where
  entries : left.entries = right.entries
  /-- No name is declared twice. -/
  unique : (left.types.map TypeDecl.name).Nodup
  /-- The types are the same in some order, each with its interfaces in any order and however often
  listed. -/
  types : ∃ arranged, left.types.Perm arranged ∧ List.Forall₂ TypeDecl.Alike arranged right.types
  /-- Of the suites only the order for each capability counts. -/
  suites : ∀ capability,
    (left.suites.filter fun suite => decide (suite.target = capability)) =
      right.suites.filter fun suite => decide (suite.target = capability)

namespace Discovery.SameUpToOrder

variable {left right : Discovery}

/-- The names of the other source are distinct, too. -/
theorem nodup_right (same : left.SameUpToOrder right) :
    (right.types.map TypeDecl.name).Nodup := by
  obtain ⟨arranged, permuted, alike⟩ := same.types
  have sameNames : arranged.map TypeDecl.name = right.types.map TypeDecl.name := by
    refine List.forall₂_eq_eq_eq ▸ ?_
    exact List.forall₂_map_left_iff.mpr (List.forall₂_map_right_iff.mpr
      (alike.imp fun _ _ decls => decls.name))
  rw [← sameNames]
  exact (permuted.map TypeDecl.name).nodup_iff.mp same.unique

/-- Both sources declare the same types. -/
theorem graph (same : left.SameUpToOrder right) :
    (Graph.ofList left.types).Alike (Graph.ofList right.types) := by
  obtain ⟨arranged, permuted, alike⟩ := same.types
  have likes {decls others : List TypeDecl} {relation : TypeDecl → TypeDecl → Prop}
      (pairs : List.Forall₂ relation decls others) :
      ∀ decl ∈ decls, ∃ other ∈ others, relation decl other := by
    induction pairs with
    | nil =>
      intro decl member
      exact absurd member List.not_mem_nil
    | cons pair _ inductionHypothesis =>
      intro decl member
      rcases List.mem_cons.mp member with rfl | later
      · exact ⟨_, List.mem_cons_self, pair⟩
      · obtain ⟨other, otherMember, related⟩ := inductionHypothesis decl later
        exact ⟨other, List.mem_cons_of_mem _ otherMember, related⟩
  constructor
  case forward =>
    refine Graph.within_ofList _ _ same.unique same.nodup_right ?_
    intro decl member
    exact likes alike decl (permuted.mem_iff.mp member)
  case backward =>
    refine Graph.within_ofList _ _ same.nodup_right same.unique ?_
    intro decl member
    obtain ⟨other, otherMember, alike⟩ := likes alike.flip decl member
    exact ⟨other, permuted.mem_iff.mpr otherMember, alike.symm⟩

/-- Whatever is left out, both sources are scanned alike. -/
theorem scan (same : left.SameUpToOrder right) (skip : SkipList) :
    (Context.scan left skip).value.Alike (Context.scan right skip).value where
  graph := same.graph
  registry := Registry.alike_of_same_targets left.suites right.suites same.suites skip
  entries := same.entries

end Discovery.SameUpToOrder

namespace Context

/-- The order of discovery is irrelevant. Whatever is left out, two sources that show the same give
contexts with the same closures and implementors for every name, in which every subject gets the
same plan or is refused alike, every entry point has the same battery or is refused alike, with the
same log and the same contacts, and the same is reported for all packages.

The two contexts may differ in what a type declared last, and nothing that is computed from them
asks for that. -/
theorem scan_ignores_order (left right : Discovery) (same : left.SameUpToOrder right)
    (skip : SkipList) :
    let context := (Context.scan left skip).value
    let other := (Context.scan right skip).value
    (∀ name, context.graph.closure name = other.graph.closure name) ∧
    (∀ capability, context.graph.implementors capability = other.graph.implementors capability) ∧
    (∀ subject : Subject, subject.resolve context.graph context.registry =
      subject.resolve other.graph other.registry) ∧
    (∀ entry, Battery.build entry context = Battery.build entry other) ∧
    ∀ packages, context.gather packages = other.gather packages := by
  intro context other
  have alike : context.Alike other := same.scan skip
  exact ⟨alike.graph.closure_eq, alike.graph.implementors_eq, alike.resolve_eq, alike.build_eq,
    alike.gather_eq⟩

/-- A type that declares suites for two capabilities declared one of them last in one source and
the other in the other. Plans and reports are the same. -/
theorem scan_ignores_order_by_type :
    let counts := TypeDecl.capability ⟨"Counts"⟩
    let keeps := ((TypeDecl.capability ⟨"Keeps"⟩).extending ⟨"Counts"⟩).extending ⟨"Holds"⟩
    let keepsToo : TypeDecl := ⟨⟨"Keeps"⟩, .capability, [⟨"Holds"⟩, ⟨"Counts"⟩, ⟨"Holds"⟩], none⟩
    let cart := (TypeDecl.ofClass ⟨"Cart"⟩).extending ⟨"Keeps"⟩
    let counting := Suite.new ⟨"CartTests"⟩ ⟨"Counts"⟩
    let keeping := Suite.new ⟨"CartTests"⟩ ⟨"Keeps"⟩
    let left : Discovery := ⟨[counts, keeps, cart], [counting, keeping], []⟩
    let right : Discovery := ⟨[cart, keepsToo, counts], [keeping, counting], []⟩
    let context := (Context.scan left ∅).value
    let other := (Context.scan right ∅).value
    left.SameUpToOrder right ∧
      (context.registry.suiteOf? ⟨"CartTests"⟩).map Suite.target = some ⟨"Keeps"⟩ ∧
      (other.registry.suiteOf? ⟨"CartTests"⟩).map Suite.target = some ⟨"Counts"⟩ ∧
      (∀ subject : Subject, subject.resolve context.graph context.registry =
        subject.resolve other.graph other.registry) ∧
      context.gather ["Ca"] = other.gather ["Ca"] := by
  intro counts keeps keepsToo cart counting keeping left right context other
  have same : left.SameUpToOrder right := by
    constructor
    case entries => rfl
    case unique => decide
    case types =>
      have again : keeps.Alike keepsToo := by
        refine ⟨rfl, rfl, rfl, ?_⟩
        intro interface
        simp only [keeps, keepsToo, TypeDecl.capability, TypeDecl.extending, List.nil_append,
          List.cons_append, List.mem_cons, List.not_mem_nil, or_false]
        tauto
      refine ⟨[cart, keeps, counts], List.reverse_perm [cart, keeps, counts], ?_⟩
      exact .cons (.refl cart) (.cons again (.cons (.refl counts) .nil))
    case suites =>
      intro capability
      by_cases isCounts : capability = ⟨"Counts"⟩
      · subst isCounts
        rfl
      · have notCounting : ¬ counting.target = capability := fun target => isCounts target.symm
        simp [left, right, List.filter_cons, notCounting]
  have ignored := scan_ignores_order left right same ∅
  exact ⟨same, by cbv, by cbv, ignored.2.2.1, ignored.2.2.2.2 ["Ca"]⟩

end Context

end Conformance
