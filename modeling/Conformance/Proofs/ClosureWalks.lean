import Conformance.Proofs.Reachability

/-!
# The walk for a closure, turn by turn

A closure is found in two loops. The first climbs from a class to its superclass and
queues what the classes implement; a class seen twice ends it. The second takes names
off the queue, meets each once and queues the interfaces of the declared ones, less
those met already. A name may still be queued several times.

Each turn uses something up: the first loop ends before the second begins, either loop
visits a declared name once only, and a name that is not visited leaves the queue for
good. So no walk goes on for ever, whatever cycles the edges form. Each turn also keeps
what is found and what is still to be found together the same, as long as an edge out of
what was visited leads to what was visited or is to be visited.

Main statement: `closure_exact` says what closures hold in the graph that any history of
declarations leaves.
-/

namespace Conformance

namespace Graph

open Relation (ReflTransGen TransGen)

/-- Where the walk for a closure stands. -/
inductive Walk where
  /-- Going up the superclasses: the classes passed, where to go, what is implemented so far. -/
  | climbing (passed : NameSet) (next : Option Name) (pending : List Name)
  /-- Going along the interfaces: the names met and those to visit. -/
  | reaching (met : NameSet) (pending : List Name)

namespace Walk

/-- Where the walk for a declared type begins. -/
def start (decl : TypeDecl) : Walk :=
  if decl.isCapability then .reaching ∅ [decl.name] else .climbing ∅ (some decl.name) []

/-- One turn of the loops. -/
inductive Step (graph : Graph) : Walk → Walk → Prop where
  | climb (passed : NameSet) (name : Name) (pending : List Name) (decl : TypeDecl)
      (fresh : ¬ name ∈ passed) (declared : graph.get? name = some decl) :
      Step graph (.climbing passed (some name) pending)
        (.climbing (passed.insert name) decl.superclass (pending ++ decl.interfaces))
  /-- Nothing is above, or a class seen before, or a class that is not declared. -/
  | top (passed : NameSet) (next : Option Name) (pending : List Name)
      (ended : ∀ name, next = some name → name ∈ passed ∨ graph.get? name = none) :
      Step graph (.climbing passed next pending) (.reaching ∅ pending)
  | drop (met : NameSet) (name : Name) (pending : List Name) (known : name ∈ met) :
      Step graph (.reaching met (name :: pending)) (.reaching met pending)
  | leaf (met : NameSet) (name : Name) (pending : List Name) (fresh : ¬ name ∈ met)
      (undeclared : graph.get? name = none) :
      Step graph (.reaching met (name :: pending)) (.reaching (met.insert name) pending)
  /-- The interfaces met already are not queued again. -/
  | meet (met : NameSet) (name : Name) (pending : List Name) (decl : TypeDecl)
      (fresh : ¬ name ∈ met) (declared : graph.get? name = some decl) :
      Step graph (.reaching met (name :: pending))
        (.reaching (met.insert name)
          (pending ++ decl.interfaces.filter fun upper => !decide (upper ∈ met.insert name)))

variable {graph : Graph} {walk next : Walk}

/-- What the turns use up: the climb, then the declared names not visited, then the queue. -/
def remaining (graph : Graph) : Walk → Nat × Nat × Nat
  | .climbing passed _ _ => (1, (graph.unmet passed).length, 0)
  | .reaching met pending => (0, (graph.unmet met).length, pending.length)

/-- Every turn uses something up. -/
theorem Step.decreases (step : Step graph walk next) :
    Prod.Lex (· < ·) (Prod.Lex (· < ·) (· < ·)) (next.remaining graph) (walk.remaining graph) := by
  cases step with
  | climb passed name pending decl fresh declared =>
    have known := graph.mem_keys_of_get? name decl declared
    exact .right _ (.left _ _ (graph.unmet_insert_lt passed name known fresh))
  | top => exact .left _ _ Nat.zero_lt_one
  | drop => exact .right _ (.right _ (Nat.lt_succ_self _))
  | leaf met name pending =>
    rcases Nat.lt_or_eq_of_le (graph.unmet_insert_le met name) with fewer | same
    · exact .right _ (.left _ _ fewer)
    · simp only [remaining, same]
      exact .right _ (.right _ (Nat.lt_succ_self _))
  | meet met name pending decl fresh declared =>
    have known := graph.mem_keys_of_get? name decl declared
    exact .right _ (.left _ _ (graph.unmet_insert_lt met name known fresh))

/-- No walk goes on for ever, wherever it begins. -/
theorem wellFounded_step (graph : Graph) : WellFounded fun next walk => Step graph walk next :=
  Subrelation.wf Step.decreases
    (InvImage.wf (remaining graph)
      (Prod.lex Nat.lt_wfRel (Prod.lex Nat.lt_wfRel Nat.lt_wfRel)).wf)

/-- A walk takes another turn unless nothing is pending. -/
theorem done_or_step (graph : Graph) (walk : Walk) :
    (∃ met, walk = .reaching met []) ∨ ∃ next, Step graph walk next := by
  rcases walk with ⟨passed, _ | name, pending⟩ | ⟨met, _ | ⟨name, pending⟩⟩
  · exact .inr ⟨_, .top passed none pending nofun⟩
  · refine .inr ?_
    by_cases known : name ∈ passed
    · exact ⟨_, .top passed _ pending fun _ same => .inl (Option.some.inj same ▸ known)⟩
    · cases declared : graph.get? name with
      | none =>
        exact ⟨_, .top passed _ pending fun _ same => .inr (Option.some.inj same ▸ declared)⟩
      | some decl => exact ⟨_, .climb passed name pending decl known declared⟩
  · exact .inl ⟨met, rfl⟩
  · refine .inr ?_
    by_cases known : name ∈ met
    · exact ⟨_, .drop met name pending known⟩
    · cases declared : graph.get? name with
      | none => exact ⟨_, .leaf met name pending known declared⟩
      | some decl => exact ⟨_, .meet met name pending decl known declared⟩

/-- Every walk comes to an end, and there its queue is empty. -/
theorem exists_run (graph : Graph) (walk : Walk) :
    ∃ met, ReflTransGen (Step graph) walk (.reaching met []) := by
  induction walk using (wellFounded_step graph).induction with
  | _ walk inductionHypothesis =>
    rcases done_or_step graph walk with ⟨met, rfl⟩ | ⟨next, step⟩
    · exact ⟨met, .refl⟩
    · obtain ⟨met, run⟩ := inductionHypothesis next step
      exact ⟨met, run.head step⟩

/-- An edge out of what was visited leads to what was visited or is to be visited. This is what
every turn preserves. -/
def InOrder (graph : Graph) : Walk → Prop
  | .climbing passed next pending => ∀ lower ∈ passed,
      (∀ upper, graph.Inherits lower upper → upper ∈ passed ∨ next = some upper) ∧
        ∀ upper, graph.Extends lower upper → upper ∈ pending
  | .reaching met pending => graph.Settled met pending

/-- What is met or still ahead. -/
def Finds (graph : Graph) (capability : Name) : Walk → Prop
  | .climbing _ next pending =>
      (∃ root ∈ pending, ReflTransGen graph.Extends root capability) ∨
        ∃ lower, next = some lower ∧ ∃ ancestor,
          ReflTransGen graph.Inherits lower ancestor ∧ TransGen graph.Extends ancestor capability
  | .reaching met pending =>
      capability ∈ met ∨ ∃ root ∈ pending, ReflTransGen graph.Extends root capability

/-- Where nothing has been met, everything may still be ahead. -/
theorem settled_empty (graph : Graph) (pending : List Name) : graph.Settled ∅ pending :=
  fun lower member => absurd member (SortedSet.not_mem_empty lower)

/-- The edges out of a class that is passed lead to what is passed or comes next. -/
theorem inOrder_climb (passed : NameSet) (name : Name) (pending : List Name) (decl : TypeDecl)
    (declared : graph.get? name = some decl)
    (inOrder : (climbing passed (some name) pending).InOrder graph) :
    (climbing (passed.insert name) decl.superclass (pending ++ decl.interfaces)).InOrder graph := by
  intro lower member
  rcases (SortedSet.mem_insert passed name lower).mp member with rfl | older
  · constructor
    · rintro upper ⟨other, otherDeclared, edge⟩
      obtain rfl : decl = other := Option.some.inj (declared.symm.trans otherDeclared)
      exact .inr edge
    · intro upper edge
      exact List.mem_append_right _
        ((graph.extends_iff_of_declared lower upper decl declared).mp edge)
  · obtain ⟨above, implemented⟩ := inOrder lower older
    constructor
    · intro upper edge
      rw [SortedSet.mem_insert]
      rcases above upper edge with known | same
      · exact .inl (.inr known)
      · exact .inl (.inl (Option.some.inj same).symm)
    · intro upper edge
      exact List.mem_append_left _ (implemented upper edge)

/-- Queued interfaces that are met may be left out. -/
theorem met_or_unmet (met : NameSet) (pending interfaces : List Name) :
    ∀ upper ∈ pending ++ interfaces, upper ∈ met ∨
      upper ∈ pending ++ interfaces.filter fun upper => !decide (upper ∈ met) := by
  intro upper listed
  rcases List.mem_append.mp listed with older | interface
  · exact .inr (List.mem_append_left _ older)
  · by_cases known : upper ∈ met
    · exact .inl known
    · exact .inr (List.mem_append_right _ (List.mem_filter.mpr ⟨interface, by simp [known]⟩))

/-- A turn keeps the walk in order. -/
theorem Step.inOrder (step : Step graph walk next) (inOrder : walk.InOrder graph) :
    next.InOrder graph := by
  cases step with
  | climb passed name pending decl _ declared =>
    exact inOrder_climb passed name pending decl declared inOrder
  | top passed upper pending => exact settled_empty graph pending
  | drop met name pending known => exact Settled.narrow inOrder (met_or_later known)
  | leaf met name pending _ undeclared =>
    have advanced := Settled.meet inOrder fun upper edge =>
      (graph.extends_iff_of_undeclared name upper undeclared).mp edge
    rwa [List.append_nil] at advanced
  | meet met name pending decl _ declared =>
    have advanced := Settled.meet inOrder fun upper edge =>
      (graph.extends_iff_of_declared name upper decl declared).mp edge
    exact advanced.narrow (met_or_unmet (met.insert name) pending decl.interfaces)

/-- What a class adds is what it implements; the rest is left to its superclass. -/
theorem finds_climb (passed : NameSet) (name : Name) (pending : List Name) (decl : TypeDecl)
    (declared : graph.get? name = some decl) (capability : Name) :
    (climbing (passed.insert name) decl.superclass (pending ++ decl.interfaces)).Finds graph
        capability ↔
      (climbing passed (some name) pending).Finds graph capability := by
  have interface_iff (upper : Name) := graph.extends_iff_of_declared name upper decl declared
  constructor
  · rintro (⟨root, listed, path⟩ | ⟨superclass, edge, ancestor, above, path⟩)
    · rcases List.mem_append.mp listed with older | interface
      · exact .inl ⟨root, older, path⟩
      · exact .inr ⟨name, rfl, name, .refl, .head' ((interface_iff root).mpr interface) path⟩
    · exact .inr ⟨name, rfl, ancestor, above.head ⟨decl, declared, edge⟩, path⟩
  · rintro (⟨root, listed, path⟩ | ⟨lower, same, ancestor, above, path⟩)
    · exact .inl ⟨root, List.mem_append_left _ listed, path⟩
    · obtain rfl : name = lower := Option.some.inj same
      rcases above.cases_head with rfl | ⟨superclass, ⟨other, otherDeclared, edge⟩, higher⟩
      · obtain ⟨root, interface, rest⟩ := TransGen.head'_iff.mp path
        exact .inl ⟨root, List.mem_append_right _ ((interface_iff root).mp interface), rest⟩
      · obtain rfl : decl = other := Option.some.inj (declared.symm.trans otherDeclared)
        exact .inr ⟨superclass, edge, ancestor, higher, path⟩

/-- Above a class seen before nothing is new, above one that is not declared there is nothing. -/
theorem finds_top (passed : NameSet) (above : Option Name) (pending : List Name)
    (ended : ∀ name, above = some name → name ∈ passed ∨ graph.get? name = none)
    (inOrder : (climbing passed above pending).InOrder graph) (capability : Name) :
    (reaching ∅ pending).Finds graph capability ↔
      (climbing passed above pending).Finds graph capability := by
  constructor
  · rintro (impossible | queued)
    · exact absurd impossible (SortedSet.not_mem_empty capability)
    · exact .inl queued
  · rintro (queued | ⟨lower, same, ancestor, climbed, path⟩)
    · exact .inr queued
    · obtain ⟨root, interface, rest⟩ := TransGen.head'_iff.mp path
      rcases ended lower same with known | undeclared
      -- a class seen before: all classes above it are passed, and what they implement is queued
      · have stays : ∀ other ∈ passed, ∀ upper, graph.Inherits other upper →
            upper ∈ passed ∨ False := by
          intro other member upper edge
          rcases (inOrder other member).1 upper edge with inside | last
          · exact .inl inside
          · exact .inl (Option.some.inj (same.symm.trans last) ▸ known)
        rcases stays_or_leaves_through_frontier (· ∈ passed) (fun _ => False) stays
          lower ancestor known climbed with inside | ⟨_, impossible, _⟩
        · exact .inr ⟨root, (inOrder ancestor inside).2 root interface, rest⟩
        · exact impossible.elim
      · rcases climbed.cases_head with rfl | ⟨_, ⟨decl, declared, _⟩, _⟩
        · obtain ⟨decl, declared, _⟩ := interface
          simp [undeclared] at declared
        · simp [undeclared] at declared

/-- What is met or still ahead does not change from turn to turn. -/
theorem Step.finds_iff (step : Step graph walk next) (inOrder : walk.InOrder graph)
    (capability : Name) : next.Finds graph capability ↔ walk.Finds graph capability := by
  have kept := step.inOrder inOrder
  cases step with
  | climb passed name pending decl _ declared =>
    exact finds_climb passed name pending decl declared capability
  | top passed above pending ended =>
    exact finds_top passed above pending ended inOrder capability
  | drop met name pending known =>
    exact graph.led_to_by_kept met (name :: pending) pending capability kept
      (fun _ later => List.mem_cons_of_mem _ later) (met_or_later known)
  | leaf met name pending _ undeclared =>
    have handedOver := graph.led_to_by_meeting met name pending [] capability fun upper =>
      graph.extends_iff_of_undeclared name upper undeclared
    rwa [List.append_nil] at handedOver
  | meet met name pending decl _ declared =>
    have handedOver := graph.led_to_by_meeting met name pending decl.interfaces capability
      fun upper => graph.extends_iff_of_declared name upper decl declared
    refine (graph.led_to_by_kept (met.insert name) (pending ++ decl.interfaces) _ capability kept
      ?_ (met_or_unmet (met.insert name) pending decl.interfaces)).trans handedOver
    intro upper listed
    rcases List.mem_append.mp listed with older | interface
    · exact List.mem_append_left _ older
    · exact List.mem_append_right _ (List.mem_filter.mp interface).1

/-- Nor does it change over a whole run. -/
theorem run_finds_iff (run : ReflTransGen (Step graph) walk next) (inOrder : walk.InOrder graph)
    (capability : Name) : next.Finds graph capability ↔ walk.Finds graph capability := by
  induction run using ReflTransGen.head_induction_on with
  | refl => exact Iff.rfl
  | head step _ inductionHypothesis =>
    exact (inductionHypothesis (step.inOrder inOrder)).trans (step.finds_iff inOrder capability)

/-- A walk starts in order. -/
theorem inOrder_start (graph : Graph) (decl : TypeDecl) : (start decl).InOrder graph := by
  unfold start
  split
  · exact settled_empty graph [decl.name]
  · exact fun lower member => absurd member (SortedSet.not_mem_empty lower)

/-- At the beginning all that the type satisfies is ahead. -/
theorem finds_start_iff (name capability : Name) (decl : TypeDecl)
    (declared : graph.get? name = some decl) :
    (start decl).Finds graph capability ↔ graph.Satisfies name capability := by
  have named : decl.name = name := graph.name_of_get? name decl declared
  cases kind : decl.isCapability with
  | true =>
    rw [graph.satisfies_iff_of_capability name capability decl declared kind]
    simp [start, kind, Finds, named, SortedSet.not_mem_empty]
  | false =>
    rw [graph.satisfies_iff_of_class name capability decl declared kind]
    simp [start, kind, Finds, named]

/-- A walk that has ended has met what the type satisfies. -/
theorem mem_iff_of_run (name : Name) (decl : TypeDecl) (declared : graph.get? name = some decl)
    (met : NameSet) (run : ReflTransGen (Step graph) (start decl) (.reaching met []))
    (capability : Name) : capability ∈ met ↔ graph.Satisfies name capability := by
  rw [← finds_start_iff name capability decl declared,
    ← run_finds_iff run (inOrder_start graph decl) capability]
  simp [Finds]

/-- The closure of a type is where the walk for it ends. -/
theorem closure_eq_ok_iff (name : Name) (decl : TypeDecl) (declared : graph.get? name = some decl)
    (met : NameSet) : graph.closure name = .ok met ↔
      ReflTransGen (Step graph) (start decl) (.reaching met []) := by
  obtain ⟨closure, computed⟩ := graph.closure_of_declared name (by simp [declared])
  have same (ended : NameSet)
      (run : ReflTransGen (Step graph) (start decl) (.reaching ended [])) : ended = closure := by
    refine SortedSet.ext fun capability => ?_
    rw [mem_iff_of_run name decl declared ended run, graph.mem_closure_iff _ _ _ computed]
  constructor
  · intro found
    obtain ⟨ended, run⟩ := exists_run graph (start decl)
    obtain rfl : closure = met := Except.ok.inj (computed.symm.trans found)
    exact same ended run ▸ run
  · intro run
    rw [same met run, computed]

end Walk

/-- Interfaces are capabilities or not declared. -/
def InterfacesAreCapabilities (graph : Graph) : Prop :=
  ∀ lower upper, graph.Extends lower upper →
    ∀ decl, graph.get? upper = some decl → decl.isCapability = true

/-- If interfaces are never classes, nothing satisfies a class. -/
theorem Satisfies.isCapability {graph : Graph} {name capability : Name}
    (satisfied : graph.Satisfies name capability) (edges : graph.InterfacesAreCapabilities)
    (decl : TypeDecl) (declared : graph.get? capability = some decl) :
    decl.isCapability = true := by
  rcases satisfied with ⟨first, firstDeclared, kind, path⟩ | ⟨_, _, _, ancestor, _, path⟩
  · rcases path.cases_tail with rfl | ⟨lower, _, edge⟩
    · obtain rfl : first = decl := Option.some.inj (firstDeclared.symm.trans declared)
      exact kind
    · exact edges lower _ edge decl declared
  · obtain ⟨lower, _, edge⟩ := TransGen.tail'_iff.mp path
    exact edges lower capability edge decl declared

/-- What is true of closures in a graph with a history of declarations. -/
structure ClosesOver (graph : Graph) (history : List TypeDecl) : Prop where
  /-- Of the declarations under one name the last counts. -/
  declared : ∀ name, graph.get? name =
    (history.filter fun decl => decide (decl.name = name)).getLast?
  /-- No walk goes on for ever, wherever it begins. -/
  ends : WellFounded fun next walk => Walk.Step graph walk next
  /-- The closure is where the walk ends. -/
  walked : ∀ name decl, graph.get? name = some decl → ∀ met, graph.closure name = .ok met ↔
    ReflTransGen (Walk.Step graph) (Walk.start decl) (.reaching met [])
  /-- The closure of a capability. -/
  ofCapability : ∀ name decl, graph.get? name = some decl → decl.isCapability = true →
    ∃ closure, graph.closure name = .ok closure ∧
      ∀ member, member ∈ closure ↔ ReflTransGen graph.Extends name member
  /-- The closure of a class. -/
  ofClass : ∀ name decl, graph.get? name = some decl → decl.isCapability = false →
    ∃ closure, graph.closure name = .ok closure ∧
      ∀ member, member ∈ closure ↔ ∃ ancestor,
        ReflTransGen graph.Inherits name ancestor ∧ TransGen graph.Extends ancestor member
  /-- Nothing is reached through a name that is not declared. -/
  leaf : ∀ name, graph.get? name = none →
    ∀ member, ReflTransGen graph.Extends name member ↔ member = name
  /-- A class is in no closure, its own included, if no interface is a class. -/
  noClasses : graph.InterfacesAreCapabilities → ∀ name closure, graph.closure name = .ok closure →
    ∀ member decl, graph.get? member = some decl → decl.isCapability = false → ¬ member ∈ closure
  /-- A name that is not declared has no closure. -/
  unknown : ∀ name, graph.get? name = none → graph.closure name = .error ⟨name⟩

/-- Closures hold what the edges reach, in the graph of any history of declarations: with edges in
cycles, several edges between two names, and edges to names that are never declared. -/
theorem closure_exact (history : List TypeDecl) : (ofList history).ClosesOver history := by
  constructor
  case declared => exact get?_ofList history
  case ends => exact Walk.wellFounded_step (ofList history)
  case walked => exact fun name decl declared => Walk.closure_eq_ok_iff name decl declared
  case ofCapability =>
    intro name decl declared kind
    obtain ⟨closure, computed⟩ := closure_of_declared (ofList history) name (by simp [declared])
    refine ⟨closure, computed, fun member => ?_⟩
    rw [mem_closure_iff _ name member closure computed,
      satisfies_iff_of_capability _ name member decl declared kind]
  case ofClass =>
    intro name decl declared kind
    obtain ⟨closure, computed⟩ := closure_of_declared (ofList history) name (by simp [declared])
    refine ⟨closure, computed, fun member => ?_⟩
    rw [mem_closure_iff _ name member closure computed,
      satisfies_iff_of_class _ name member decl declared kind]
  case leaf =>
    intro name undeclared member
    constructor
    · exact eq_of_path_of_undeclared _ name member undeclared
    · rintro rfl
      exact .refl
  case noClasses =>
    intro edges name closure computed member decl declared kind present
    have satisfied := (mem_closure_iff _ name member closure computed).mp present
    simp [satisfied.isCapability edges decl declared] at kind
  case unknown => exact fun name undeclared => (closure_eq_error_iff _ name _).mpr ⟨undeclared, rfl⟩

end Graph

end Conformance
