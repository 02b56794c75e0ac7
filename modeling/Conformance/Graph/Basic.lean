import Conformance.Name

/-!
# The graph of types

A type is a capability or a class. A capability extends capabilities; a class
implements capabilities and may have a superclass. The graph holds one declaration
per name; a name that only occurs at the end of an edge is not declared.
-/

namespace Conformance

/-- What kind of type is declared. -/
inductive TypeKind where
  /-- A behaviour that classes may have. -/
  | capability
  /-- A class; an abstract one has no instances of its own. -/
  | ofClass (isAbstract : Bool)
deriving DecidableEq

/-- The declaration of one type. -/
structure TypeDecl where
  name : Name
  kind : TypeKind
  /-- The capabilities that the type itself extends or implements. -/
  interfaces : List Name
  superclass : Option Name
deriving DecidableEq

namespace TypeDecl

/-- A capability that extends nothing. -/
def capability (name : Name) : TypeDecl := ⟨name, .capability, [], none⟩

/-- A concrete class that implements nothing and inherits from nothing. -/
def ofClass (name : Name) : TypeDecl := ⟨name, .ofClass false, [], none⟩

/-- Adds a capability that the type extends or implements. -/
def extending (decl : TypeDecl) (interface : Name) : TypeDecl :=
  { decl with interfaces := decl.interfaces ++ [interface] }

/-- Sets the superclass. -/
def inheriting (decl : TypeDecl) (superclass : Name) : TypeDecl :=
  { decl with superclass := some superclass }

/-- Makes a class abstract; a capability stays what it is. -/
def asAbstract (decl : TypeDecl) : TypeDecl :=
  match decl.kind with
  | .capability => decl
  | .ofClass _ => { decl with kind := .ofClass true }

def isCapability (decl : TypeDecl) : Bool := decl.kind = .capability

/-- Whether the type is a class with instances of its own. -/
def isConcrete (decl : TypeDecl) : Bool := decl.kind = .ofClass false

end TypeDecl

/-- The declared types by name. -/
structure Graph where
  types : SortedMap Name TypeDecl
  /-- Every type is held under its own name. -/
  named : ∀ binding ∈ types.toList, binding.2.name = binding.1

namespace Graph

/-- The graph without types. -/
def empty : Graph := ⟨∅, fun _ member => absurd member List.not_mem_nil⟩

instance : EmptyCollection Graph := ⟨empty⟩

instance : Inhabited Graph := ⟨empty⟩

/-- The declaration of a name. -/
def get? (graph : Graph) (name : Name) : Option TypeDecl := graph.types.get? name

/-- The number of declared types. -/
def size (graph : Graph) : Nat := graph.types.size

def isEmpty (graph : Graph) : Bool := graph.types.isEmpty

/-- Declares a type, in place of any type declared under its name before. -/
def insert (graph : Graph) (decl : TypeDecl) : Graph where
  types := graph.types.insert decl.name decl
  named binding member := by
    rcases SortedMap.mem_place decl.name decl binding graph.types.toList member with rfl | older
    · rfl
    · exact graph.named binding older

/-- The graph of a list of declarations; of two under one name the later counts. -/
def ofList (decls : List TypeDecl) : Graph := decls.foldl insert ∅

/-- The declared types in name order. -/
def declared (graph : Graph) : List TypeDecl := graph.types.values

/-- The declared capabilities in name order. -/
def capabilities (graph : Graph) : List TypeDecl := graph.declared.filter TypeDecl.isCapability

/-- The declared concrete classes in name order. -/
def concreteClasses (graph : Graph) : List TypeDecl := graph.declared.filter TypeDecl.isConcrete

/-- The last declaration of a name is the one that is found. -/
theorem get?_insert (graph : Graph) (decl : TypeDecl) (name : Name) :
    (graph.insert decl).get? name = if name = decl.name then some decl else graph.get? name :=
  SortedMap.get?_insert graph.types decl.name name decl

/-- After several declarations the last one of a name is found, and what was there before if there
is none. -/
theorem get?_foldl_insert (decls : List TypeDecl) (graph : Graph) (name : Name) :
    (decls.foldl insert graph).get? name =
      (decls.filter fun decl => decide (decl.name = name)).getLast?.or (graph.get? name) := by
  induction decls generalizing graph with
  | nil => rfl
  | cons decl rest inductionHypothesis =>
    rw [List.foldl_cons, inductionHypothesis, get?_insert, List.filter_cons]
    by_cases same : decl.name = name
    · simp only [same, decide_true, if_true, List.getLast?_cons]
      cases (rest.filter fun decl => decide (decl.name = name)).getLast? <;> rfl
    · simp [same, Ne.symm same]

/-- Of the declarations under a name the last counts. -/
theorem get?_ofList (decls : List TypeDecl) (name : Name) :
    (ofList decls).get? name =
      (decls.filter fun decl => decide (decl.name = name)).getLast? := by
  have missing : (∅ : Graph).get? name = none := SortedMap.get?_empty name
  rw [ofList, get?_foldl_insert, missing, Option.or_none]

/-- What is found under a name is a declaration of that name. -/
theorem name_of_get? (graph : Graph) (name : Name) (decl : TypeDecl)
    (found : graph.get? name = some decl) : decl.name = name :=
  graph.named (name, decl) ((SortedMap.get?_eq_some_iff graph.types name decl).mp found)

end Graph

end Conformance
