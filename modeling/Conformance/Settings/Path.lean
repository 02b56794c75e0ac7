import Conformance.Text.Native

/-!
# Paths

A path is walked over from component to component. Slashes that follow one another count
once, a slash at the end says nothing, and a single dot is a component only at the start.
A path need not be a text.
-/

namespace Conformance

/-- A component of a path. -/
inductive PathComponent where
  /-- The slash at the start of a path. -/
  | root
  /-- A single dot at the start of a path. -/
  | current
  /-- A double dot. -/
  | parent
  | normal (name : NativeText)
deriving DecidableEq

namespace PathComponent

/-- A component as it stands in a path. -/
def text : PathComponent → NativeText
  | .root => .ofString "/"
  | .current => .ofString "."
  | .parent => .ofString ".."
  | .normal name => name

/-- What stands at the start of a path before its segments. -/
def leading (path : NativeText) : List PathComponent :=
  if path.bytes.head? = some NativeText.slash then [.root]
  else if path.segments.head? = some (.ofString ".") then [.current]
  else []

/-- The component that a segment between slashes stands for. -/
def ofSegment? (segment : NativeText) : Option PathComponent :=
  if segment = .ofString "" || segment = .ofString "." then none
  else if segment = .ofString ".." then some .parent
  else some (.normal segment)

/-- The components of a path, first to last. -/
def ofPath (path : NativeText) : List PathComponent :=
  leading path ++ path.segments.filterMap ofSegment?

end PathComponent

end Conformance
