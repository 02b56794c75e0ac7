import Conformance.Name

/-!
# Skip lists

A skip list names the declaring types whose suites are left out when a registry is
filled. From outside it comes as one text of comma-separated names.
-/

namespace Conformance

/-- The declaring types whose suites are left out. -/
abbrev SkipList := NameSet

/-- Reads comma-separated names. Blank segments count for nothing, and the first segment that is
not a name refuses the whole list. -/
def SkipList.parse (raw : String) : Except Name.Malformed SkipList := do
  let written := (Text.split ',' raw).filter fun segment => !(Text.trim segment).isEmpty
  return SortedSet.ofList (← written.mapM Name.parse)

end Conformance
