import Conformance.Resolution.Plan

/-!
# Dynamic entry points

A dynamic entry point is resolved member by member. A member that is refused keeps
its place and leaves the other members alone.
-/

namespace Conformance

/-- What became of one member. -/
inductive MemberResolution where
  | resolved (subject : Subject) (plan : Plan)
  | failed (refusal : Refusal)
  | passedThrough (unit : PlainUnit)

/-- The warning that a member is refused. -/
def Refusal.warning (refusal : Refusal) (member parent : Name) : LogRecord :=
  ⟨.warn,
    "dynamic member " ++ member.text ++ " of " ++ parent.text ++ " failed: " ++ refusal.message⟩

/-- Resolves one member for its parent. -/
def Member.resolve (parent : Subject) (graph : Graph) (registry : Registry) :
    Member Entry → Recorded MemberResolution
  | .plain unit => return .passedThrough unit
  | .contract entry => do
    let subject := Subject.ofMember entry parent
    match ← subject.resolve graph registry with
    | .ok plan => return .resolved subject plan
    | .error refusal =>
      let warning := refusal.warning entry.name parent.entry
      Recorded.logged warning.level warning.message
      return .failed refusal

/-- Resolves the members of a dynamic entry point, in order. The members are asked for once the
marker is known. -/
def Entry.resolveMembers (entry : Entry) (graph : Graph) (registry : Registry) :
    Recorded (Except Refusal (List MemberResolution)) :=
  match entry.members with
  | none => return .error (.notDynamic entry.name)
  | some members =>
    match Subject.ofEntry entry with
    | .error refusal => return .error refusal
    | .ok parent => do
      Recorded.observed (.members members.length)
      if members.isEmpty then return .error (.noMembers entry.name)
      else return .ok (← Recorded.forEach members (Member.resolve parent graph registry))

end Conformance
