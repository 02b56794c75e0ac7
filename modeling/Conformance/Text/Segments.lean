/-!
# Cutting text at separators

`segments` cuts at every separator and keeps empty segments; items are cut where their
spellings are (`segments_flatMap`). `cutLast?` cuts at the last double colon. Which one is
the last is told by what follows its first colon (`cutLast?_eq_some_iff`), and every other
one leaves more behind it (`cutLast?_shortest`).
-/

namespace Conformance.Text

variable {α β : Type} [DecidableEq α] [DecidableEq β]

/-- The maximal runs of items between separators, first to last. There is always at least one, and
the number of separators is one less than the number of segments. -/
def segments (separator : α) : List α → List (List α)
  | [] => [[]]
  | c :: rest =>
    match segments separator rest with
    | [] => [[c]]
    | first :: others => if c = separator then [] :: first :: others else (c :: first) :: others

/-- The segments of a text between separators. -/
def split (separator : Char) (text : String) : List String :=
  (segments separator text.toList).map String.ofList

/-- Cuts at the last double colon: what stands before it and what stands after it. Overlapping
occurrences count, so the last of them leaves the shortest remainder. -/
def cutLast? : List Char → Option (List Char × List Char)
  | [] => none
  | c :: rest =>
    match cutLast? rest with
    | some (front, back) => some (c :: front, back)
    | none =>
      match c, rest with
      | ':', ':' :: back => some ([], back)
      | _, _ => none

/-- There is always a segment. -/
theorem segments_ne_nil (separator : α) (items : List α) : segments separator items ≠ [] := by
  induction items with
  | nil => simp [segments]
  | cons c rest inductionHypothesis =>
    simp only [segments]
    split
    · simp
    · split <;> simp

/-- What holds no separator goes on the first segment of what follows it. -/
theorem segments_append (separator : α) (front back : List α) (whole : separator ∉ front) :
    segments separator (front ++ back) = (segments separator back).modifyHead (front ++ ·) := by
  induction front with
  | nil =>
    rw [List.nil_append]
    cases segments separator back <;> rfl
  | cons c rest inductionHypothesis =>
    obtain ⟨different, restWhole⟩ := List.ne_and_not_mem_of_not_mem_cons whole
    rw [List.cons_append, segments, inductionHypothesis restWhole]
    cases cut : segments separator back with
    | nil => exact absurd cut (segments_ne_nil separator back)
    | cons first others => simp [different.symm]

/-- Items are cut where their spellings are, if only the separator's spelling has a separator, and
nothing else. -/
theorem segments_flatMap (spell : α → List β) (separator : α) (spelled : β)
    (alone : spell separator = [spelled]) (whole : ∀ item ≠ separator, spelled ∉ spell item)
    (items : List α) :
    segments spelled (items.flatMap spell) =
      (segments separator items).map fun segment => segment.flatMap spell := by
  induction items with
  | nil => rfl
  | cons item rest inductionHypothesis =>
    rw [List.flatMap_cons, segments]
    -- the spelling of any item but the separator goes on the segment behind it
    by_cases separates : item = separator
    · subst separates
      rw [alone, List.singleton_append, segments, inductionHypothesis]
      cases cut : segments item rest with
      | nil => exact absurd cut (segments_ne_nil item rest)
      | cons first others => simp
    · rw [segments_append _ _ _ (whole item separates), inductionHypothesis]
      cases cut : segments separator rest with
      | nil => exact absurd cut (segments_ne_nil separator rest)
      | cons first others => simp [separates]

/-- Nothing is cut exactly where no two colons follow each other. -/
theorem cutLast?_eq_none_iff (chars : List Char) :
    cutLast? chars = none ↔ ¬ [':', ':'] <:+: chars := by
  fun_induction cutLast? chars with
  | case1 => simp
  | case2 c rest front back later inductionHypothesis =>
    have within : [':', ':'] <:+: rest := by simpa [later] using inductionHypothesis
    exact iff_of_false nofun (not_not_intro (List.infix_cons within))
  | case3 back last _ => exact iff_of_false nofun (not_not_intro ⟨[], back, rfl⟩)
  | case4 c rest last elsewhere inductionHypothesis =>
    refine iff_of_true rfl fun within => ?_
    rcases List.infix_cons_iff.mp within with ⟨back, here⟩ | later
    · injection here with colon here
      exact elsewhere back colon.symm here.symm
    · exact inductionHypothesis.mp last later

/-- Text is cut around two colons behind which no other two follow each other, not even the second
of them and the next. -/
theorem cutLast?_eq_some_iff (chars front back : List Char) :
    cutLast? chars = some (front, back) ↔
      chars = front ++ ':' :: ':' :: back ∧ ¬ [':', ':'] <:+: ':' :: back := by
  constructor
  · intro cut
    fun_induction cutLast? chars generalizing front with
    | case1 => cases cut
    | case2 c rest before after later inductionHypothesis =>
      obtain ⟨rfl, rfl⟩ := Prod.mk.inj (Option.some.inj cut)
      obtain ⟨rfl, bare⟩ := inductionHypothesis before later
      exact ⟨rfl, bare⟩
    | case3 rest last _ =>
      obtain ⟨rfl, rfl⟩ := Prod.mk.inj (Option.some.inj cut)
      exact ⟨rfl, (cutLast?_eq_none_iff _).mp last⟩
    | case4 => cases cut
  · rintro ⟨rfl, bare⟩
    induction front with
    | nil =>
      have last : cutLast? (':' :: back) = none := (cutLast?_eq_none_iff _).mpr bare
      rw [List.nil_append, cutLast?, last]
    | cons c front inductionHypothesis =>
      simp only [List.cons_append, cutLast?, inductionHypothesis]

/-- Two colons in another place leave more behind them, and it ends in what the last two leave. If
they left less, they would stand behind the first colon of the last two. -/
theorem cutLast?_shortest (path simple front back : List Char)
    (cut : cutLast? (path ++ ':' :: ':' :: simple) = some (front, back)) :
    (path = front ∧ simple = back) ∨ ∃ more, more ≠ [] ∧ simple = more ++ back := by
  obtain ⟨whole, bare⟩ := (cutLast?_eq_some_iff _ _ _).mp cut
  have own : ':' :: back <:+ path ++ ':' :: ':' :: simple := ⟨front ++ [':'], by simp [whole]⟩
  have noShorter : back.length ≤ simple.length := by
    by_cases shorter : simple.length < back.length
    · have within : ':' :: ':' :: simple <:+ ':' :: back :=
        List.suffix_of_suffix_length_le (List.suffix_append path _) own (Nat.succ_le_succ shorter)
      exact absurd (List.IsInfix.trans ⟨[], simple, rfl⟩ within.isInfix) bare
    · exact Nat.not_lt.mp shorter
  obtain ⟨more, rfl⟩ : back <:+ simple :=
    List.suffix_of_suffix_length_le ((List.suffix_cons ':' back).trans own)
      ⟨path ++ [':', ':'], by simp⟩ noShorter
  by_cases nothing : more = []
  · subst nothing
    exact .inl ⟨List.append_cancel_right whole, rfl⟩
  · exact .inr ⟨more, nothing, rfl⟩

end Conformance.Text
