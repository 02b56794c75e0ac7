import Conformance.Proofs.SkipLists

/-!
# Texts merged into settings

A comma-separated text that is merged into settings adds to the declaring types left out.
What was there stays as it is; behind it come the listed names that are new, each at its
first occurrence. New is what differs from every entry when the blanks around both are
dropped.

Names are added segment by segment, so a merge may be interrupted between any two segments
(`addSkipped_append`). A comma between two texts ends a segment of its own (`split_comma`),
so merging one text and then another is merging both with a comma between them. What a text
lists is there once it is merged, so merging it again adds nothing.

Main statement: `Settings.merge_stable_union`.
-/

namespace Conformance

/-! ## Segments -/

namespace Text

/-- The segments of a text are what it is split into at each separator. -/
theorem segments_eq_splitOn (separator : Char) (chars : List Char) :
    segments separator chars = chars.splitOn separator := by
  induction chars with
  | nil => rfl
  | cons c rest inductionHypothesis =>
    rw [List.splitOn, List.splitOnP_cons_eq_if_modifyHead, ← List.splitOn, segments,
      ← inductionHypothesis]
    cases cut : segments separator rest with
    | nil => exact absurd cut (segments_ne_nil separator rest)
    | cons first others =>
      by_cases same : c = separator <;> simp [same]

/-- The segments of two texts with a comma between them are those of the one and then those of the
other. -/
theorem split_comma (front back : String) :
    split ',' (front ++ "," ++ back) = split ',' front ++ split ',' back := by
  have chars : (front ++ "," ++ back).toList = front.toList ++ ',' :: back.toList := by simp
  simp only [split, segments_eq_splitOn, chars, List.splitOn, ← List.map_append]
  exact congrArg _ (List.splitOnP_append_cons front.toList back.toList (beq_self_eq_true ','))

end Text

namespace Settings

/-! ## Merges after one another -/

/-- Segments can be added in two turns. -/
theorem addSkipped_append (existing front back : List String) :
    addSkipped existing (front ++ back) = addSkipped (addSkipped existing front) back := by
  induction front generalizing existing with
  | nil => rfl
  | cons segment rest inductionHypothesis =>
    rw [List.cons_append, addSkipped, addSkipped]
    split
    · exact inductionHypothesis existing
    · exact inductionHypothesis _

variable (settings : Settings)

/-- The names that a text adds: the first occurrence of each listed one that is new. -/
def added (raw : String) : List String :=
  (SkipList.named raw).eraseDups.filter
    fun name => decide (name ∉ settings.discovery.skipClasses.map Text.trim)

/-- A text adds the names that it lists and that are not left out yet. -/
theorem mem_added_iff (raw name : String) : name ∈ settings.added raw ↔
    name ∈ SkipList.named raw ∧ name ∉ settings.discovery.skipClasses.map Text.trim := by
  rw [added, List.mem_filter, List.mem_eraseDups, decide_eq_true_eq]

/-- Merging keeps what is left out and puts behind it what the text adds. -/
theorem mergedSkipClasses_eq (raw : String) : settings.mergedSkipClasses raw =
    settings.discovery.skipClasses ++ settings.added raw := settings.skipClasses_merged raw

/-- Each name that is added is logged. -/
theorem mergeSkipClasses_eq (raw : String) : settings.mergeSkipClasses raw =
    ⟨settings.merged raw,
      (settings.added raw).map fun name => ⟨.debug, "skip class " ++ name⟩, []⟩ := by
  rw [merged, mergeSkipClasses, mergedSkipClasses_eq, List.drop_left]

/-- A text adds nothing where all that it lists is there. -/
theorem mergeSkipClasses_of_known (raw : String) (known : ∀ name ∈ SkipList.named raw,
    name ∈ settings.discovery.skipClasses.map Text.trim) :
    settings.mergeSkipClasses raw = .silent settings := by
  have nothing : settings.added raw = [] := by
    refine List.eq_nil_iff_forall_not_mem.mpr fun name member => ?_
    obtain ⟨listed, new⟩ := (settings.mem_added_iff raw name).mp member
    exact new (known name listed)
  rw [mergeSkipClasses_eq, merged, mergeSkipClasses, mergedSkipClasses_eq, nothing,
    List.append_nil]
  rfl

/-- What a text lists is there once it is merged. -/
theorem known_of_merged (raw name : String) (listed : name ∈ SkipList.named raw) :
    name ∈ (settings.merged raw).discovery.skipClasses.map Text.trim := by
  have merged : ⟨name⟩ ∈ (settings.merged raw).skipList :=
    (settings.mem_skipList_merged raw ⟨name⟩).mpr (.inr listed)
  rw [skipList, SortedSet.mem_ofList, List.mem_map] at merged
  obtain ⟨entry, member, same⟩ := merged
  exact List.mem_map.mpr ⟨entry, member, congrArg Name.text same⟩

variable (first second : String)

/-- Two merges leave out what one merge of both texts does. -/
theorem mergedSkipClasses_comma : (settings.merged first).mergedSkipClasses second =
    settings.mergedSkipClasses (first ++ "," ++ second) := by
  rw [mergedSkipClasses, mergedSkipClasses, Text.split_comma, addSkipped_append]
  rfl

/-- Merging two texts, one after the other, is merging both with a comma between them. -/
theorem merged_merged :
    (settings.merged first).merged second = settings.merged (first ++ "," ++ second) := by
  rw [merged, mergeSkipClasses, mergedSkipClasses_comma]
  rfl

/-- What two texts add is what the first adds and then what the second does. -/
theorem added_comma : settings.added (first ++ "," ++ second) =
    settings.added first ++ (settings.merged first).added second := by
  have names : (settings.merged first).discovery.skipClasses =
      settings.discovery.skipClasses ++ settings.added first := settings.mergedSkipClasses_eq first
  have both := settings.mergedSkipClasses_comma first second
  rw [mergedSkipClasses_eq, mergedSkipClasses_eq, names, List.append_assoc] at both
  exact (List.append_cancel_left both).symm

/-- What merging one text, and another after it, makes of settings. -/
structure Merges : Prop where
  /-- The entries stay in front, as they are. Behind them stand, each once and in the order of their
  first occurrences, the segments that are not blank and equal no entry, trimmed. -/
  appends : ∃ new, (settings.merged first).discovery.skipClasses =
      settings.discovery.skipClasses ++ new ∧ new.Nodup ∧
    (∀ name, name ∈ new ↔ (∃ segment ∈ Text.split ',' first, Text.trim segment = name) ∧
      name ≠ "" ∧ ∀ entry ∈ settings.discovery.skipClasses, Text.trim entry ≠ name) ∧
    new.Pairwise fun earlier later =>
      (SkipList.named first).idxOf earlier < (SkipList.named first).idxOf later
  /-- Nothing but the declaring types to leave out changes. -/
  frame : settings.merged first = { settings with discovery := { settings.discovery with
    skipClasses := (settings.merged first).discovery.skipClasses } }
  /-- The same text once more changes nothing, and nothing is logged. -/
  idempotent : (settings.merged first).mergeSkipClasses first = .silent (settings.merged first)
  /-- Two merges are one merge of both texts with a comma between them, and log the same. -/
  composes : (settings.mergeSkipClasses first >>= fun merged => merged.mergeSkipClasses second) =
    settings.mergeSkipClasses (first ++ "," ++ second)
  /-- The skip list does not tell the order of two merges. -/
  commutes : ((settings.merged first).merged second).skipList =
    ((settings.merged second).merged first).skipList

/-- Merging is a stable union: it keeps what is there, adds what is new in the order in which it is
listed, and looks at each name once, however the texts are divided and repeated. -/
theorem merge_stable_union : settings.Merges first second := by
  constructor
  case appends =>
    have kept : (settings.added first).Sublist (SkipList.named first).eraseDups :=
      List.filter_sublist
    refine ⟨settings.added first, settings.skipClasses_merged first,
      (nodup_eraseDups _).sublist kept, fun name => ?_, (eraseDups_inOrder _).sublist kept⟩
    simp [mem_added_iff, SkipList.named, and_assoc]
  case frame => rfl
  case idempotent =>
    exact (settings.merged first).mergeSkipClasses_of_known first (settings.known_of_merged first)
  case composes =>
    rw [mergeSkipClasses_eq, mergeSkipClasses_eq, ← merged_merged, added_comma, List.map_append]
    simp only [bind, Recorded.andThen, mergeSkipClasses_eq, List.append_nil]
  case commutes =>
    apply SortedSet.ext
    intro name
    simp only [mem_skipList_merged]
    exact or_right_comm

example : let settings : Settings := { discovery := { skipClasses := [" demo::Old "] } }
    (settings.merged "demo::New ,,demo::Old,demo::New").discovery.skipClasses =
      [" demo::Old ", "demo::New"] := by
  decide +kernel

end Settings

end Conformance
