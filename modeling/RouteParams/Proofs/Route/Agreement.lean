import RouteParams.Proofs.Route.Alignment
import RouteParams.Proofs.Segment.Grammar

/-!
Where a pathname and a tree agree about a text. Both call it a group or neither does, and both give it a position
of the path or neither does, unless the text hides a group behind a marker: the tree sees an interception there,
which takes a position, and the pathname sees the group, which takes none.
-/
namespace RouteParams

/-- A marker leads the text and what stands behind the marker is a group. -/
def HidesGroup (text : String) : Prop :=
  ∃ (marker : Marker) (bare name : String), marker.Leads text.toList ∧ text = marker.text ++ bare ∧
    SegmentForm.Spells bare (.group name)

theorem SegmentForm.isGroup_iff {form : SegmentForm} : form.isGroup = true ↔ ∃ name, form = .group name := by
  cases form <;> simp [isGroup]

theorem SegmentForm.isGroup_ofText_iff {text : String} :
    (ofText text).isGroup = true ↔ ∃ name, Spells text (.group name) := by
  rw [isGroup_iff]
  constructor
  · rintro ⟨name, form⟩
    rcases spells_or_literal text with spells | literal
    · exact ⟨name, form ▸ spells⟩
    · cases form.symm.trans literal
  · rintro ⟨name, spells⟩
    exact ⟨name, ofText_of_spells spells⟩

theorem hidesGroup_iff {text : String} : HidesGroup text ↔
    (Marker.strip? text.toList).isSome = true ∧
      (SegmentForm.ofChars (Marker.stripped text.toList)).isGroup = true := by
  constructor
  · rintro ⟨marker, bare, name, leads, whole, grouped⟩
    rw [Marker.stripped, Marker.strip?_toList_eq_some_iff.2 ⟨leads, whole⟩]
    exact ⟨rfl, SegmentForm.isGroup_ofText_iff.2 ⟨name, grouped⟩⟩
  · rintro ⟨marked, grouped⟩
    obtain ⟨⟨marker, behind⟩, strips⟩ := Option.isSome_iff_exists.1 marked
    rw [Marker.stripped, strips] at grouped
    obtain ⟨bare, rfl⟩ : ∃ bare : String, behind = bare.toList := ⟨.ofList behind, String.toList_ofList.symm⟩
    obtain ⟨leads, whole⟩ := Marker.strip?_toList_eq_some_iff.1 strips
    obtain ⟨name, spells⟩ := SegmentForm.isGroup_ofText_iff.1 grouped
    exact ⟨marker, bare, name, leads, whole, spells⟩

theorem PathToken.kind_ofChars_eq_group_iff {text : List Char} :
    (ofChars text).kind = .group ↔ (SegmentForm.ofChars (Marker.stripped text)).isGroup = true := by
  rw [kind_ofChars, TokenKind.ofChars]
  cases SegmentForm.ofChars (Marker.stripped text) with
  | group name => exact ⟨fun _ => rfl, fun _ => rfl⟩
  | param kind name => simp [SegmentForm.isGroup]
  | root => dsimp only; split <;> simp [SegmentForm.isGroup]
  | interception marker name => dsimp only; split <;> simp [SegmentForm.isGroup]
  | literal other => dsimp only; split <;> simp [SegmentForm.isGroup]

/-- Without a marker both sides see the same text; behind one only the pathname can see a group. -/
theorem SegmentForm.isGroup_stripped_iff {text : String} :
    ((ofChars (Marker.stripped text.toList)).isGroup = true ↔ (ofText text).isGroup = true) ↔
      ¬HidesGroup text := by
  rw [hidesGroup_iff]
  cases strips : Marker.strip? text.toList with
  | none =>
    rw [Marker.stripped_of_unmarked strips, ofText]
    simp
  | some found =>
    have form : (ofText text).isGroup = false := by
      rw [ofText, ofChars_of_strip? strips]
      rfl
    simp [form]

/-- A pathname and a tree agree about a text, on whether it is a group and on whether it takes a position of the
path, exactly if the text hides no group. Parallel routes, which a tree writes as names of slots, are apart. -/
theorem agree_iff_not_hidesGroup {text : String} (nonempty : text ≠ "") :
    ∃ token, PathToken.ofText? text = some token ∧
      ((token.kind = .group ↔ (SegmentForm.ofText text).isGroup = true) ↔ ¬HidesGroup text) ∧
      ((Marker.stripped text.toList).head? ≠ some '@' →
        ((token.inPath = true ↔ (SegmentForm.ofText text).contribution = 1) ↔ ¬HidesGroup text)) := by
  refine ⟨.ofChars text.toList, by rw [PathToken.ofText?, if_neg nonempty], ?_, ?_⟩
  · rw [PathToken.kind_ofChars_eq_group_iff]
    exact SegmentForm.isGroup_stripped_iff
  · intro unslotted
    have filled : text.toList ≠ [] := fun empty => nonempty (String.toList_eq_nil_iff.1 empty)
    have takes : (SegmentForm.ofText text).contribution = 1 ↔
        ¬(SegmentForm.ofText text).isGroup = true := by
      rw [SegmentForm.ofText, SegmentForm.contribution_ofChars filled]
      cases (SegmentForm.ofChars text.toList).isGroup <;> decide
    rw [PathToken.inPath_ofChars unslotted, Bool.not_eq_true', ← Bool.not_eq_true, takes, not_iff_not]
    exact SegmentForm.isGroup_stripped_iff

/-- Dots in parentheses behind a marker are no group, so both sides take the text for one position. -/
theorem agree_on_dotted_parentheses :
    "(...)(.x)\n" ≠ "" ∧ ¬HidesGroup "(...)(.x)\n" ∧
      (Marker.stripped "(...)(.x)\n".toList).head? ≠ some '@' ∧
      ∃ token, PathToken.ofText? "(...)(.x)\n" = some token ∧
        (token.kind = .group ↔ (SegmentForm.ofText "(...)(.x)\n").isGroup = true) ∧
        (token.inPath = true ↔ (SegmentForm.ofText "(...)(.x)\n").contribution = 1) := by
  have nonempty : "(...)(.x)\n" ≠ "" := by decide
  have plain : ¬HidesGroup "(...)(.x)\n" := by
    rw [hidesGroup_iff]
    decide +kernel
  have unslotted : (Marker.stripped "(...)(.x)\n".toList).head? ≠ some '@' := by decide +kernel
  obtain ⟨token, reads, groups, positions⟩ := agree_iff_not_hidesGroup nonempty
  exact ⟨nonempty, plain, unslotted, token, reads, groups.2 plain, (positions unslotted).2 plain⟩

/-- The group behind a marker is a group without a position in the pathname, and an interception with one in the
tree. -/
theorem disagree_on_group_behind_marker :
    "(.)(shop)" ≠ "" ∧ '/' ∉ "(.)(shop)".toList ∧
      (Marker.stripped "(.)(shop)".toList).head? ≠ some '@' ∧
      ∃ token, PathToken.ofText? "(.)(shop)" = some token ∧
        ¬(token.kind = .group ↔ (SegmentForm.ofText "(.)(shop)").isGroup = true) ∧
        ¬(token.inPath = true ↔ (SegmentForm.ofText "(.)(shop)").contribution = 1) :=
  ⟨by decide, by decide +kernel, by decide +kernel, _, rfl, by decide +kernel, by decide +kernel⟩

end RouteParams
