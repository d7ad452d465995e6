import RouteParams.Proofs.Text.Occurrence
import RouteParams.Segment.Basic

/-!
Stripping markers. The marker that leads a text is the longest one that the text begins with, and what
is left without it may be led by a marker again. The stages of a text are the text itself and what is
left of it after each marker.
-/
namespace RouteParams.Marker

/-- The text begins with the marker and with no longer one. -/
structure Leads (marker : Marker) (text : List Char) : Prop where
  begins : marker.chars <+: text
  longest : ∀ other : Marker, other.chars <+: text → other.chars.length ≤ marker.chars.length

variable {marker : Marker} {text bare : List Char}

theorem slash_not_mem_chars (marker : Marker) : '/' ∉ marker.chars := by
  cases marker <;> decide

theorem eq_of_length_eq {marker other : Marker}
    (same : marker.chars.length = other.chars.length) : marker = other := by
  revert same
  cases marker <;> cases other <;> decide

theorem mem_longestFirst (marker : Marker) : marker ∈ longestFirst := by
  cases marker <;> decide

theorem strip?_eq_none_iff : strip? text = none ↔ ∀ marker : Marker, ¬marker.chars <+: text := by
  simp only [strip?, List.findSome?_eq_none_iff, Option.map_eq_none_iff,
    Text.isPrefixOf?_eq_none_iff]
  constructor
  · exact fun absent marker => absent marker marker.mem_longestFirst
  · exact fun absent marker _ => absent marker

theorem leads_of_strip? (strips : strip? text = some (marker, bare)) :
    marker.Leads text ∧ marker.chars ++ bare = text := by
  obtain ⟨earlier, found, later, order, matched, missed⟩ := List.findSome?_eq_some_iff.1 strips
  obtain ⟨after, begins, same⟩ := Option.map_eq_some_iff.1 matched
  obtain ⟨rfl, rfl⟩ := Prod.mk.inj same
  have whole := Text.isPrefixOf?_eq_some begins
  refine ⟨⟨⟨after, whole⟩, ?_⟩, whole⟩
  intro other otherBegins
  have descends : longestFirst.Pairwise fun first second =>
      second.chars.length ≤ first.chars.length := by decide
  rw [order, List.pairwise_append] at descends
  have member := other.mem_longestFirst
  rw [order, List.mem_append] at member
  rcases member with before | behind
  · have absent := Text.isPrefixOf?_eq_none_iff.1 (Option.map_eq_none_iff.1 (missed other before))
    exact absurd otherBegins absent
  · rcases List.mem_cons.1 behind with rfl | behind
    · exact Nat.le_refl _
    · exact List.rel_of_pairwise_cons descends.2.1 behind

theorem strip?_eq_some_iff :
    strip? text = some (marker, bare) ↔ marker.Leads text ∧ marker.chars ++ bare = text := by
  constructor
  · exact leads_of_strip?
  · rintro ⟨leads, whole⟩
    cases strips : strip? text with
    | none => exact absurd leads.begins (strip?_eq_none_iff.1 strips marker)
    | some found =>
      obtain ⟨other, rest⟩ := found
      obtain ⟨otherLeads, otherWhole⟩ := leads_of_strip? strips
      have same : other = marker :=
        eq_of_length_eq (Nat.le_antisymm (leads.longest other otherLeads.begins)
          (otherLeads.longest marker leads.begins))
      subst same
      rw [List.append_cancel_left (otherWhole.trans whole.symm)]

theorem length_of_strip? (strips : strip? text = some (marker, bare)) :
    bare.length < text.length := by
  have whole := congrArg List.length (leads_of_strip? strips).2
  have nonempty := List.length_pos_iff.2 marker.chars_ne_nil
  rw [List.length_append] at whole
  omega

/-- What is left of a text without the marker that leads it, if one does. -/
def stripped (text : List Char) : List Char :=
  match strip? text with
  | some (_, bare) => bare
  | none => text

theorem stripped_of_unmarked (unmarked : strip? text = none) : stripped text = text := by
  rw [stripped, unmarked]

/-- A text and what is left of it as the markers that lead it are stripped one after another. -/
def stages (text : List Char) : List (List Char) :=
  text :: match strips : strip? text with
    | none => []
    | some (_, bare) =>
      have := length_of_strip? strips
      stages bare
termination_by text.length

theorem stages_of_unmarked (unmarked : strip? text = none) : stages text = [text] := by
  rw [stages]
  split
  · rfl
  · rename_i strips
    cases unmarked.symm.trans strips

theorem stages_of_strip? (strips : strip? text = some (marker, bare)) :
    stages text = text :: stages bare := by
  rw [stages]
  split
  · rename_i unmarked
    cases unmarked.symm.trans strips
  · rename_i strips'
    cases strips'.symm.trans strips
    rfl

theorem getElem?_stages_zero (text : List Char) : (stages text)[0]? = some text := by
  rw [stages]
  rfl

theorem getElem?_stages_succ {index : Nat} {stage : List Char}
    (reached : (stages text)[index + 1]? = some stage) :
    ∃ marker bare, strip? text = some (marker, bare) ∧ (stages bare)[index]? = some stage := by
  cases strips : strip? text with
  | none =>
    rw [stages_of_unmarked strips] at reached
    cases reached
  | some found =>
    rw [stages_of_strip? strips] at reached
    exact ⟨found.1, found.2, rfl, reached⟩

theorem suffix_of_mem_stages {stage : List Char} (reached : stage ∈ stages text) : stage <:+ text := by
  induction size : text.length using Nat.strongRecOn generalizing text with
  | ind size ih =>
    subst size
    cases strips : strip? text with
    | none =>
      rw [stages_of_unmarked strips, List.mem_singleton] at reached
      subst reached
      exact List.suffix_rfl
    | some found =>
      obtain ⟨marker, bare⟩ := found
      have behind : bare <:+ text := ⟨marker.chars, (leads_of_strip? strips).2⟩
      rw [stages_of_strip? strips] at reached
      rcases List.mem_cons.1 reached with rfl | later
      · exact List.suffix_rfl
      · exact (ih bare.length (length_of_strip? strips) later rfl).trans behind

end RouteParams.Marker
