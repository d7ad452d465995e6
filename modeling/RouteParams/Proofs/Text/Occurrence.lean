import Mathlib.Data.List.Basic
import RouteParams.Text.Search

/-!
Occurrences of a text in another. Occurrences are counted from the left, and the search goes on behind
each of them. A text can be cut at a needle exactly if the needle occurs in it without repeating there,
and an occurrence that begins behind a separator which the needle does not hold is where it is cut. On the
two sides of such a separator occurrences are counted apart.
-/
namespace RouteParams.Text

/-- How often the needle occurs in a text, counted from the left without overlap. -/
def occurrences (needle : List Char) : List Char → Nat
  | [] => 0
  | c :: rest =>
    if needle <+: c :: rest then occurrences needle (rest.drop (needle.length - 1)) + 1
    else occurrences needle rest
termination_by text => text.length
decreasing_by
  · rw [List.length_drop, List.length_cons]
    omega
  · exact Nat.lt_succ_self _

/-- The needle occurs at two places that do not overlap. -/
def Repeats (needle text : List Char) : Prop :=
  ∃ left middle right, text = left ++ needle ++ middle ++ needle ++ right

variable {needle text before after left right : List Char}

theorem Repeats.mono (repeats : Repeats needle text) (left right : List Char) :
    Repeats needle (left ++ text ++ right) := by
  obtain ⟨first, middle, last, rfl⟩ := repeats
  refine ⟨left ++ first, middle, last ++ right, ?_⟩
  simp only [List.append_assoc]

theorem repeats_of_infix_left (inside : needle <:+: left) :
    Repeats needle (left ++ needle ++ right) := by
  obtain ⟨first, middle, rfl⟩ := inside
  exact ⟨first, middle, right, rfl⟩

theorem repeats_of_infix_right (inside : needle <:+: right) :
    Repeats needle (left ++ needle ++ right) := by
  obtain ⟨middle, last, rfl⟩ := inside
  refine ⟨left, middle, last, ?_⟩
  simp only [List.append_assoc]

/-- Of two occurrences that do not overlap, the second one stands behind the first one of the text. -/
theorem repeats_prefix_iff : Repeats needle (needle ++ right) ↔ needle <:+: right := by
  constructor
  · rintro ⟨first, middle, last, same⟩
    have ends : middle ++ needle ++ last <:+ needle ++ right :=
      ⟨first ++ needle, by simp only [same, List.append_assoc]⟩
    have shorter : (middle ++ needle ++ last).length ≤ right.length := by
      have lengths := congrArg List.length same
      simp only [List.length_append] at lengths ⊢
      omega
    have inside := List.suffix_of_suffix_length_le ends (List.suffix_append needle right) shorter
    exact (List.infix_append middle needle last).trans inside.isInfix
  · intro inside
    obtain ⟨middle, last, rfl⟩ := inside
    refine ⟨[], middle, last, ?_⟩
    simp only [List.nil_append, List.append_assoc]

theorem repeats_cons_iff {c : Char} {rest : List Char} (absent : ¬needle <+: c :: rest) :
    Repeats needle (c :: rest) ↔ Repeats needle rest := by
  constructor
  · rintro ⟨first, middle, last, same⟩
    cases first with
    | nil =>
      refine absurd ⟨middle ++ needle ++ last, ?_⟩ absent
      simp only [same, List.nil_append, List.append_assoc]
    | cons d first =>
      simp only [List.cons_append, List.cons.injEq] at same
      exact ⟨first, middle, last, same.2⟩
  · intro repeats
    simpa using repeats.mono [c] []

/-! ## Counting -/

private theorem drop_of_prefix {c : Char} {rest : List Char} (nonempty : needle ≠ [])
    (begins : needle <+: c :: rest) : needle ++ rest.drop (needle.length - 1) = c :: rest := by
  obtain ⟨after, same⟩ := begins
  cases needle with
  | nil => exact absurd rfl nonempty
  | cons d needle =>
    simp only [List.cons_append, List.cons.injEq] at same ⊢
    obtain ⟨rfl, rfl⟩ := same
    simp

theorem occurrences_pos_iff (nonempty : needle ≠ []) (text : List Char) :
    0 < occurrences needle text ↔ needle <:+: text := by
  induction text with
  | nil => simp [occurrences, nonempty]
  | cons c rest ih =>
    rw [occurrences, List.infix_cons_iff]
    by_cases begins : needle <+: c :: rest
    · simp [begins]
    · rw [if_neg begins, ih]
      simp [begins]

theorem one_lt_occurrences_iff (nonempty : needle ≠ []) (text : List Char) :
    1 < occurrences needle text ↔ Repeats needle text := by
  induction text with
  | nil =>
    have none : ¬Repeats needle [] := by
      rintro ⟨first, middle, last, same⟩
      simp [nonempty] at same
    simp [occurrences, none]
  | cons c rest ih =>
    rw [occurrences]
    by_cases begins : needle <+: c :: rest
    · rw [if_pos begins, ← drop_of_prefix nonempty begins, repeats_prefix_iff,
        ← occurrences_pos_iff nonempty]
      omega
    · rw [if_neg begins, ih, repeats_cons_iff begins]

/-! ## Cutting -/

theorem isPrefixOf?_eq_none_iff : needle.isPrefixOf? text = none ↔ ¬needle <+: text := by
  constructor
  · rintro missing ⟨after, same⟩
    cases missing.symm.trans (List.isPrefixOf?_eq_some_iff_append_eq.2 same)
  · intro absent
    cases found : needle.isPrefixOf? text with
    | none => rfl
    | some after => exact absurd ⟨after, isPrefixOf?_eq_some found⟩ absent

theorem breakOn?_of_prefix (needle right : List Char) :
    breakOn? needle (needle ++ right) = some ([], right) := by
  have found : needle.isPrefixOf? (needle ++ right) = some right :=
    List.isPrefixOf?_eq_some_iff_append_eq.2 rfl
  rw [breakOn?.eq_def, found]

theorem breakOn?_cons {c : Char} {rest : List Char} (absent : ¬needle <+: c :: rest) :
    breakOn? needle (c :: rest) =
      (breakOn? needle rest).map fun parts => (c :: parts.1, parts.2) := by
  have missing : needle.isPrefixOf? (c :: rest) = none := isPrefixOf?_eq_none_iff.2 absent
  rw [breakOn?.eq_def, missing]

/-- A text breaks at the first occurrence of the needle. -/
theorem breakOn?_first (needle left right : List Char) :
    ∃ before after, breakOn? needle (left ++ needle ++ right) = some (before, after) ∧
      before.length ≤ left.length := by
  induction left with
  | nil => exact ⟨[], right, breakOn?_of_prefix needle right, Nat.le_refl 0⟩
  | cons c left ih =>
    simp only [List.cons_append]
    by_cases begins : needle <+: c :: (left ++ needle ++ right)
    · obtain ⟨after, same⟩ := begins
      rw [← same]
      exact ⟨[], after, breakOn?_of_prefix needle after, Nat.zero_le _⟩
    · obtain ⟨before, after, found, first⟩ := ih
      rw [breakOn?_cons begins, found]
      exact ⟨c :: before, after, rfl, Nat.succ_le_succ first⟩

theorem breakOn?_eq_none_iff : breakOn? needle text = none ↔ ¬needle <:+: text := by
  constructor
  · rintro missing ⟨left, right, rfl⟩
    obtain ⟨before, after, found, _⟩ := breakOn?_first needle left right
    cases missing.symm.trans found
  · intro absent
    cases found : breakOn? needle text with
    | none => rfl
    | some parts => exact absurd ⟨parts.1, parts.2, breakOn?_eq_some found⟩ absent

theorem not_repeats_of_cut? (parts : cut? needle text = some (before, after)) :
    ¬Repeats needle text := by
  rintro ⟨first, middle, last, rfl⟩
  obtain ⟨left, right, found, early⟩ := breakOn?_first needle first (middle ++ needle ++ last)
  have whole := breakOn?_eq_some found
  have ends : middle ++ needle ++ last <:+ right := by
    have shorter : (middle ++ needle ++ last).length ≤ right.length := by
      have lengths := congrArg List.length whole
      simp only [List.length_append] at lengths ⊢
      omega
    refine List.suffix_of_suffix_length_le ?_ ⟨left ++ needle, whole⟩ shorter
    exact ⟨first ++ needle, rfl⟩
  have again : (breakOn? needle right).isSome := by
    rw [Option.isSome_iff_ne_none, ne_eq, breakOn?_eq_none_iff, Classical.not_not]
    exact (List.infix_append middle needle last).trans ends.isInfix
  simp only [List.append_assoc] at found parts
  simp [cut?, found, again] at parts

private theorem separator_mem {separator : Char} {between : List Char}
    (separated : left = [] ∨ ∃ front, left = front ++ [separator])
    (ends : before ++ between = left) (nonempty : between ≠ []) : separator ∈ between := by
  obtain ⟨front, last, rfl⟩ := (List.eq_nil_or_concat' between).resolve_left nonempty
  rcases separated with rfl | ⟨earlier, rfl⟩
  · simp at ends
  · have same := congrArg List.getLast? ends
    rw [← List.append_assoc, List.getLast?_concat, List.getLast?_concat] at same
    cases same
    exact List.mem_append_right front List.mem_cons_self

/-- A text is cut at an occurrence that does not repeat and that begins the text or stands behind a
separator: an occurrence before this one would repeat it or hold the separator. -/
theorem cut?_of_separated {separator : Char} (absent : separator ∉ needle)
    (separated : left = [] ∨ ∃ front, left = front ++ [separator])
    (single : ¬Repeats needle (left ++ needle ++ right)) :
    cut? needle (left ++ needle ++ right) = some (left, right) := by
  obtain ⟨before, after, found, early⟩ := breakOn?_first needle left right
  have whole := breakOn?_eq_some found
  have begins : before <+: left := by
    have inside : before <+: left ++ needle ++ right :=
      ⟨needle ++ after, by rw [← List.append_assoc, whole]⟩
    rw [List.append_assoc] at inside
    exact List.prefix_of_prefix_length_le inside (List.prefix_append _ _) early
  obtain ⟨between, ends⟩ := begins
  have nothing : between = [] := by
    by_contra nonempty
    have holds := separator_mem separated ends nonempty
    have overlap : needle ++ after = between ++ (needle ++ right) := by
      rw [← ends] at whole
      simp only [List.append_assoc] at whole
      exact List.append_cancel_left whole
    -- The first occurrence ends before this one begins, or it runs over the separator in between.
    rcases List.append_eq_append_iff.1 overlap with ⟨middle, repeated, _⟩ | ⟨rest, within, _⟩
    · exact single (repeats_of_infix_left ⟨before, middle, by rw [← ends, repeated]; simp⟩)
    · rw [within] at absent
      exact absent (List.mem_append_left rest holds)
  rw [nothing, List.append_nil] at ends
  subst ends
  have rest : after = right := List.append_cancel_left whole
  have once : breakOn? needle right = none := by
    rw [breakOn?_eq_none_iff]
    intro inside
    exact single (repeats_of_infix_right inside)
  rw [cut?, found, rest]
  simp [once]

/-! ## Texts with a separator between them -/

theorem prefix_separated_iff {separator : Char} (absent : separator ∉ needle) :
    needle <+: left ++ separator :: right ↔ needle <+: left := by
  constructor
  · intro begins
    rcases List.prefix_or_prefix_of_prefix begins (List.prefix_append left _) with
      within | ⟨rest, longer⟩
    · exact within
    -- A needle that goes on behind the left text would hold the separator.
    · rw [← longer] at begins absent ⊢
      rcases List.prefix_cons_iff.1 ((List.prefix_append_right_inj left).1 begins) with
        nothing | ⟨others, holds, _⟩
      · simp [nothing]
      · rw [holds] at absent
        exact absurd (List.mem_append_right left List.mem_cons_self) absent
  · intro begins
    exact begins.trans (List.prefix_append left _)

/-- A needle that does not hold the separator occurs on either side of it, and nowhere across. -/
theorem occurrences_separated {separator : Char} (absent : separator ∉ needle)
    (nonempty : needle ≠ []) (left right : List Char) :
    occurrences needle (left ++ separator :: right) =
      occurrences needle left + occurrences needle right := by
  induction left using occurrences.induct needle with
  | case1 =>
    have outside : ¬needle <+: separator :: right := by
      intro begins
      have nothing := List.prefix_nil.1 ((prefix_separated_iff absent).1 begins)
      exact nonempty nothing
    rw [List.nil_append, occurrences.eq_def needle (separator :: right)]
    simp only [if_neg outside, occurrences, Nat.zero_add]
  | case2 c rest begins ih =>
    have begins' : needle <+: c :: (rest ++ separator :: right) :=
      (prefix_separated_iff absent).2 begins
    have fits : needle.length - 1 ≤ rest.length := by
      have shorter := begins.length_le
      rw [List.length_cons] at shorter
      omega
    rw [List.cons_append, occurrences, if_pos begins', List.drop_append_of_le_length fits, ih,
      occurrences, if_pos begins, Nat.add_right_comm]
  | case3 c rest outside ih =>
    have outside' : ¬needle <+: c :: (rest ++ separator :: right) :=
      fun begins => outside ((prefix_separated_iff absent).1 begins)
    rw [List.cons_append, occurrences, if_neg outside', ih, occurrences, if_neg outside]

end RouteParams.Text
