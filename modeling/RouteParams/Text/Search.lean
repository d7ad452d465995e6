/-!
Finding a text inside another. A text is cut at a needle when the needle occurs in it exactly once,
counting occurrences from the left without overlap.
-/
namespace RouteParams.Text

/-- What stands before and after the first occurrence of the needle. -/
def breakOn? (needle text : List Char) : Option (List Char × List Char) :=
  match needle.isPrefixOf? text, text with
  | some after, _ => some ([], after)
  | none, [] => none
  | none, c :: rest => (breakOn? needle rest).map fun parts => (c :: parts.1, parts.2)

/-- What stands before and after the only occurrence of the needle. -/
def cut? (needle text : List Char) : Option (List Char × List Char) :=
  match breakOn? needle text with
  | none => none
  | some (before, after) => if (breakOn? needle after).isSome then none else some (before, after)

theorem isPrefixOf?_eq_some {needle text after : List Char}
    (h : needle.isPrefixOf? text = some after) : needle ++ after = text := by
  induction needle generalizing text with
  | nil => exact (Option.some.inj h).symm
  | cons c needle ih =>
    cases text with
    | nil =>
      change none = some after at h
      cases h
    | cons d text =>
      change (if c == d then needle.isPrefixOf? text else none) = some after at h
      by_cases same : c = d
      · subst same
        rw [if_pos (beq_self_eq_true c)] at h
        rw [List.cons_append, ih h]
      · rw [if_neg (by simpa using same)] at h
        cases h

theorem breakOn?_eq_some {needle text before after : List Char}
    (h : breakOn? needle text = some (before, after)) : before ++ needle ++ after = text := by
  induction text generalizing before after with
  | nil =>
    unfold breakOn? at h
    split at h
    · rename_i found
      simp only [Option.some.injEq, Prod.mk.injEq] at h
      obtain ⟨rfl, rfl⟩ := h
      simpa using isPrefixOf?_eq_some found
    · simp at h
    · simp_all
  | cons c rest ih =>
    unfold breakOn? at h
    split at h
    · rename_i found
      simp only [Option.some.injEq, Prod.mk.injEq] at h
      obtain ⟨rfl, rfl⟩ := h
      simpa using isPrefixOf?_eq_some found
    · simp_all
    · rename_i d tail _ same
      obtain ⟨rfl, rfl⟩ := List.cons.inj same
      simp only [Option.map_eq_some_iff, Prod.mk.injEq, Prod.exists] at h
      obtain ⟨left, right, found, rfl, rfl⟩ := h
      simp [← ih found]

theorem cut?_eq_some {needle text before after : List Char}
    (h : cut? needle text = some (before, after)) : before ++ needle ++ after = text := by
  unfold cut? at h
  split at h
  · simp at h
  · rename_i found
    split at h
    · simp at h
    · simp only [Option.some.injEq, Prod.mk.injEq] at h
      obtain ⟨rfl, rfl⟩ := h
      exact breakOn?_eq_some found

end RouteParams.Text
