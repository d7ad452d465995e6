import Mathlib.Data.List.Infix
import RouteParams.Proofs.Fallback.Keys
import RouteParams.Proofs.Text.Occurrence

/-!
The texts of search keys. A key holds a name as it is, between a stem and an id. An id of sixteen digits is found
in it at one place only, so keys are the same only if their names and ids are, and the key of one name stands in
the key of another only if the other name itself ends with the stem and the first name.
-/
namespace RouteParams

/-- An id is made of sixteen hexadecimal digits. -/
structure IsId (id : String) : Prop where
  length : id.toList.length = 16
  digits : ∀ c ∈ id.toList, (Text.hexValue? c).isSome = true

instance (id : String) : Decidable (IsId id) :=
  decidable_of_iff (id.toList.length = 16 ∧ (id.toList.all fun c => (Text.hexValue? c).isSome) = true)
    ⟨fun both => ⟨both.1, List.all_eq_true.1 both.2⟩, fun hex => ⟨hex.length, List.all_eq_true.2 hex.digits⟩⟩

theorem IsId.not_mem {id : String} (hex : IsId id) {c : Char} (other : Text.hexValue? c = none) :
    c ∉ id.toList := by
  intro inside
  have digit := hex.digits c inside
  rw [other] at digit
  cases digit

namespace SearchKey

def keyText (id name : String) : String :=
  "%%drp:" ++ name ++ ":" ++ id ++ "%%"

def stem : List Char := ['%', '%', 'd', 'r', 'p', ':']

variable {id id' name other : String}

theorem text_ofFallback (id : String) (fallback : Fallback) :
    (ofFallback id fallback).text = keyText id fallback.name :=
  rfl

theorem toList_keyText (id name : String) :
    (keyText id name).toList = stem ++ name.toList ++ [':'] ++ id.toList ++ ['%', '%'] := by
  simp only [keyText, String.toList_append]
  rfl

theorem keyText_inj (hex : IsId id) (hex' : IsId id') (same : keyText id name = keyText id' other) :
    name = other ∧ id = id' := by
  have texts := congrArg String.toList same
  rw [toList_keyText, toList_keyText] at texts
  obtain ⟨fronts, ids⟩ := List.append_inj' (List.append_cancel_right texts) (hex.length.trans hex'.length.symm)
  have names := List.append_cancel_left (List.append_cancel_right fronts)
  exact ⟨String.toList_inj.1 names, String.toList_inj.1 ids⟩

/-! ## The place of the id -/

theorem not_infix_of_short {part : List Char} (hex : IsId id) (short : part.length < 16) :
    ¬id.toList <:+: part := by
  intro inside
  have length := inside.length_le
  rw [hex.length] at length
  omega

theorem occurrences_eq_zero {needle text : List Char} (nonempty : needle ≠ []) (absent : ¬needle <:+: text) :
    Text.occurrences needle text = 0 := by
  rw [← Text.occurrences_pos_iff nonempty] at absent
  omega

/-- The id stands in the key once if it does not stand in the name. -/
theorem not_repeats_keyText (hex : IsId id) (absent : ¬id.toList <:+: name.toList) :
    ¬Text.Repeats id.toList (keyText id name).toList := by
  have colon : ':' ∉ id.toList := hex.not_mem (by decide)
  have nonempty : id.toList ≠ [] := List.ne_nil_of_length_pos (by rw [hex.length]; decide)
  have parts : (keyText id name).toList =
      ['%', '%', 'd', 'r', 'p'] ++ ':' :: (name.toList ++ ':' :: (id.toList ++ ['%', '%'])) := by
    rw [toList_keyText]
    simp only [stem, List.append_assoc, List.cons_append, List.nil_append]
  have once : ¬1 < Text.occurrences id.toList (id.toList ++ ['%', '%']) := by
    rw [Text.one_lt_occurrences_iff nonempty, Text.repeats_prefix_iff]
    exact not_infix_of_short hex (by decide)
  rw [← Text.one_lt_occurrences_iff nonempty, parts, Text.occurrences_separated colon nonempty,
    Text.occurrences_separated colon nonempty, occurrences_eq_zero nonempty absent,
    occurrences_eq_zero nonempty (not_infix_of_short hex (by decide))]
  omega

theorem cut?_keyText (hex : IsId id) {left right : List Char}
    (single : ¬Text.Repeats id.toList (left ++ [':'] ++ id.toList ++ right)) :
    Text.cut? id.toList (left ++ [':'] ++ id.toList ++ right) = some (left ++ [':'], right) :=
  Text.cut?_of_separated (hex.not_mem (by decide)) (.inr ⟨left, rfl⟩) single

/-! ## The place of the stem -/

/-- No part of the stem both ends and begins it. -/
theorem stem_border {part : List Char} (ends : part <:+ stem) (begins : part <+: stem) :
    part = [] ∨ part = stem := by
  have parts : ∀ part ∈ stem.tails, part <+: stem → part = [] ∨ part = stem := by decide
  exact parts part ((List.mem_tails part stem).2 ends) begins

theorem suffix_of_stems {left : List Char} {name other : List Char}
    (same : left ++ (stem ++ name) = stem ++ other) : name = other ∨ stem ++ name <:+ other := by
  rcases List.append_eq_append_iff.1 same with ⟨part, whole, rest⟩ | ⟨part, _, rest⟩
  · -- the second stem begins inside the first
    have begins : part <+: stem := by
      have short : part.length ≤ stem.length := (List.suffix_append left part).length_le.trans_eq (by rw [whole])
      exact List.prefix_of_prefix_length_le ⟨other, rest.symm⟩ (List.prefix_append stem name) short
    rcases stem_border ⟨left, whole.symm⟩ begins with rfl | rfl
    · exact .inr (rest ▸ List.suffix_refl _)
    · exact .inl (List.append_cancel_left rest)
  · exact .inr ⟨part, rest.symm⟩

/-- The key of a name stands in the key of another name only where that name ends with the stem and the first
name. -/
theorem keyText_infix_iff (hex : IsId id) (absent : ¬id.toList <:+: other.toList) :
    (keyText id name).toList <:+: (keyText id other).toList ↔
      name = other ∨ ("%%drp:" ++ name).toList <:+ other.toList := by
  have stemmed : ("%%drp:" ++ name).toList = stem ++ name.toList := String.toList_append
  rw [stemmed]
  constructor
  · rintro ⟨left, right, whole⟩
    -- the id stands in the outer key once, so the inner key is cut at the same place
    have single := not_repeats_keyText hex absent
    have first := cut?_keyText hex (toList_keyText id other ▸ single)
    have regrouped : left ++ (keyText id name).toList ++ right =
        left ++ (stem ++ name.toList) ++ [':'] ++ id.toList ++ (['%', '%'] ++ right) := by
      rw [toList_keyText]
      simp only [List.append_assoc]
    rw [← toList_keyText, ← whole, regrouped] at first
    rw [← whole, regrouped] at single
    have fronts := (Prod.mk.inj (Option.some.inj ((cut?_keyText hex single).symm.trans first))).1
    have stems := suffix_of_stems (List.append_cancel_right fronts)
    rwa [String.toList_inj] at stems
  · rintro (rfl | ⟨front, ends⟩)
    · exact List.infix_refl _
    · refine ⟨stem ++ front, [], ?_⟩
      rw [toList_keyText, toList_keyText, ← ends]
      simp only [List.append_assoc, List.append_nil]

/-- A key that is found in another key of its table shows that the other name ends with the stem and the name of
the first; other keys are never found in each other. -/
theorem found_within_iff {fallbacks : List Fallback} {supply : IdSupply} {keys : NameTable SearchKey}
    (assigned : (assign fallbacks supply).1 = some keys) (hex : IsId supply.draw.1)
    (absent : ∀ fallback ∈ fallbacks, ¬supply.draw.1.toList <:+: fallback.name.toList) :
    ∀ entry ∈ keys, ∀ other ∈ keys, entry.1 ≠ other.1 →
      (entry.2.text.toList <:+: other.2.text.toList ↔ ("%%drp:" ++ entry.1).toList <:+ other.1.toList) := by
  have nonempty : fallbacks ≠ [] := by
    rintro rfl
    cases assigned
  rw [assign_of_ne_nil nonempty, Option.some.injEq] at assigned
  subst assigned
  intro entry inside other among apart
  obtain ⟨first, _, rfl⟩ := mem_table inside
  obtain ⟨second, recorded, rfl⟩ := mem_table among
  rw [text_ofFallback, text_ofFallback, keyText_infix_iff hex (absent second recorded)]
  exact or_iff_right apart

/-- Of two names that hold the stem and end alike, one has the key of the short name in its key and the other has
not. -/
theorem found_within_of_stemmed_names :
    let fallbacks : List Fallback := [⟨"a", .dynamic⟩, ⟨"x%%drp:a", .catchAll⟩, ⟨"%%drp::a", .dynamic⟩]
    let supply : IdSupply := ⟨fun _ => "00000000000000ff", 7⟩
    let keys := table supply.draw.1 fallbacks
    (assign fallbacks supply).1 = some keys ∧ IsId supply.draw.1 ∧
      (∀ fallback ∈ fallbacks, ¬supply.draw.1.toList <:+: fallback.name.toList) ∧
      keys.names = ["a", "x%%drp:a", "%%drp::a"] ∧
      ∀ entry ∈ keys, entry.1 = "a" → ∀ other ∈ keys, other.1 ≠ "a" →
        (entry.2.text.toList <:+: other.2.text.toList ↔ other.1 = "x%%drp:a") := by
  intro fallbacks supply keys
  have hex : IsId supply.draw.1 := by decide
  have absent : ∀ fallback ∈ fallbacks, ¬supply.draw.1.toList <:+: fallback.name.toList := by decide
  have ends : ∀ name ∈ keys.names, ("%%drp:" ++ "a").toList <:+ name.toList ↔ name = "x%%drp:a" := by
    decide +kernel
  refine ⟨rfl, hex, absent, by decide, ?_⟩
  have within := @found_within_iff fallbacks supply keys rfl hex absent
  intro entry inside named other among apart
  rw [within entry inside other among (named ▸ apart.symm), named]
  exact ends other.1 (List.mem_map_of_mem among)

/-- The key of a name is found in the key of the name that puts the stem before it. Both may be names of
parameters, and the id stands in neither. -/
theorem found_within_stemmed_name :
    let fallbacks : List Fallback := [⟨"a", .dynamic⟩, ⟨"%%drp:a", .dynamic⟩]
    let id := IdSupply.fresh.draw.1
    (∀ fallback ∈ fallbacks, SegmentForm.isParamName fallback.name.toList = true) ∧ IsId id ∧
      (∀ fallback ∈ fallbacks, ¬id.toList <:+: fallback.name.toList) ∧
      ∃ keys, (assign fallbacks .fresh).1 = some keys ∧ ∃ entry ∈ keys, ∃ other ∈ keys,
        entry.1 ≠ other.1 ∧ entry.2.text.toList <:+: other.2.text.toList := by
  decide +kernel

end SearchKey
end RouteParams
