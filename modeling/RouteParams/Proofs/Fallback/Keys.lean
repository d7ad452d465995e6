import Mathlib.Data.List.Induction
import RouteParams.Fallback.SearchKey
import RouteParams.Proofs.Resolution.Repetition

/-!
The keys of fallbacks. A table of keys has one entry for every name among the fallbacks, at the place and
with the kind of the first record of the name.
-/
namespace RouteParams

namespace ParamKind

/-- The letters that stand for the kind beside a key. -/
def letters : ParamKind → String
  | .dynamic => "d"
  | .catchAll => "c"
  | .optionalCatchAll => "oc"

theorem code_eq_letters (kind : ParamKind) : kind.code = kind.letters := by
  cases kind <;> rfl

end ParamKind

namespace Fallback

/-- The fallback's name with the letters that stand beside its key. -/
def coded (fallback : Fallback) : String × String :=
  (fallback.name, fallback.kind.letters)

theorem firsts_eq_nil_iff {fallbacks : List Fallback} : firsts fallbacks = [] ↔ fallbacks = [] := by
  cases fallbacks with
  | nil => exact ⟨fun _ => rfl, fun _ => rfl⟩
  | cons fallback rest => simp [firsts_cons]

theorem any_name_firsts (name : String) (fallbacks : List Fallback) :
    (firsts fallbacks).any (fun fallback => fallback.name == name) =
      fallbacks.any fun fallback => fallback.name == name := by
  induction fallbacks using List.reverseRecOn with
  | nil => rfl
  | append_singleton fallbacks last ih =>
    rw [firsts_append, List.any_append, List.any_cons, List.any_nil, Bool.or_false]
    by_cases repeated : fallbacks.any (fun earlier => earlier.name == last.name) = true
    · rw [if_pos repeated, ih]
      by_cases same : last.name = name
      · rw [← same, repeated, Bool.true_or]
      · rw [beq_false_of_ne same, Bool.or_false]
    · rw [if_neg repeated, List.any_append, List.any_cons, List.any_nil, Bool.or_false, ih]

/-- The first records of two lists together are those of the one and those of the names that only the
other has. -/
theorem firsts_append_list (first second : List Fallback) :
    firsts (first ++ second) = firsts first ++
      firsts (second.filter fun later => !first.any fun earlier => earlier.name == later.name) := by
  induction second using List.reverseRecOn with
  | nil => rw [List.append_nil, List.filter_nil, firsts_eq_nil_iff.2 rfl, List.append_nil]
  | append_singleton second last ih =>
    rw [← List.append_assoc, firsts_append, ih, List.any_append, List.filter_append]
    by_cases declared : first.any (fun earlier => earlier.name == last.name) = true
    · rw [List.filter_cons_of_neg (by simp [declared]), List.filter_nil, List.append_nil, declared,
        Bool.true_or, if_pos rfl]
    · have others : (second.filter fun later =>
            !first.any fun earlier => earlier.name == later.name).any
            (fun earlier => earlier.name == last.name) =
          second.any fun earlier => earlier.name == last.name := by
        rw [List.any_filter]
        congr 1
        funext earlier
        by_cases same : earlier.name = last.name
        · rw [same, Bool.eq_false_iff.2 declared, Bool.not_false, Bool.true_and]
        · rw [beq_false_of_ne same, Bool.and_false]
      rw [List.filter_cons_of_pos (by simp [declared]), List.filter_nil, firsts_append, others,
        Bool.eq_false_iff.2 declared, Bool.false_or]
      split
      · rfl
      · rw [List.append_assoc]

end Fallback

namespace SearchKey

open Fallback

theorem table_append (id : String) (fallbacks : List Fallback) (last : Fallback) :
    table id (fallbacks ++ [last]) = add id (table id fallbacks) last := by
  rw [table, List.foldl_append]
  rfl

theorem table_eq_firsts (id : String) (fallbacks : List Fallback) :
    table id fallbacks =
      (firsts fallbacks).map fun fallback => (fallback.name, ofFallback id fallback) := by
  induction fallbacks using List.reverseRecOn with
  | nil => rfl
  | append_singleton fallbacks last ih =>
    have present : (table id fallbacks).has last.name =
        fallbacks.any fun earlier => earlier.name == last.name := by
      rw [ih, NameTable.has, List.any_map]
      exact any_name_firsts last.name fallbacks
    rw [table_append, add, present, firsts_append]
    by_cases repeated : fallbacks.any (fun earlier => earlier.name == last.name) = true
    · rw [if_pos repeated, if_pos repeated, ih]
    · rw [if_neg repeated, if_neg repeated, ih, List.map_append]
      rfl

/-- The names of a table of keys with the codes beside them, in order. -/
def codes (keys : NameTable SearchKey) : List (String × String) :=
  keys.map fun entry => (entry.1, entry.2.code)

theorem codes_table (id : String) (fallbacks : List Fallback) :
    codes (table id fallbacks) = (firsts fallbacks).map coded := by
  rw [codes, table_eq_firsts, List.map_map]
  exact List.map_congr_left fun fallback _ => congrArg (fallback.name, ·) fallback.kind.code_eq_letters

theorem mem_table {id : String} {fallbacks : List Fallback} {entry : String × SearchKey}
    (inside : entry ∈ table id fallbacks) :
    ∃ fallback ∈ fallbacks, entry = (fallback.name, ofFallback id fallback) := by
  induction fallbacks using List.reverseRecOn with
  | nil => cases inside
  | append_singleton fallbacks last ih =>
    have earlier (before : entry ∈ table id fallbacks) :
        ∃ fallback ∈ fallbacks ++ [last], entry = (fallback.name, ofFallback id fallback) := by
      obtain ⟨fallback, recorded, same⟩ := ih before
      exact ⟨fallback, List.mem_append_left _ recorded, same⟩
    rw [table_append, add] at inside
    split at inside
    · exact earlier inside
    · rcases List.mem_append.1 inside with before | newest
      · exact earlier before
      · exact ⟨last, List.mem_concat_self, List.mem_singleton.1 newest⟩

theorem assign_eq_of_ne_nil {fallbacks : List Fallback} (nonempty : fallbacks ≠ []) (supply : IdSupply) :
    assign fallbacks supply = (some (table supply.draw.1 fallbacks), supply.draw.2) := by
  cases fallbacks with
  | nil => exact absurd rfl nonempty
  | cons fallback rest => rfl

theorem assign_of_ne_nil {fallbacks : List Fallback} (nonempty : fallbacks ≠ []) (supply : IdSupply) :
    (assign fallbacks supply).1 = some (table supply.draw.1 fallbacks) := by
  rw [assign_eq_of_ne_nil nonempty]

/-- The codes of the keys that are assigned depend on the first records only. -/
theorem codes_assign (fallbacks : List Fallback) (supply : IdSupply) :
    (assign fallbacks supply).1.map codes =
      if firsts fallbacks = [] then none else some ((firsts fallbacks).map coded) := by
  by_cases empty : fallbacks = []
  · rw [empty]
    rfl
  · rw [assign_of_ne_nil empty, Option.map_some, codes_table,
      if_neg (mt firsts_eq_nil_iff.1 empty)]

end SearchKey
end RouteParams
