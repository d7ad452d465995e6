import Mathlib.Data.List.Induction
import Mathlib.Data.List.Nodup
import RouteParams.NameTable

/-!
Tables that are written entry by entry. An entry whose name is new goes to the end, and any other replaces a
value in place, so the table holds each name at the place of its first entry and with the value of its last.
-/
namespace RouteParams.NameTable

variable {α : Type} {name other : String} {value : α} {entries : List (String × α)}

/-- The table holds every name of the entries once, in the order of their first entries, and under each name
the value of its last entry. -/
structure Gathers (entries : List (String × α)) (table : NameTable α) : Prop where
  names : names table = (names entries).eraseDups
  values : ∀ name, table.lookup name = entries.reverse.lookup name

theorem names_put (table : NameTable α) : names (put name value table) =
    if name ∈ names table then names table else names table ++ [name] := by
  split
  · rename_i present
    induction table with
    | nil => cases present
    | cons entry rest ih =>
      rw [put]
      split
      · rename_i here
        rw [names, names, List.map_cons, List.map_cons, here]
      · rename_i elsewhere
        have later := (List.mem_cons.1 present).resolve_left fun same => elsewhere same.symm
        exact congrArg (entry.1 :: ·) (ih later)
  · rename_i fresh
    rw [put_of_not_mem fresh, names, List.map_append]
    rfl

theorem lookup_entry (entry : String × α) (table : NameTable α) :
    List.lookup other (entry :: table) = if other = entry.1 then some entry.2 else table.lookup other := by
  rw [List.lookup_cons]
  by_cases same : other = entry.1
  · rw [if_pos same, beq_iff_eq.2 same]
  · rw [if_neg same, beq_false_of_ne same]

theorem has_eq_isSome_lookup (table : NameTable α) (name : String) :
    table.has name = (table.lookup name).isSome := by
  apply Bool.eq_iff_iff.2
  rw [has, List.any_eq_true, List.lookup_isSome_iff]
  simp only [BEq.comm]

theorem lookup_put (table : NameTable α) : (put name value table).lookup other =
    if other = name then some value else table.lookup other := by
  induction table with
  | nil => exact lookup_entry (name, value) []
  | cons entry rest ih =>
    rw [put]
    split
    · rename_i here
      rw [lookup_entry, lookup_entry, here]
      split <;> rfl
    · rename_i elsewhere
      rw [lookup_entry, lookup_entry, ih]
      by_cases first : other = entry.1
      · rw [if_pos first, if_pos first, if_neg (first ▸ elsewhere)]
      · rw [if_neg first, if_neg first]

theorem put_append {before : NameTable α} (fresh : name ∉ names before) (table : NameTable α) :
    put name value (before ++ table) = before ++ put name value table := by
  induction before with
  | nil => rfl
  | cons entry rest ih =>
    obtain ⟨elsewhere, later⟩ := not_or.1 (mt List.mem_cons.2 fresh)
    rw [List.cons_append, put, if_neg (Ne.symm elsewhere), ih later, List.cons_append]

theorem put_of_split {before after : NameTable α} {old : α} (fresh : name ∉ names before) (value : α) :
    put name value (before ++ (name, old) :: after) = before ++ (name, value) :: after := by
  rw [put_append fresh, put, if_pos rfl]

theorem ofEntries_concat (entries : List (String × α)) (entry : String × α) :
    ofEntries (entries ++ [entry]) = put entry.1 entry.2 (ofEntries entries) := by
  rw [ofEntries, List.foldl_append]
  rfl

theorem names_concat (entries : List (String × α)) (entry : String × α) :
    names (entries ++ [entry]) = names entries ++ [entry.1] :=
  List.map_append

/-- A name that comes again stays where it came first. -/
theorem eraseDups_concat (names : List String) (name : String) : (names ++ [name]).eraseDups =
    if name ∈ names.eraseDups then names.eraseDups else names.eraseDups ++ [name] := by
  rw [List.eraseDups_append]
  by_cases known : name ∈ names
  · simp [List.mem_eraseDups, known, List.removeAll]
  · simp [List.mem_eraseDups, known, List.removeAll, List.eraseDups_cons]

theorem nodup_eraseDups (names : List String) : names.eraseDups.Nodup := by
  induction names using List.reverseRecOn with
  | nil => exact List.nodup_nil
  | append_singleton names name ih =>
    rw [eraseDups_concat]
    split
    · exact ih
    · rename_i new
      rw [← List.concat_eq_append]
      exact ih.concat new

theorem gathers_ofEntries (entries : List (String × α)) : Gathers entries (ofEntries entries) := by
  -- from the right, where the entry that is written last stands
  induction entries using List.reverseRecOn with
  | nil => exact ⟨rfl, fun _ => rfl⟩
  | append_singleton entries entry ih =>
    constructor
    · rw [ofEntries_concat, names_put, ih.names, names_concat, eraseDups_concat]
    · intro name
      rw [ofEntries_concat, lookup_put, ih.values, List.reverse_concat, lookup_entry]

theorem lookup_of_not_mem {table : NameTable α} (absent : name ∉ names table) :
    table.lookup name = none := by
  rw [List.lookup_eq_none_iff]
  intro entry member
  have inside : entry.1 ∈ names table := List.mem_map_of_mem member
  exact bne_iff_ne.2 fun same => absent (same ▸ inside)

theorem eq_of_lookup_eq {table table' : NameTable α} (distinct : (names table).Nodup)
    (order : names table = names table') (same : ∀ name, table.lookup name = table'.lookup name) :
    table = table' := by
  induction table generalizing table' with
  | nil => exact (List.map_eq_nil_iff.1 order.symm).symm
  | cons entry rest ih =>
    cases table' with
    | nil => cases order
    | cons entry' rest' =>
      have first : entry.1 = entry'.1 := List.head_eq_of_cons_eq order
      have later : names rest = names rest' := List.tail_eq_of_cons_eq order
      obtain ⟨fresh, distinct⟩ := List.nodup_cons.1 distinct
      have here := same entry.1
      rw [lookup_entry, lookup_entry, if_pos rfl, if_pos first] at here
      have below : rest = rest' := by
        refine ih distinct later fun name => ?_
        by_cases known : name ∈ names rest
        · have elsewhere : name ≠ entry.1 := fun same => fresh (same ▸ known)
          have there := same name
          rwa [lookup_entry, lookup_entry, if_neg elsewhere, if_neg (first ▸ elsewhere)] at there
        · rw [lookup_of_not_mem known, lookup_of_not_mem (later ▸ known)]
      rw [Prod.ext first (Option.some.inj here), below]

/-- There is one table that holds what the entries say. -/
theorem Gathers.eq_ofEntries {table : NameTable α} (gathers : Gathers entries table) :
    table = ofEntries entries := by
  have written := gathers_ofEntries entries
  have order := gathers.names.trans written.names.symm
  refine eq_of_lookup_eq (order ▸ nodup_names_ofEntries entries) order fun name => ?_
  rw [gathers.values, written.values]

theorem fresh_of_split {before after : NameTable α} {entry : String × α}
    (distinct : (names (before ++ entry :: after)).Nodup) : entry.1 ∉ names before ∧ entry.1 ∉ names after := by
  rw [names, List.map_append, List.map_cons, List.nodup_middle, List.nodup_cons, List.mem_append, not_or] at distinct
  exact distinct.1

theorem fresh_of_nodup_concat {entry : String × α} (distinct : (names (entries ++ [entry])).Nodup) :
    (names entries).Nodup ∧ entry.1 ∉ names entries := by
  have fresh := (fresh_of_split distinct).1
  rw [names_concat, List.nodup_append] at distinct
  exact ⟨distinct.1, fresh⟩

/-- Entries with different names are a table already. -/
theorem ofEntries_of_nodup (distinct : (names entries).Nodup) : ofEntries entries = entries := by
  induction entries using List.reverseRecOn with
  | nil => rfl
  | append_singleton entries entry ih =>
    obtain ⟨before, fresh⟩ := fresh_of_nodup_concat distinct
    rw [ofEntries_concat, ih before, put_of_not_mem fresh]

end RouteParams.NameTable
