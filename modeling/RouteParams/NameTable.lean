/-!
Values under names, in the order in which the names were first written. Writing to a name that is
present replaces its value in place.
-/
namespace RouteParams

abbrev NameTable (α : Type) := List (String × α)

namespace NameTable

variable {α : Type}

def names (table : NameTable α) : List String :=
  table.map Prod.fst

def has (name : String) (table : NameTable α) : Bool :=
  table.any fun entry => entry.1 == name

/-- A name that is present keeps its place; a new name goes to the end. -/
def put (name : String) (value : α) : NameTable α → NameTable α
  | [] => [(name, value)]
  | entry :: rest => if entry.1 = name then (name, value) :: rest else entry :: put name value rest

def ofEntries (entries : List (String × α)) : NameTable α :=
  entries.foldl (fun table entry => put entry.1 entry.2 table) []

def erase (name : String) (table : NameTable α) : NameTable α :=
  table.filter fun entry => entry.1 != name

theorem has_iff {name : String} {table : NameTable α} : has name table ↔ name ∈ names table := by
  simp [has, names]

theorem put_of_not_mem {name : String} {value : α} {table : NameTable α}
    (fresh : name ∉ names table) : put name value table = table ++ [(name, value)] := by
  induction table with
  | nil => rfl
  | cons entry rest ih =>
    simp only [names, List.map_cons, List.mem_cons, not_or] at fresh
    simp [put, Ne.symm fresh.1, ih fresh.2]

theorem mem_names_put {name other : String} {value : α} {table : NameTable α} :
    other ∈ names (put name value table) ↔ other = name ∨ other ∈ names table := by
  induction table with
  | nil => simp [put, names]
  | cons entry rest ih =>
    by_cases same : entry.1 = name
    · subst same
      simp [put, names]
    · simp only [names] at ih
      simp only [put, same, if_false, names, List.map_cons, List.mem_cons, ih]
      exact or_left_comm

theorem nodup_names_put {name : String} {value : α} {table : NameTable α}
    (distinct : (names table).Nodup) : (names (put name value table)).Nodup := by
  induction table with
  | nil => simp [put, names]
  | cons entry rest ih =>
    obtain ⟨outside, distinct⟩ := List.nodup_cons.1 distinct
    by_cases same : entry.1 = name
    · subst same
      simp only [put, if_true, names, List.map_cons]
      exact List.nodup_cons.2 ⟨outside, distinct⟩
    · simp only [put, same, if_false, names, List.map_cons]
      refine List.nodup_cons.2 ⟨fun inside => ?_, ih distinct⟩
      rcases mem_names_put.1 inside with equal | inside
      · exact same equal
      · exact outside inside

theorem nodup_names_ofEntries (entries : List (String × α)) :
    (names (ofEntries entries)).Nodup := by
  suffices ∀ table : NameTable α, (names table).Nodup →
      (names (entries.foldl (fun table entry => put entry.1 entry.2 table) table)).Nodup from
    this [] List.nodup_nil
  induction entries with
  | nil => exact fun _ distinct => distinct
  | cons entry rest ih => exact fun table distinct => ih _ (nodup_names_put distinct)

end NameTable
end RouteParams
