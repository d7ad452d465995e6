import RouteParams.Tree.Reader

/-!
What is written for a raw value, kind by kind and apart from the functions that write it. A value is written if
and only if none of the integers in it is longer than the limit allows. The name of a slot is the key itself if
that is a text, and what is written for the key otherwise.
-/
namespace RouteParams

def DigitLimit.Allows (limit : DigitLimit) (value : Int) : Prop :=
  ∀ digits ∈ limit, value.natAbs < Nat.pow 10 digits

namespace Raw

mutual

inductive TreeShows : LayoutTree → String → Prop
  | node {segment : String} {slots : List (String × LayoutTree)} {parts : List String}
      (below : SlotsShow slots parts) :
      TreeShows (.node segment slots)
        ("LoaderTree(segment=" ++ Text.quoted segment ++ ", slots=mappingproxy("
          ++ ("\x7b" ++ ", ".intercalate parts ++ "\x7d") ++ "))")

inductive SlotsShow : List (String × LayoutTree) → List String → Prop
  | nil : SlotsShow [] []
  | cons {name shown : String} {child : LayoutTree} {rest : List (String × LayoutTree)} {parts : List String}
      (first : TreeShows child shown) (later : SlotsShow rest parts) :
      SlotsShow ((name, child) :: rest) ((Text.quoted name ++ ": " ++ shown) :: parts)

end

mutual

/-- The text is written for the value. Nothing is written for one that holds too long an integer. -/
inductive Shows (limit : DigitLimit) : Raw → String → Prop
  | null : Shows limit .null "None"
  | yes : Shows limit (.bool true) "True"
  | no : Shows limit (.bool false) "False"
  | integer {value : Int} (allowed : limit.Allows value) : Shows limit (.integer value) (toString value)
  | real (value : Binary64) : Shows limit (.real value) value.text
  | text (value : String) : Shows limit (.text value) (Text.quoted value)
  | octets (value : List UInt8) : Shows limit (.octets value) (Text.quotedOctets value)
  | buffer (value : List UInt8) : Shows limit (.buffer value) ("bytearray(" ++ Text.quotedBuffer value ++ ")")
  | list {items : List Raw} {parts : List String} (each : ItemsShow limit items parts) :
      Shows limit (.list items) ("[" ++ ", ".intercalate parts ++ "]")
  | single {item : Raw} {part : String} (alone : Shows limit item part) :
      Shows limit (.tuple [item]) ("(" ++ part ++ ",)")
  | tuple {items : List Raw} {parts : List String} (each : ItemsShow limit items parts)
      (several : items.length ≠ 1) : Shows limit (.tuple items) ("(" ++ ", ".intercalate parts ++ ")")
  | mapping {entries : List (Raw × Raw)} {parts : List String} (each : EntriesShow limit entries parts) :
      Shows limit (.mapping entries) ("\x7b" ++ ", ".intercalate parts ++ "\x7d")
  | tree {value : LayoutTree} {shown : String} (shows : TreeShows value shown) : Shows limit (.tree value) shown

inductive ItemsShow (limit : DigitLimit) : List Raw → List String → Prop
  | nil : ItemsShow limit [] []
  | cons {item : Raw} {shown : String} {rest : List Raw} {parts : List String} (first : Shows limit item shown)
      (later : ItemsShow limit rest parts) : ItemsShow limit (item :: rest) (shown :: parts)

inductive EntriesShow (limit : DigitLimit) : List (Raw × Raw) → List String → Prop
  | nil : EntriesShow limit [] []
  | cons {key value : Raw} {name shown : String} {rest : List (Raw × Raw)} {parts : List String}
      (named : Shows limit key name) (first : Shows limit value shown) (later : EntriesShow limit rest parts) :
      EntriesShow limit ((key, value) :: rest) ((name ++ ": " ++ shown) :: parts)

end

/-- The name that a slot has by its key. -/
inductive Names (limit : DigitLimit) : Raw → String → Prop
  | text (value : String) : Names limit (.text value) value
  | shown {key : Raw} {name : String} (other : ∀ value, key ≠ .text value) (shows : Shows limit key name) :
      Names limit key name

variable {limit : DigitLimit} {raw key : Raw} {part name : String}

mutual

theorem treeShows_iff : ∀ (tree : LayoutTree) (part : String), TreeShows tree part ↔ part = shownTree tree
  | .node segment slots, part => by
    constructor
    · intro shows
      cases shows with
      | node below =>
        rw [(slotsShow_iff slots _).1 below]
        rfl
    · rintro rfl
      exact .node ((slotsShow_iff slots _).2 rfl)

theorem slotsShow_iff : ∀ (slots : List (String × LayoutTree)) (parts : List String),
    SlotsShow slots parts ↔ parts = shownSlots slots
  | [], parts => by
    constructor
    · intro below
      cases below
      rfl
    · rintro rfl
      exact .nil
  | (name, child) :: rest, parts => by
    constructor
    · intro below
      cases below with
      | cons first later =>
        rw [(treeShows_iff child _).1 first, (slotsShow_iff rest _).1 later]
        rfl
    · rintro rfl
      exact .cons ((treeShows_iff child _).2 rfl) ((slotsShow_iff rest _).2 rfl)

end

theorem ItemsShow.length_eq {items : List Raw} {parts : List String} (each : ItemsShow limit items parts) :
    parts.length = items.length := by
  match each with
  | .nil => rfl
  | .cons _ later => exact congrArg (· + 1) later.length_eq

theorem parenthesized_of_several {parts : List String} (several : parts.length ≠ 1) :
    parenthesized parts = "(" ++ commaSeparated parts ++ ")" := by
  unfold parenthesized
  split
  · exact absurd rfl several
  · rfl

theorem shows_tuple_iff {items : List Raw} :
    Shows limit (.tuple items) part ↔ ∃ parts, ItemsShow limit items parts ∧ part = parenthesized parts := by
  constructor
  · intro shows
    cases shows with
    | single alone => exact ⟨_, .cons alone .nil, rfl⟩
    | tuple each several =>
      rw [← each.length_eq] at several
      exact ⟨_, each, (parenthesized_of_several several).symm⟩
  · rintro ⟨parts, each, rfl⟩
    by_cases one : items.length = 1
    · obtain ⟨item, rfl⟩ := List.length_eq_one_iff.1 one
      cases each with
      | cons alone later =>
        cases later
        exact .single alone
    · have several := one
      rw [← each.length_eq] at several
      rw [parenthesized_of_several several]
      exact .tuple each one

mutual

theorem shows_shown (limit : DigitLimit) : ∀ raw : Raw,
    (∀ digits ∈ limit, raw.isWritable digits = true) → raw.Shows limit raw.shown
  | .null, _ => .null
  | .bool false, _ => .no
  | .bool true, _ => .yes
  | .integer _, writable => .integer fun digits bound => of_decide_eq_true (writable digits bound)
  | .real value, _ => .real value
  | .text value, _ => .text value
  | .octets value, _ => .octets value
  | .buffer value, _ => .buffer value
  | .list items, writable => .list (itemsShow_shown limit items writable)
  | .tuple items, writable => shows_tuple_iff.2 ⟨_, itemsShow_shown limit items writable, rfl⟩
  | .mapping entries, writable => .mapping (entriesShow_shown limit entries writable)
  | .tree value, _ => .tree ((treeShows_iff value _).2 rfl)

theorem itemsShow_shown (limit : DigitLimit) : ∀ items : List Raw,
    (∀ digits ∈ limit, itemsWritable digits items = true) → ItemsShow limit items (shownItems items)
  | [], _ => .nil
  | item :: rest, writable => by
    simp only [itemsWritable, Bool.and_eq_true, imp_and, forall_and] at writable
    exact .cons (shows_shown limit item writable.1) (itemsShow_shown limit rest writable.2)

theorem entriesShow_shown (limit : DigitLimit) : ∀ entries : List (Raw × Raw),
    (∀ digits ∈ limit, entriesWritable digits entries = true) → EntriesShow limit entries (shownEntries entries)
  | [], _ => .nil
  | (key, value) :: rest, writable => by
    simp only [entriesWritable, Bool.and_eq_true, imp_and, forall_and] at writable
    obtain ⟨⟨name, here⟩, later⟩ := writable
    exact .cons (shows_shown limit key name) (shows_shown limit value here) (entriesShow_shown limit rest later)

end

mutual

theorem Shows.spec : ∀ {raw : Raw} {part : String}, raw.Shows limit part →
    (∀ digits ∈ limit, raw.isWritable digits = true) ∧ part = raw.shown
  | _, _, .null => ⟨fun _ _ => rfl, rfl⟩
  | _, _, .yes => ⟨fun _ _ => rfl, rfl⟩
  | _, _, .no => ⟨fun _ _ => rfl, rfl⟩
  | _, _, .integer allowed => ⟨fun digits bound => decide_eq_true (allowed digits bound), rfl⟩
  | _, _, .real _ => ⟨fun _ _ => rfl, rfl⟩
  | _, _, .text _ => ⟨fun _ _ => rfl, rfl⟩
  | _, _, .octets _ => ⟨fun _ _ => rfl, rfl⟩
  | _, _, .buffer _ => ⟨fun _ _ => rfl, rfl⟩
  | _, _, .list each => by
    obtain ⟨writable, rfl⟩ := each.spec
    exact ⟨writable, rfl⟩
  | _, _, .single alone => by
    obtain ⟨writable, rfl⟩ := alone.spec
    exact ⟨fun digits bound => Bool.and_eq_true_iff.2 ⟨writable digits bound, rfl⟩, rfl⟩
  | _, _, .tuple each several => by
    rw [← each.length_eq] at several
    have whole := parenthesized_of_several several
    obtain ⟨writable, rfl⟩ := each.spec
    exact ⟨writable, whole.symm⟩
  | _, _, .mapping each => by
    obtain ⟨writable, rfl⟩ := each.spec
    exact ⟨writable, rfl⟩
  | _, _, .tree shows => ⟨fun _ _ => rfl, (treeShows_iff _ _).1 shows⟩

theorem ItemsShow.spec : ∀ {items : List Raw} {parts : List String}, ItemsShow limit items parts →
    (∀ digits ∈ limit, itemsWritable digits items = true) ∧ parts = shownItems items
  | _, _, .nil => ⟨fun _ _ => rfl, rfl⟩
  | _, _, .cons first later => by
    obtain ⟨here, rfl⟩ := first.spec
    obtain ⟨there, rfl⟩ := later.spec
    exact ⟨fun digits bound => Bool.and_eq_true_iff.2 ⟨here digits bound, there digits bound⟩, rfl⟩

theorem EntriesShow.spec : ∀ {entries : List (Raw × Raw)} {parts : List String},
    EntriesShow limit entries parts →
      (∀ digits ∈ limit, entriesWritable digits entries = true) ∧ parts = shownEntries entries
  | _, _, .nil => ⟨fun _ _ => rfl, rfl⟩
  | _, _, .cons named first later => by
    obtain ⟨name, rfl⟩ := named.spec
    obtain ⟨here, rfl⟩ := first.spec
    obtain ⟨there, rfl⟩ := later.spec
    refine ⟨fun digits bound => ?_, rfl⟩
    rw [entriesWritable, name digits bound, here digits bound, there digits bound]
    rfl

end

/-- A value is written if and only if every integer in it is allowed, and then in one way. -/
theorem shows_iff : raw.Shows limit part ↔
    (∀ digits ∈ limit, raw.isWritable digits = true) ∧ part = raw.shown := by
  constructor
  · exact Shows.spec
  · rintro ⟨writable, rfl⟩
    exact shows_shown limit raw writable

theorem exists_shows_iff :
    (∃ part, raw.Shows limit part) ↔ ∀ digits ∈ limit, raw.isWritable digits = true := by
  simp only [shows_iff, exists_and_left, exists_eq, and_true]

end Raw

namespace TreeError

variable {limit : DigitLimit} {raw : Raw} {error : TreeError}

theorem ofLength?_eq_none_iff : ofLength? limit raw = none ↔ ∃ part, raw.Shows limit part := by
  rw [Raw.exists_shows_iff]
  cases limit with
  | none => exact ⟨fun _ _ bound => absurd bound nofun, fun _ => rfl⟩
  | some digits => simp [ofLength?]

theorem ofLength?_of_unwritten (unwritten : ¬∃ part, raw.Shows limit part) :
    ∃ digits, limit = some digits ∧ ofLength? limit raw = some (.integerTooLong digits) := by
  rw [← ofLength?_eq_none_iff] at unwritten
  cases limit with
  | none => exact absurd rfl unwritten
  | some digits =>
    refine ⟨digits, rfl, if_neg fun writable => unwritten (if_pos writable)⟩

theorem eq_of_ofLength?_eq_some (long : ofLength? limit raw = some error) :
    ∃ digits, limit = some digits ∧ error = .integerTooLong digits := by
  have unwritten : ¬∃ part, raw.Shows limit part := by
    intro written
    rw [ofLength?_eq_none_iff.2 written] at long
    cases long
  obtain ⟨digits, bound, same⟩ := ofLength?_of_unwritten unwritten
  exact ⟨digits, bound, Option.some.inj (long.symm.trans same)⟩

/-- An error whose message can be written is the one that is raised. -/
theorem raised_of_written (written : ∀ value, error.value? = some value → ∃ part, value.Shows limit part) :
    error.raised limit = error := by
  rw [raised]
  cases shown : error.value? with
  | none => rfl
  | some value =>
    rw [Option.bind_some, ofLength?_eq_none_iff.2 (written value shown)]
    rfl

theorem raised_of_unwritten (shown : error.value? = some raw) (unwritten : ¬∃ part, raw.Shows limit part) :
    ∃ digits, limit = some digits ∧ error.raised limit = .integerTooLong digits := by
  obtain ⟨digits, bound, long⟩ := ofLength?_of_unwritten unwritten
  refine ⟨digits, bound, ?_⟩
  rw [raised, shown, Option.bind_some, long]
  rfl

/-- The message of an error that is raised can be written. -/
theorem exists_shows_of_raised (shown : (error.raised limit).value? = some raw) : ∃ part, raw.Shows limit part := by
  cases named : error.value? with
  | none =>
    rw [raised, named, Option.bind_none, Option.getD_none, named] at shown
    cases shown
  | some value =>
    by_cases written : ∃ part, value.Shows limit part
    · rw [raised, named, Option.bind_some, ofLength?_eq_none_iff.2 written, Option.getD_none, named] at shown
      rwa [← Option.some.inj shown]
    · obtain ⟨digits, _, long⟩ := raised_of_unwritten named written
      rw [long] at shown
      cases shown

end TreeError

namespace Raw

variable {limit : DigitLimit} {key : Raw} {name : String} {error : TreeError}

theorem names_iff_shows (other : ∀ value, key ≠ .text value) : key.Names limit name ↔ key.Shows limit name := by
  constructor
  · intro names
    cases names with
    | text value => exact absurd rfl (other _)
    | shown _ shows => exact shows
  · exact .shown other

theorem exists_names_iff : (∃ name, key.Names limit name) ↔ ∃ part, key.Shows limit part := by
  by_cases texts : ∃ value, key = .text value
  · obtain ⟨value, rfl⟩ := texts
    exact iff_of_true ⟨value, .text value⟩ ⟨_, .text value⟩
  · exact exists_congr fun _ => names_iff_shows (not_exists.1 texts)

theorem slotName_eq_shown (other : ∀ value, key ≠ .text value) : key.slotName = key.shown := by
  cases key with
  | text value => exact absurd rfl (other value)
  | _ => rfl

theorem eq_slotName_of_names (names : key.Names limit name) : name = key.slotName := by
  cases names with
  | text value => rfl
  | shown other shows => rw [slotName_eq_shown other, shows.spec.2]

theorem named_eq_error_iff : key.named limit = .error error ↔ TreeError.ofLength? limit key = some error := by
  rw [named]
  cases TreeError.ofLength? limit key <;> simp

/-- The reader names a slot as its key does, and it is only for want of a name that it refuses a key. -/
theorem named_eq_ok_iff : key.named limit = .ok name ↔ key.Names limit name := by
  constructor
  · intro read
    have written : TreeError.ofLength? limit key = none := by
      refine Option.eq_none_iff_forall_ne_some.2 fun error long => ?_
      rw [named_eq_error_iff.2 long] at read
      cases read
    obtain ⟨other, names⟩ := exists_names_iff.2 (TreeError.ofLength?_eq_none_iff.1 written)
    rw [named, written] at read
    cases read
    rwa [← eq_slotName_of_names names]
  · intro names
    have written := TreeError.ofLength?_eq_none_iff.2 (exists_names_iff.1 ⟨name, names⟩)
    rw [named, written, eq_slotName_of_names names]
    rfl

end Raw
end RouteParams
