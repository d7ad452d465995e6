import Mathlib.Data.List.Forall2
import RouteParams.Proofs.Tree.Shown
import RouteParams.Proofs.Tree.SlotTable

/-!
What a raw value says of one node, its children aside. A node is a tree that is built already, a sequence of a
segment and slots, or a mapping with a segment and perhaps slots. The reader of trees checks the shape of a node
before it turns to the children, so reading a node is one step for its shape and one reading for each child.
-/
namespace RouteParams

/-- A node as a raw value writes it: already a tree, or a segment over slots whose children are still raw. -/
inductive RawNode where
  | built (tree : LayoutTree)
  | written (segment : String) (slots : List (Raw × Raw))

def RawNode.slots : RawNode → List (Raw × Raw)
  | .built _ => []
  | .written _ slots => slots

namespace Raw

/-- The items of a sequence; those of a buffer are its octets as numbers. -/
def items? : Raw → Option (List Raw)
  | .list items => some items
  | .tuple items => some items
  | .buffer value => some (value.map fun octet => .integer octet.toNat)
  | _ => none

/-- The first of the entries that has the text for its key has the value. -/
def Holds (key : String) (entries : List (Raw × Raw)) (value : Raw) : Prop :=
  ∃ before after, entries = before ++ (.text key, value) :: after ∧ ∀ entry ∈ before, entry.1 ≠ .text key

def Lacks (key : String) (entries : List (Raw × Raw)) : Prop :=
  ∀ entry ∈ entries, entry.1 ≠ .text key

/-- The values that stand for nothing. -/
inductive IsNothing : Raw → Prop
  | null : IsNothing .null
  | no : IsNothing (.bool false)
  | zero : IsNothing (.integer 0)
  | realZero (negative : Bool) (exponent : Int) : IsNothing (.real (.finite negative 0 exponent))
  | text : IsNothing (.text "")
  | octets : IsNothing (.octets [])
  | buffer : IsNothing (.buffer [])
  | list : IsNothing (.list [])
  | tuple : IsNothing (.tuple [])
  | mapping : IsNothing (.mapping [])

/-- The slots of a mapping: none if they are missing or stand for nothing. -/
inductive Slotted (entries : List (Raw × Raw)) : List (Raw × Raw) → Prop
  | missing (absent : Lacks "slots" entries) : Slotted entries []
  | empty {value : Raw} (found : Holds "slots" entries value) (nothing : value.IsNothing) : Slotted entries []
  | mapping {slots : List (Raw × Raw)} (found : Holds "slots" entries (.mapping slots)) : Slotted entries slots

/-- The three forms in which a raw value may write a node. -/
inductive Describes : Raw → RawNode → Prop
  | tree (tree : LayoutTree) : Describes (.tree tree) (.built tree)
  | sequence {raw : Raw} {segment : String} {slots : List (Raw × Raw)} {extra : List Raw}
      (items : raw.items? = some (.text segment :: .mapping slots :: extra)) :
      Describes raw (.written segment slots)
  | mapping {entries slots : List (Raw × Raw)} {segment : String}
      (named : Holds "segment" entries (.text segment)) (slotted : Slotted entries slots) :
      Describes (.mapping entries) (.written segment slots)

/-- The shape of the value alone is that of a node, whatever its children are. -/
def IsNode (raw : Raw) : Prop :=
  ∃ node, raw.Describes node

/-! ## The parts of a node -/

def slotsPart (entries : List (Raw × Raw)) : Raw :=
  match find? "slots" entries with
  | some value => if value.isEmpty then .mapping [] else value
  | none => .mapping []

def firstTwo? : List Raw → Option (Raw × Raw)
  | first :: second :: _ => some (first, second)
  | _ => none

/-- What stands in a value where a node has its segment and its slots. -/
def parts? : Raw → Option (Raw × Raw)
  | .mapping entries => (find? "segment" entries).map (·, slotsPart entries)
  | raw => raw.items?.bind firstTwo?

def partsFault? : Raw × Raw → Option TreeError
  | (.text segment, slots) =>
    match slots with
    | .mapping _ => none
    | _ => some (.slotsNotMapping segment)
  | (first, _) => some (.segmentNotText first)

def partless (raw : Raw) : TreeError :=
  match raw with
  | .mapping _ => .segmentMissing raw
  | _ => if raw.items?.isSome then .tooShort raw else .notANode raw

/-- What is wrong with the shape of a node, if anything is. -/
def fault? : Raw → Option TreeError
  | .tree _ => none
  | raw =>
    match raw.parts? with
    | some parts => partsFault? parts
    | none => some raw.partless

/-- The slots of a node. A value that is not one has none. -/
def slots (raw : Raw) : List (Raw × Raw) :=
  match raw.parts? with
  | some (.text _, .mapping slots) => slots
  | _ => []

variable {raw first second : Raw} {node : RawNode} {segment : String} {slots entries : List (Raw × Raw)}

theorem isText_iff {key : String} : raw.isText key = true ↔ raw = .text key := by
  cases raw <;> simp [isText]

theorem find?_eq_some_iff {key : String} {value : Raw} :
    find? key entries = some value ↔ Holds key entries value := by
  rw [find?, Option.map_eq_some_iff]
  simp only [List.find?_eq_some_iff_append, Bool.not_eq_true', ← Bool.not_eq_true, isText_iff]
  constructor
  · rintro ⟨⟨_, _⟩, ⟨rfl, before, after, whole, others⟩, rfl⟩
    exact ⟨before, after, whole, others⟩
  · rintro ⟨before, after, whole, others⟩
    exact ⟨_, ⟨rfl, before, after, whole, others⟩, rfl⟩

theorem find?_eq_none_iff {key : String} : find? key entries = none ↔ Lacks key entries := by
  rw [find?, Option.map_eq_none_iff, List.find?_eq_none]
  simp only [isText_iff, Lacks, ne_eq]

theorem isEmpty_iff : raw.isEmpty = true ↔ raw.IsNothing := by
  constructor
  · intro empty
    cases raw with
    | null => exact .null
    | bool value =>
      cases value with
      | false => exact .no
      | true => cases empty
    | integer value =>
      obtain rfl : value = 0 := beq_iff_eq.1 empty
      exact .zero
    | real value =>
      cases value with
      | finite negative mantissa exponent =>
        obtain rfl : mantissa = 0 := beq_iff_eq.1 empty
        exact .realZero negative exponent
      | _ => cases empty
    | text value =>
      obtain rfl : value = "" := beq_iff_eq.1 empty
      exact .text
    | octets value =>
      obtain rfl := List.isEmpty_iff.1 empty
      exact .octets
    | buffer value =>
      obtain rfl := List.isEmpty_iff.1 empty
      exact .buffer
    | list items =>
      obtain rfl := List.isEmpty_iff.1 empty
      exact .list
    | tuple items =>
      obtain rfl := List.isEmpty_iff.1 empty
      exact .tuple
    | mapping entries =>
      obtain rfl := List.isEmpty_iff.1 empty
      exact .mapping
    | tree value => cases empty
  · intro nothing
    cases nothing <;> rfl

theorem slotted_iff : Slotted entries slots ↔ slotsPart entries = .mapping slots := by
  rw [slotsPart]
  constructor
  · rintro (absent | ⟨found, nothing⟩ | found)
    · rw [find?_eq_none_iff.2 absent]
    · rw [find?_eq_some_iff.2 found]
      exact if_pos (isEmpty_iff.2 nothing)
    · rw [find?_eq_some_iff.2 found]
      cases slots <;> rfl
  · intro part
    cases found : find? "slots" entries with
    | none =>
      rw [found] at part
      cases part
      exact .missing (find?_eq_none_iff.1 found)
    | some value =>
      rw [found] at part
      dsimp only at part
      split at part
      · rename_i nothing
        cases part
        exact .empty (find?_eq_some_iff.1 found) (isEmpty_iff.1 nothing)
      · cases part
        exact .mapping (find?_eq_some_iff.1 found)

theorem parts?_eq_bind (unnamed : ∀ entries, raw ≠ .mapping entries) :
    raw.parts? = raw.items?.bind firstTwo? := by
  cases raw with
  | mapping entries => exact absurd rfl (unnamed entries)
  | _ => rfl

theorem parts?_of_items? {items : List Raw} (sequence : raw.items? = some items) :
    raw.parts? = firstTwo? items := by
  have unnamed : ∀ entries, raw ≠ .mapping entries := by
    rintro entries rfl
    cases sequence
  rw [parts?_eq_bind unnamed, sequence]
  rfl

theorem firstTwo?_eq_some_iff {items : List Raw} :
    firstTwo? items = some (first, second) ↔ ∃ extra, items = first :: second :: extra := by
  rw [firstTwo?.eq_def]
  split <;> simp_all

theorem exists_items?_of_parts? (unnamed : ∀ entries, raw ≠ .mapping entries)
    (parts : raw.parts? = some (first, second)) :
    ∃ extra, raw.items? = some (first :: second :: extra) := by
  rw [parts?_eq_bind unnamed] at parts
  obtain ⟨items, sequence, two⟩ := Option.bind_eq_some_iff.1 parts
  obtain ⟨extra, rfl⟩ := firstTwo?_eq_some_iff.1 two
  exact ⟨extra, sequence⟩

theorem describes_written_iff :
    raw.Describes (.written segment slots) ↔ raw.parts? = some (.text segment, .mapping slots) := by
  constructor
  · intro describes
    cases describes with
    | sequence items => exact parts?_of_items? items
    | mapping named slotted =>
      rw [parts?, find?_eq_some_iff.2 named, slotted_iff.1 slotted]
      rfl
  · intro parts
    by_cases named : ∃ entries, raw = .mapping entries
    · obtain ⟨entries, rfl⟩ := named
      obtain ⟨first, named, same⟩ := Option.map_eq_some_iff.1 parts
      obtain ⟨rfl, part⟩ := Prod.mk.inj same
      exact .mapping (find?_eq_some_iff.1 named) (slotted_iff.2 part)
    · obtain ⟨extra, items⟩ := exists_items?_of_parts? (not_exists.1 named) parts
      exact .sequence items

theorem partsFault?_eq_none_iff : partsFault? (first, second) = none ↔
    ∃ segment slots, first = .text segment ∧ second = .mapping slots := by
  cases first with
  | text segment => cases second <;> simp [partsFault?]
  | _ => simp [partsFault?]

theorem Describes.slots_eq (describes : raw.Describes node) : raw.slots = node.slots := by
  cases node with
  | built tree =>
    cases describes
    rfl
  | written segment slots =>
    rw [Raw.slots, describes_written_iff.1 describes]
    rfl

theorem fault?_of_parts? (parts : raw.parts? = some (first, second)) :
    raw.fault? = partsFault? (first, second) := by
  cases raw with
  | tree tree => cases parts
  | _ => simp only [fault?, parts]

theorem fault?_of_parts?_eq_none (partless : raw.parts? = none) (unbuilt : ∀ tree, raw ≠ .tree tree) :
    raw.fault? = some raw.partless := by
  cases raw with
  | tree tree => exact absurd rfl (unbuilt tree)
  | _ => simp only [fault?, partless]

/-- A fault is that the value has no parts, or it is in the parts. -/
theorem fault?_cases {error : TreeError} (faulty : raw.fault? = some error) :
    (raw.parts? = none ∧ (∀ tree, raw ≠ .tree tree) ∧ error = raw.partless) ∨
      ∃ first second, raw.parts? = some (first, second) ∧ partsFault? (first, second) = some error := by
  cases parts : raw.parts? with
  | none =>
    have unbuilt : ∀ tree, raw ≠ .tree tree := by
      rintro tree rfl
      cases faulty
    rw [fault?_of_parts?_eq_none parts unbuilt] at faulty
    exact .inl ⟨rfl, unbuilt, (Option.some.inj faulty).symm⟩
  | some both =>
    rw [fault?_of_parts? parts] at faulty
    exact .inr ⟨both.1, both.2, rfl, faulty⟩

theorem partsFault?_cases {error : TreeError} (faulty : partsFault? (first, second) = some error) :
    (∃ segment, error = .slotsNotMapping segment) ∨ error = .segmentNotText first := by
  cases first with
  | text segment =>
    cases second with
    | mapping slots => cases faulty
    | _ => exact .inl ⟨segment, (Option.some.inj faulty).symm⟩
  | _ => exact .inr (Option.some.inj faulty).symm

theorem fault?_eq_none_iff : raw.fault? = none ↔ raw.IsNode := by
  constructor
  · intro faultless
    cases parts : raw.parts? with
    | none =>
      cases raw with
      | tree tree => exact ⟨_, .tree tree⟩
      | _ => simp [fault?, parts] at faultless
    | some both =>
      rw [fault?_of_parts? parts] at faultless
      obtain ⟨segment, slots, first, second⟩ := partsFault?_eq_none_iff.1 faultless
      refine ⟨.written segment slots, describes_written_iff.2 ?_⟩
      rw [parts, ← first, ← second]
  · rintro ⟨node, describes⟩
    cases node with
    | built tree =>
      cases describes
      rfl
    | written segment slots =>
      rw [fault?_of_parts? (describes_written_iff.1 describes)]
      rfl

end Raw

namespace LayoutTree

open Raw

variable {limit : DigitLimit} {raw first second : Raw} {segment : String} {slots : List (Raw × Raw)}
  {error : TreeError}

theorem readSlotsEntry_eq (limit : DigitLimit) (segment : String) (entries : List (Raw × Raw)) :
    readSlotsEntry limit segment entries = readSlots limit segment (slotsPart entries) := by
  induction entries with
  | nil => rfl
  | cons entry rest ih =>
    obtain ⟨key, value⟩ := entry
    rw [readSlotsEntry]
    split
    · rename_i here
      have found : find? "slots" ((key, value) :: rest) = some value :=
        congrArg (Option.map Prod.snd) (List.find?_cons_of_pos here)
      rw [slotsPart, found]
      dsimp only
      split
      · rfl
      · rfl
    · rename_i elsewhere
      have found : find? "slots" ((key, value) :: rest) = find? "slots" rest :=
        congrArg (Option.map Prod.snd) (List.find?_cons_of_neg elsewhere)
      rw [slotsPart, found]
      exact ih

theorem readRaw_of_parts? (parts : raw.parts? = some (first, second)) :
    readRaw limit raw =
      segmentText limit first >>= fun segment => assemble segment <$> readSlots limit segment second := by
  cases raw with
  | mapping entries =>
    obtain ⟨named, found, same⟩ := Option.map_eq_some_iff.1 parts
    cases same
    simp only [readRaw, found, readSlotsEntry_eq]
  | list items =>
    obtain ⟨extra, rfl⟩ := firstTwo?_eq_some_iff.1 parts
    rfl
  | tuple items =>
    obtain ⟨extra, rfl⟩ := firstTwo?_eq_some_iff.1 parts
    rfl
  | buffer value =>
    rcases value with _ | ⟨octet, _ | ⟨second, more⟩⟩
    · cases parts
    · cases parts
    · cases parts
      rfl
  | _ => cases parts

-- The reader asks for two items before it looks at either, so a sequence with fewer has no other fault.
theorem readRaw_of_parts?_eq_none (partless : raw.parts? = none) (unbuilt : ∀ tree, raw ≠ .tree tree) :
    readRaw limit raw = .error (raw.partless.raised limit) := by
  cases raw with
  | tree tree => exact absurd rfl (unbuilt tree)
  | mapping entries =>
    have unnamed := Option.map_eq_none_iff.1 partless
    rw [readRaw, unnamed]
    rfl
  | list items =>
    rcases items with _ | ⟨item, _ | ⟨second, more⟩⟩
    · rfl
    · rfl
    · cases partless
  | tuple items =>
    rcases items with _ | ⟨item, _ | ⟨second, more⟩⟩
    · rfl
    · rfl
    · cases partless
  | buffer value =>
    rcases value with _ | ⟨octet, _ | ⟨second, more⟩⟩
    · rfl
    · rfl
    · cases partless
  | _ => rfl

theorem readRaw_of_fault? (faulty : raw.fault? = some error) :
    readRaw limit raw = .error (error.raised limit) := by
  rcases fault?_cases faulty with ⟨partless, unbuilt, rfl⟩ | ⟨first, second, parts, faulty⟩
  · exact readRaw_of_parts?_eq_none partless unbuilt
  · rw [readRaw_of_parts? parts]
    cases first with
    | text segment =>
      cases second with
      | mapping slots => cases faulty
      | _ =>
        cases faulty
        rfl
    | _ =>
      cases faulty
      rfl

theorem readRaw_of_describes (describes : raw.Describes (.written segment slots)) :
    readRaw limit raw = assemble segment <$> readChildren limit slots := by
  rw [readRaw_of_parts? (describes_written_iff.1 describes)]
  rfl

/-- The slot has the name of the key and holds the tree that the value is read as. -/
structure ReadsSlot (limit : DigitLimit) (entry : Raw × Raw) (slot : String × LayoutTree) : Prop where
  named : entry.1.Names limit slot.1
  read : readRaw limit entry.2 = .ok slot.2

theorem readChildren_cons_eq_ok_iff {entry : Raw × Raw} {children : List (String × LayoutTree)} :
    readChildren limit (entry :: slots) = .ok children ↔
      ∃ slot others, ReadsSlot limit entry slot ∧ readChildren limit slots = .ok others ∧
        children = slot :: others := by
  obtain ⟨key, value⟩ := entry
  rw [readChildren]
  constructor
  · intro result
    cases named : key.named limit with
    | error found =>
      rw [named] at result
      cases result
    | ok name =>
      cases read : readRaw limit value with
      | error found =>
        rw [named, read] at result
        cases result
      | ok child =>
        cases later : readChildren limit slots with
        | error found =>
          rw [named, read, later] at result
          cases result
        | ok others =>
          rw [named, read, later] at result
          cases result
          exact ⟨(name, child), others, ⟨named_eq_ok_iff.1 named, read⟩, rfl, rfl⟩
  · rintro ⟨slot, others, ⟨named, read⟩, later, rfl⟩
    rw [named_eq_ok_iff.2 named, read, later]
    rfl

theorem readChildren_eq_ok_iff {children : List (String × LayoutTree)} :
    readChildren limit slots = .ok children ↔ List.Forall₂ (ReadsSlot limit) slots children := by
  induction slots generalizing children with
  | nil =>
    rw [readChildren, Except.ok.injEq, List.forall₂_nil_left_iff]
    exact eq_comm
  | cons entry rest ih =>
    rw [readChildren_cons_eq_ok_iff, List.forall₂_cons_left_iff]
    simp only [ih]

theorem readRaw_eq_ok_iff_of_describes {tree : LayoutTree} (describes : raw.Describes (.written segment slots)) :
    readRaw limit raw = .ok tree ↔
      ∃ children, List.Forall₂ (ReadsSlot limit) slots children ∧ tree = assemble segment children := by
  rw [readRaw_of_describes describes]
  constructor
  · intro result
    cases read : readChildren limit slots with
    | error found =>
      rw [read] at result
      cases result
    | ok children =>
      rw [read] at result
      cases result
      exact ⟨children, readChildren_eq_ok_iff.1 read, rfl⟩
  · rintro ⟨children, related, rfl⟩
    rw [readChildren_eq_ok_iff.2 related]
    rfl

end LayoutTree
end RouteParams
