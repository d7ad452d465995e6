import RouteParams.Proofs.Tree.Shape

/-!
What the reader of trees looks at in a raw value. The nodes of a raw value are listed as they are reached, each
before its children, and between them stand the keys that name the slots. Only an integer that is too long to be
written can stop the reader where the shapes of the nodes do not: in a key, or in the message on a node.
-/
namespace RouteParams

namespace Raw

variable {raw value : Raw} {entries : List (Raw × Raw)} {entry : Raw × Raw}

theorem exists_describes_of_mem_slots (member : entry ∈ raw.slots) :
    ∃ segment slots, raw.Describes (.written segment slots) ∧ entry ∈ slots := by
  rw [Raw.slots] at member
  split at member
  · rename_i segment slots parts
    exact ⟨segment, slots, describes_written_iff.2 parts, member⟩
  · cases member

theorem sizeOf_lt_of_mem_entries (member : entry ∈ entries) :
    sizeOf entry.2 < sizeOf (mapping entries) := by
  have inside := List.sizeOf_lt_of_mem member
  have part : sizeOf entry.2 < sizeOf entry := by
    obtain ⟨key, value⟩ := entry
    simp only [Prod.mk.sizeOf_spec]
    omega
  rw [mapping.sizeOf_spec]
  omega

theorem Holds.mem {key : String} (found : Holds key entries value) : (.text key, value) ∈ entries := by
  obtain ⟨before, after, rfl, _⟩ := found
  exact List.mem_append_right before List.mem_cons_self

theorem sizeOf_lt_of_items? {segment : String} {slots : List (Raw × Raw)} {extra : List Raw}
    (items : raw.items? = some (.text segment :: .mapping slots :: extra)) :
    sizeOf (mapping slots) < sizeOf raw := by
  cases raw with
  | list given =>
    cases items
    simp only [list.sizeOf_spec, List.cons.sizeOf_spec]
    omega
  | tuple given =>
    cases items
    simp only [tuple.sizeOf_spec, List.cons.sizeOf_spec]
    omega
  | buffer value => cases value <;> cases items
  | _ => cases items

theorem sizeOf_lt_of_mem_slots (member : entry ∈ raw.slots) : sizeOf entry.2 < sizeOf raw := by
  obtain ⟨segment, slots, describes, member⟩ := exists_describes_of_mem_slots member
  have inside := sizeOf_lt_of_mem_entries member
  cases describes with
  | sequence items => exact Nat.lt_trans inside (sizeOf_lt_of_items? items)
  | mapping named slotted =>
    cases slotted with
    | missing => cases member
    | empty => cases member
    | mapping found => exact Nat.lt_trans inside (sizeOf_lt_of_mem_entries found.mem)

/-- The value and everything in it that is to be a node, each node before its children. -/
def nodes (raw : Raw) : List Raw :=
  raw :: raw.slots.attach.flatMap fun entry => entry.1.2.nodes
termination_by sizeOf raw
decreasing_by exact sizeOf_lt_of_mem_slots entry.2

theorem nodes_eq (raw : Raw) : raw.nodes = raw :: raw.slots.flatMap fun entry => entry.2.nodes := by
  have same : (raw.slots.attach.flatMap fun entry => entry.1.2.nodes) =
      raw.slots.attach.unattach.flatMap fun entry => entry.2.nodes :=
    List.flatMap_subtype fun _ _ => rfl
  rw [nodes, same, List.unattach_attach]

@[elab_as_elim]
theorem induct_slots {motive : Raw → Prop}
    (step : ∀ raw, (∀ entry ∈ raw.slots, motive entry.2) → motive raw) (raw : Raw) : motive raw :=
  step raw fun entry _ => induct_slots step entry.2
termination_by sizeOf raw
decreasing_by exact sizeOf_lt_of_mem_slots ‹_›

end Raw

/-! ## What the reader looks at -/

/-- The shape of a value that is to be a node, or the key that is to name a slot. -/
inductive Check where
  | shape (raw : Raw)
  | name (key : Raw)

namespace Check

variable {limit : DigitLimit} {check : Check} {checks : List Check}

def node? : Check → Option Raw
  | .shape raw => some raw
  | .name _ => none

def Passes (limit : DigitLimit) : Check → Prop
  | .shape raw => raw.IsNode
  | .name key => ∃ name, key.Names limit name

/-- What the reader would write here cannot be written. -/
def IsTooLong (limit : DigitLimit) : Check → Prop
  | .shape raw => ∃ error value, raw.fault? = some error ∧ error.value? = some value ∧
      ¬∃ part, value.Shows limit part
  | .name key => ¬∃ name, key.Names limit name

/-- The first check that does not pass is one where something cannot be written. -/
inductive StopTooLong (limit : DigitLimit) : List Check → Prop
  | here {check : Check} (rest : List Check) (long : check.IsTooLong limit) : StopTooLong limit (check :: rest)
  | later {check : Check} {rest : List Check} (passes : check.Passes limit) (stop : StopTooLong limit rest) :
      StopTooLong limit (check :: rest)

theorem StopTooLong.exists_isTooLong (stop : StopTooLong limit checks) :
    ∃ check ∈ checks, check.IsTooLong limit := by
  induction stop with
  | @here check rest long => exact ⟨check, List.mem_cons_self, long⟩
  | later passes stop ih =>
    obtain ⟨check, among, long⟩ := ih
    exact ⟨check, List.mem_cons_of_mem _ among, long⟩

/-- The error with which the reader stops at a check. -/
def fault? (limit : DigitLimit) : Check → Option TreeError
  | .shape raw => raw.fault?.map (TreeError.raised limit)
  | .name key => TreeError.ofLength? limit key

theorem fault?_eq_none_iff : check.fault? limit = none ↔ check.Passes limit := by
  cases check with
  | shape raw => exact Option.map_eq_none_iff.trans Raw.fault?_eq_none_iff
  | name key => exact TreeError.ofLength?_eq_none_iff.trans Raw.exists_names_iff.symm

theorem fault?_of_isTooLong (long : check.IsTooLong limit) :
    ∃ digits, limit = some digits ∧ check.fault? limit = some (.integerTooLong digits) := by
  cases check with
  | shape raw =>
    obtain ⟨error, value, faulty, shown, unwritten⟩ := long
    obtain ⟨digits, bound, raised⟩ := TreeError.raised_of_unwritten shown unwritten
    refine ⟨digits, bound, ?_⟩
    rw [fault?, faulty, Option.map_some, raised]
  | name key => exact TreeError.ofLength?_of_unwritten (mt Raw.exists_names_iff.2 long)

/-- Where everything can be written, a check fails for the shape of a node and in no other way. -/
theorem fault?_of_not_isTooLong (short : ¬check.IsTooLong limit) :
    check.fault? limit = check.node?.bind Raw.fault? := by
  cases check with
  | shape raw =>
    rw [fault?, node?, Option.bind_some]
    cases faulty : raw.fault? with
    | none => rfl
    | some error =>
      refine congrArg some (TreeError.raised_of_written fun value shown => ?_)
      exact of_not_not fun unwritten => short ⟨error, value, faulty, shown, unwritten⟩
  | name key => exact fault?_eq_none_iff.2 (not_not.1 short)

theorem findSome?_of_stopTooLong (stop : StopTooLong limit checks) :
    ∃ digits, limit = some digits ∧ checks.findSome? (fault? limit) = some (.integerTooLong digits) := by
  induction stop with
  | here rest long =>
    obtain ⟨digits, bound, faulty⟩ := fault?_of_isTooLong long
    refine ⟨digits, bound, ?_⟩
    rw [List.findSome?_cons, faulty]
  | later passes _ ih =>
    obtain ⟨digits, bound, faulty⟩ := ih
    refine ⟨digits, bound, ?_⟩
    rw [List.findSome?_cons, fault?_eq_none_iff.2 passes]
    exact faulty

theorem findSome?_of_not_stopTooLong (onward : ¬StopTooLong limit checks) :
    checks.findSome? (fault? limit) = (checks.filterMap node?).findSome? Raw.fault? := by
  induction checks with
  | nil => rfl
  | cons check rest ih =>
    have here := fault?_of_not_isTooLong fun long => onward (.here rest long)
    have beyond (passes : check.fault? limit = none) :=
      ih fun stop => onward (.later (fault?_eq_none_iff.1 passes) stop)
    rw [List.findSome?_cons]
    cases check with
    | name key =>
      rw [here]
      exact beyond here
    | shape raw =>
      have later : (Check.shape raw :: rest).filterMap node? = raw :: rest.filterMap node? := rfl
      rw [here, later, List.findSome?_cons, node?, Option.bind_some]
      cases faulty : raw.fault? with
      | some error => rfl
      | none => exact beyond (here.trans faulty)

end Check

namespace Raw

/-- What the reader looks at, in order: the shape of a node, and then for each slot the key and the child. -/
def checks (raw : Raw) : List Check :=
  .shape raw :: raw.slots.attach.flatMap fun entry => .name entry.1.1 :: entry.1.2.checks
termination_by sizeOf raw
decreasing_by exact sizeOf_lt_of_mem_slots entry.2

theorem checks_eq (raw : Raw) :
    raw.checks = .shape raw :: raw.slots.flatMap fun entry => .name entry.1 :: entry.2.checks := by
  have same : (raw.slots.attach.flatMap fun entry => Check.name entry.1.1 :: entry.1.2.checks) =
      raw.slots.attach.unattach.flatMap fun entry => .name entry.1 :: entry.2.checks :=
    List.flatMap_subtype fun _ _ => rfl
  rw [checks, same, List.unattach_attach]

theorem filterMap_checks (raw : Raw) : raw.checks.filterMap Check.node? = raw.nodes := by
  induction raw using Raw.induct_slots with
  | step raw ih =>
    have below : (raw.slots.flatMap fun entry => .name entry.1 :: entry.2.checks).filterMap Check.node? =
        raw.slots.flatMap fun entry => entry.2.nodes := by
      rw [List.filterMap_flatMap]
      exact List.flatMap_congr ih
    rw [checks_eq, nodes_eq, ← below]
    rfl

/-- In reading the value the first thing to go wrong is that something cannot be written. -/
def MeetsTooLong (limit : DigitLimit) (raw : Raw) : Prop :=
  Check.StopTooLong limit raw.checks

end Raw

/-! ## Raw values without long integers -/

namespace Raw

variable {limit : DigitLimit} {digits : Nat} {raw value : Raw} {entries : List (Raw × Raw)}
  {entry : Raw × Raw}

theorem itemsWritable_iff {items : List Raw} :
    itemsWritable digits items = true ↔ ∀ item ∈ items, item.isWritable digits = true := by
  induction items with
  | nil => exact iff_of_true rfl nofun
  | cons item rest ih => rw [itemsWritable, Bool.and_eq_true, ih, List.forall_mem_cons]

theorem entriesWritable_iff : entriesWritable digits entries = true ↔
    ∀ entry ∈ entries, entry.1.isWritable digits = true ∧ entry.2.isWritable digits = true := by
  induction entries with
  | nil => exact iff_of_true rfl nofun
  | cons entry rest ih =>
    rw [entriesWritable, Bool.and_eq_true, Bool.and_eq_true, ih, List.forall_mem_cons]

theorem isWritable_of_holds {key : String} (writable : (mapping entries).isWritable digits = true)
    (found : Holds key entries value) : value.isWritable digits = true :=
  (entriesWritable_iff.1 writable _ found.mem).2

/-- An octet has three digits at most. -/
theorem isWritable_octet (wide : 3 ≤ digits) (octet : UInt8) :
    (integer octet.toNat).isWritable digits = true := by
  have octets : octet.toNat < 10 ^ 3 := Nat.lt_trans octet.toNat_lt (by decide)
  exact decide_eq_true (Nat.lt_of_lt_of_le octets (Nat.pow_le_pow_right (by decide) wide))

theorem isWritable_of_items? {items : List Raw} (wide : 3 ≤ digits) (writable : raw.isWritable digits = true)
    (sequence : raw.items? = some items) : ∀ item ∈ items, item.isWritable digits = true := by
  cases raw with
  | list given =>
    cases sequence
    exact itemsWritable_iff.1 writable
  | tuple given =>
    cases sequence
    exact itemsWritable_iff.1 writable
  | buffer octets =>
    cases sequence
    exact List.forall_mem_map.2 fun octet _ => isWritable_octet wide octet
  | _ => cases sequence

theorem isWritable_of_mem_slots (wide : 3 ≤ digits) (writable : raw.isWritable digits = true)
    (member : entry ∈ raw.slots) : entry.1.isWritable digits = true ∧ entry.2.isWritable digits = true := by
  obtain ⟨segment, slots, describes, member⟩ := exists_describes_of_mem_slots member
  have within : (mapping slots).isWritable digits = true := by
    cases describes with
    | sequence items =>
      exact isWritable_of_items? wide writable items _ (List.mem_cons_of_mem _ List.mem_cons_self)
    | mapping named slotted =>
      cases slotted with
      | missing => cases member
      | empty => cases member
      | mapping found => exact isWritable_of_holds writable found
  exact entriesWritable_iff.1 within entry member

theorem eq_of_value?_partless (shown : raw.partless.value? = some value) : value = raw := by
  unfold partless at shown
  split at shown
  · exact (Option.some.inj shown).symm
  · split at shown
    · exact (Option.some.inj shown).symm
    · cases shown

theorem isWritable_of_parts? {first second : Raw} (wide : 3 ≤ digits) (writable : raw.isWritable digits = true)
    (parts : raw.parts? = some (first, second)) : first.isWritable digits = true := by
  by_cases named : ∃ entries, raw = .mapping entries
  · obtain ⟨entries, rfl⟩ := named
    obtain ⟨value, found, same⟩ := Option.map_eq_some_iff.1 parts
    cases same
    exact isWritable_of_holds writable (find?_eq_some_iff.1 found)
  · obtain ⟨extra, items⟩ := exists_items?_of_parts? (not_exists.1 named) parts
    exact isWritable_of_items? wide writable items first List.mem_cons_self

/-- What the message on a node shows is the node or the first of its parts. -/
theorem isWritable_of_fault? {error : TreeError} (wide : 3 ≤ digits) (writable : raw.isWritable digits = true)
    (faulty : raw.fault? = some error) (shown : error.value? = some value) : value.isWritable digits = true := by
  rcases fault?_cases faulty with ⟨_, _, rfl⟩ | ⟨first, second, parts, faulty⟩
  · rwa [eq_of_value?_partless shown]
  · rcases partsFault?_cases faulty with ⟨segment, rfl⟩ | rfl
    · cases shown
    · cases shown
      exact isWritable_of_parts? wide writable parts

theorem not_isTooLong_of_mem_checks (short : ∀ digits ∈ limit, 3 ≤ digits ∧ raw.isWritable digits = true) :
    ∀ check ∈ raw.checks, ¬check.IsTooLong limit := by
  induction raw using Raw.induct_slots with
  | step raw ih =>
    intro check among
    rw [checks_eq, List.mem_cons, List.mem_flatMap] at among
    rcases among with rfl | ⟨entry, member, among⟩
    · rintro ⟨error, value, faulty, shown, unwritten⟩
      refine unwritten (exists_shows_iff.2 fun digits bound => ?_)
      exact isWritable_of_fault? (short digits bound).1 (short digits bound).2 faulty shown
    · have parts (digits : Nat) (bound : digits ∈ limit) :=
        isWritable_of_mem_slots (short digits bound).1 (short digits bound).2 member
      rcases List.mem_cons.1 among with rfl | below
      · intro unnamed
        exact unnamed (exists_names_iff.2 (exists_shows_iff.2 fun digits bound => (parts digits bound).1))
      · exact ih entry member (fun digits bound => ⟨(short digits bound).1, (parts digits bound).2⟩) check below

/-- Nothing in a value cannot be written if every integer in it is short enough. -/
theorem not_meetsTooLong (short : ∀ digits ∈ limit, 3 ≤ digits ∧ raw.isWritable digits = true) :
    ¬raw.MeetsTooLong limit := by
  intro meets
  obtain ⟨check, among, long⟩ := meets.exists_isTooLong
  exact not_isTooLong_of_mem_checks short check among long

end Raw
end RouteParams
