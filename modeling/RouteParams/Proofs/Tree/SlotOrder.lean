import RouteParams.Proofs.Tree.Preorder
import RouteParams.Tree.Reader

/-!
Trees that are the same. Under each node they hold the same children under the same names, in an order
that may differ from node to node, so the places of the one are those of the other in another order. The
slots of a node must have different names, as they do in the nodes that are created or read.
-/
namespace RouteParams

namespace NameTable

variable {α : Type} {name : String} {value : α} {entry : String × α}

theorem mem_of_mem_put {table : NameTable α} (member : entry ∈ put name value table) :
    entry = (name, value) ∨ entry ∈ table := by
  induction table with
  | nil => exact .inl (List.mem_singleton.1 member)
  | cons first rest ih =>
    rw [put] at member
    split at member
    · exact (List.mem_cons.1 member).imp_right (List.mem_cons_of_mem first)
    · rcases List.mem_cons.1 member with same | later
      · exact .inr (List.mem_cons.2 (.inl same))
      · exact (ih later).imp_right (List.mem_cons_of_mem first)

theorem mem_of_mem_ofEntries {entries : List (String × α)} (member : entry ∈ ofEntries entries) :
    entry ∈ entries := by
  suffices ∀ table : NameTable α,
      entry ∈ entries.foldl (fun table entry => put entry.1 entry.2 table) table →
        entry ∈ table ∨ entry ∈ entries from
    (this [] member).resolve_left List.not_mem_nil
  clear member
  induction entries with
  | nil => exact fun _ member => .inl member
  | cons first rest ih =>
    intro table member
    rcases ih _ member with early | late
    · rcases mem_of_mem_put early with same | early
      · exact .inr (List.mem_cons.2 (.inl same))
      · exact .inl early
    · exact .inr (List.mem_cons_of_mem first late)

end NameTable

namespace LayoutTree

mutual

/-- No two slots of a node have the same name. -/
def isDistinct : LayoutTree → Bool
  | .node _ slots => decide (NameTable.names slots).Nodup && slotsDistinct slots

def slotsDistinct : List (String × LayoutTree) → Bool
  | [] => true
  | (_, child) :: rest => child.isDistinct && slotsDistinct rest

end

theorem slotsDistinct_iff {slots : List (String × LayoutTree)} :
    slotsDistinct slots = true ↔ ∀ slot ∈ slots, slot.2.isDistinct = true := by
  induction slots with
  | nil => exact ⟨fun _ _ member => absurd member List.not_mem_nil, fun _ => rfl⟩
  | cons slot rest ih => rw [slotsDistinct, Bool.and_eq_true, ih, List.forall_mem_cons]

theorem isDistinct_iff {segment : String} {slots : List (String × LayoutTree)} :
    (node segment slots).isDistinct = true ↔
      (NameTable.names slots).Nodup ∧ ∀ slot ∈ slots, slot.2.isDistinct = true := by
  rw [isDistinct, Bool.and_eq_true, decide_eq_true_eq, slotsDistinct_iff]

theorem isDistinct_assemble (segment : String) {children : List (String × LayoutTree)}
    (distinct : ∀ child ∈ children, child.2.isDistinct = true) :
    (assemble segment children).isDistinct = true :=
  isDistinct_iff.2 ⟨NameTable.nodup_names_ofEntries children,
    fun slot member => distinct slot (NameTable.mem_of_mem_ofEntries member)⟩

theorem isDistinct_create {segment : String} {slots : NameTable LayoutTree}
    (distinct : (node segment slots).isDistinct = true) {children? : Option LayoutTree}
    (distinctChildren : ∀ children ∈ children?, children.isDistinct = true) (primary : String) :
    (create segment slots children? primary).isDistinct = true := by
  cases children? with
  | none => exact distinct
  | some children =>
    obtain ⟨names, below⟩ := isDistinct_iff.1 distinct
    refine isDistinct_iff.2 ⟨NameTable.nodup_names_put names, ?_⟩
    intro slot member
    rcases NameTable.mem_of_mem_put member with same | given
    · rw [same]
      exact distinctChildren children rfl
    · exact below slot given

theorem slotsPlaces_append (ancestors : List String) (first second : List (String × LayoutTree)) :
    slotsPlaces ancestors (first ++ second) =
      slotsPlaces ancestors first ++ slotsPlaces ancestors second := by
  induction first with
  | nil => rfl
  | cons slot rest ih =>
    rw [List.cons_append, slotsPlaces, slotsPlaces, ih, List.append_assoc]

theorem slotsSame_congr {slots others others' : List (String × LayoutTree)}
    (alike : ∀ name ∈ NameTable.names slots, others.lookup name = others'.lookup name) :
    slotsSame slots others = slotsSame slots others' := by
  induction slots with
  | nil => rfl
  | cons slot rest ih =>
    obtain ⟨first, later⟩ := List.forall_mem_cons.1 alike
    rw [slotsSame, slotsSame, first, ih later]

/-- The slot that answers to the first name can be taken out of both lists. -/
theorem slotsSame_cons {name : String} {child : LayoutTree}
    {rest others : List (String × LayoutTree)}
    (same : slotsSame ((name, child) :: rest) others = true)
    (fresh : name ∉ NameTable.names rest) :
    ∃ before other after, others = before ++ (name, other) :: after ∧
      child.same other = true ∧ slotsSame rest (before ++ after) = true := by
  rw [slotsSame, Bool.and_eq_true] at same
  obtain ⟨found, later⟩ := same
  cases answer : others.lookup name with
  | none =>
    rw [answer] at found
    cases found
  | some other =>
    rw [answer] at found
    obtain ⟨before, after, rfl, _⟩ := List.lookup_eq_some_iff.1 answer
    refine ⟨before, other, after, rfl, found, ?_⟩
    rw [← later]
    apply slotsSame_congr
    intro asked member
    have different : asked ≠ name := by
      rintro rfl
      exact fresh member
    rw [List.lookup_append, List.lookup_append, List.lookup_cons, beq_false_of_ne different]

mutual

theorem perm_placesUnder (ancestors : List String) {tree other : LayoutTree}
    (same : tree.same other = true) (distinct : tree.isDistinct = true) :
    (placesUnder ancestors tree).Perm (placesUnder ancestors other) := by
  match tree, other with
  | .node segment slots, .node segment' others =>
    rw [LayoutTree.same, Bool.and_eq_true, Bool.and_eq_true, beq_iff_eq, beq_iff_eq] at same
    rw [isDistinct, Bool.and_eq_true, decide_eq_true_eq] at distinct
    obtain ⟨⟨rfl, length⟩, same⟩ := same
    rw [placesUnder, placesUnder]
    exact (perm_slotsPlaces _ same length distinct.1 distinct.2).cons _

theorem perm_slotsPlaces (ancestors : List String) {slots others : List (String × LayoutTree)}
    (same : slotsSame slots others = true) (length : slots.length = others.length)
    (names : (NameTable.names slots).Nodup) (distinct : slotsDistinct slots = true) :
    (slotsPlaces ancestors slots).Perm (slotsPlaces ancestors others) := by
  match slots with
  | [] =>
    rw [List.length_eq_zero_iff.1 length.symm]
  | (name, child) :: rest =>
    obtain ⟨fresh, names⟩ := List.nodup_cons.1 names
    rw [slotsDistinct, Bool.and_eq_true] at distinct
    obtain ⟨before, other, after, rfl, alike, same⟩ := slotsSame_cons same fresh
    have length : rest.length = (before ++ after).length := by
      simp only [List.length_append, List.length_cons] at length ⊢
      omega
    have first := perm_placesUnder ancestors alike distinct.1
    have later := perm_slotsPlaces ancestors same length names distinct.2
    -- The places of the child that answers to the first stand between those of the others.
    rw [slotsPlaces_append] at later
    rw [slotsPlaces, slotsPlaces_append, slotsPlaces]
    exact (first.append later).trans (List.perm_append_comm_assoc _ _ _)

end

theorem perm_places {tree other : LayoutTree} (same : (tree == other) = true)
    (distinct : tree.isDistinct = true) : tree.places.Perm other.places :=
  perm_placesUnder [] same distinct

end LayoutTree
end RouteParams
