import Mathlib.Data.List.Nodup
import Mathlib.Data.List.Perm.Subperm
import RouteParams.Proofs.Resolution.Independence
import RouteParams.Proofs.Tree.SlotTable

/-!
Sameness of trees. Two trees are the same if their nodes have the same segments and, under the same names, the
same children; that is, if they become equal when the slots of every node are sorted by name. So sameness is an
equivalence, and it is kept when subtrees are replaced by trees that are the same or slots are reordered. The
slots of a node have different names throughout, as they do in the nodes that are created or read.
-/
namespace RouteParams

namespace NameTable

variable {α : Type}

/-- The entries in the order of their names. -/
def sorted (table : NameTable α) : NameTable α :=
  table.mergeSort fun first second => decide (first.1 ≤ second.1)

theorem sorted_perm (table : NameTable α) : (sorted table).Perm table :=
  List.mergeSort_perm table _

theorem pairwise_sorted (table : NameTable α) :
    (sorted table).Pairwise fun first second => first.1 ≤ second.1 := by
  have ordered : (sorted table).Pairwise fun first second => decide (first.1 ≤ second.1) = true := by
    refine List.pairwise_mergeSort ?_ ?_ table
    · intro first second third below above
      rw [decide_eq_true_iff] at below above ⊢
      exact String.le_trans below above
    · intro first second
      rw [Bool.or_eq_true, decide_eq_true_iff, decide_eq_true_iff]
      exact String.le_total first.1 second.1
  exact ordered.imp fun below => of_decide_eq_true below

theorem mem_of_lookup {table : NameTable α} {name : String} {value : α}
    (found : table.lookup name = some value) : (name, value) ∈ table := by
  obtain ⟨before, after, rfl, _⟩ := List.lookup_eq_some_iff.1 found
  exact List.mem_append_right before List.mem_cons_self

theorem lookup_of_mem {table : NameTable α} (distinct : (names table).Nodup) {entry : String × α}
    (member : entry ∈ table) : table.lookup entry.1 = some entry.2 := by
  induction table with
  | nil => cases member
  | cons first rest ih =>
    obtain ⟨fresh, distinct⟩ := List.nodup_cons.1 distinct
    rw [lookup_entry]
    rcases List.mem_cons.1 member with rfl | later
    · rw [if_pos rfl]
    · have different : entry.1 ≠ first.1 := by
        intro same
        exact fresh (same ▸ List.mem_map_of_mem later)
      rw [if_neg different, ih distinct later]

/-- Sorting leaves nothing of the order in which different names were written. -/
theorem sorted_eq_of_perm {first second : NameTable α} (perm : first.Perm second)
    (distinct : (names first).Nodup) : sorted first = sorted second := by
  refine List.Perm.eq_of_pairwise ?_ (pairwise_sorted first) (pairwise_sorted second)
    ((sorted_perm first).trans (perm.trans (sorted_perm second).symm))
  intro entry other member memberOther below above
  have here := (sorted_perm first).mem_iff.1 member
  have there := perm.mem_iff.2 ((sorted_perm second).mem_iff.1 memberOther)
  have name : entry.1 = other.1 := String.le_antisymm below above
  have value := (lookup_of_mem distinct here).symm.trans (name ▸ lookup_of_mem distinct there)
  exact Prod.ext name (Option.some.inj value)

end NameTable

namespace LayoutTree

/-- What holds of every node if it holds of its children holds of every tree. -/
@[elab_as_elim]
theorem induct_children {motive : LayoutTree → Prop}
    (node : ∀ segment slots, (∀ slot ∈ slots, motive slot.2) → motive (.node segment slots))
    (tree : LayoutTree) : motive tree :=
  @LayoutTree.rec motive (fun slots => ∀ slot ∈ slots, motive slot.2) (fun slot => motive slot.2)
    node (fun _ member => absurd member List.not_mem_nil)
    (fun _ _ first later => List.forall_mem_cons.2 ⟨first, later⟩) (fun _ _ child => child) tree

mutual

/-- The tree with the slots of every node in the order of their names. -/
def canonical : LayoutTree → LayoutTree
  | .node segment slots => .node segment (NameTable.sorted (slotsCanonical slots))

def slotsCanonical : List (String × LayoutTree) → List (String × LayoutTree)
  | [] => []
  | (name, child) :: rest => (name, child.canonical) :: slotsCanonical rest

end

variable {segment segment' : String} {slots others : List (String × LayoutTree)}

theorem slotsCanonical_eq_map (slots : List (String × LayoutTree)) :
    slotsCanonical slots = slots.map fun slot => (slot.1, slot.2.canonical) := by
  induction slots with
  | nil => rfl
  | cons slot rest ih => rw [slotsCanonical, ih, List.map_cons]

theorem names_slotsCanonical (slots : List (String × LayoutTree)) :
    NameTable.names (slotsCanonical slots) = NameTable.names slots := by
  rw [slotsCanonical_eq_map, NameTable.names, List.map_map]
  rfl

theorem slotsSame_iff : slotsSame slots others = true ↔
    ∀ slot ∈ slots, ∃ other, others.lookup slot.1 = some other ∧ slot.2.same other = true := by
  induction slots with
  | nil => exact ⟨fun _ _ member => absurd member List.not_mem_nil, fun _ => rfl⟩
  | cons slot rest ih =>
    rw [slotsSame, Bool.and_eq_true, ih, List.forall_mem_cons]
    refine and_congr_left' ?_
    cases others.lookup slot.1 with
    | none => simp
    | some other => simp

theorem same_node_iff : (node segment slots).same (node segment' others) = true ↔
    segment = segment' ∧ slots.length = others.length ∧
      ∀ slot ∈ slots, ∃ other, others.lookup slot.1 = some other ∧ slot.2.same other = true := by
  rw [same, Bool.and_eq_true, Bool.and_eq_true, beq_iff_eq, beq_iff_eq, slotsSame_iff, and_assoc]

theorem canonical_node_eq_iff :
    (node segment slots).canonical = (node segment' others).canonical ↔
      segment = segment' ∧
        NameTable.sorted (slotsCanonical slots) = NameTable.sorted (slotsCanonical others) := by
  rw [canonical, canonical, LayoutTree.node.injEq]

/-- Trees are the same exactly if they are equal once the slots of every node are sorted. -/
theorem same_iff_canonical_eq {tree other : LayoutTree} (distinct : tree.isDistinct = true)
    (distinct' : other.isDistinct = true) :
    tree.same other = true ↔ tree.canonical = other.canonical := by
  induction tree using induct_children generalizing other with
  | node segment slots ih =>
    obtain ⟨segment', others⟩ := other
    obtain ⟨names, below⟩ := isDistinct_iff.1 distinct
    obtain ⟨names', below'⟩ := isDistinct_iff.1 distinct'
    rw [same_node_iff, canonical_node_eq_iff]
    refine and_congr_right fun _ => ?_
    constructor
    · rintro ⟨length, children⟩
      have distinctNames : (NameTable.names (slotsCanonical slots)).Nodup := by
        rwa [names_slotsCanonical]
      have among : slotsCanonical slots ⊆ slotsCanonical others := by
        intro entry member
        rw [slotsCanonical_eq_map] at member ⊢
        obtain ⟨slot, inside, rfl⟩ := List.mem_map.1 member
        obtain ⟨other, found, alike⟩ := children slot inside
        have there := NameTable.mem_of_lookup found
        rw [(ih slot inside (below slot inside) (below' _ there)).1 alike]
        exact List.mem_map_of_mem there
      have perm : (slotsCanonical slots).Perm (slotsCanonical others) := by
        refine (List.subperm_of_subset (List.Nodup.of_map _ distinctNames) among).perm_of_length_le
          (Nat.le_of_eq ?_)
        rw [slotsCanonical_eq_map, slotsCanonical_eq_map, List.length_map, List.length_map, length]
      exact NameTable.sorted_eq_of_perm perm distinctNames
    · intro equal
      have perm : (slotsCanonical slots).Perm (slotsCanonical others) := by
        have sorted := NameTable.sorted_perm (slotsCanonical slots)
        rw [equal] at sorted
        exact sorted.symm.trans (NameTable.sorted_perm (slotsCanonical others))
      rw [slotsCanonical_eq_map, slotsCanonical_eq_map] at perm
      refine ⟨by simpa using perm.length_eq, ?_⟩
      intro slot member
      obtain ⟨other, there, equal⟩ := List.mem_map.1 (perm.mem_iff.1 (List.mem_map_of_mem member))
      obtain ⟨name, children⟩ := Prod.mk.inj equal
      refine ⟨other.2, name ▸ NameTable.lookup_of_mem names' there, ?_⟩
      exact (ih slot member (below slot member) (below' other there)).2 children.symm

/-- A node is the same as another exactly if both have the same segment and the same names, with children
under them that are the same. -/
theorem same_iff_names {tree other : LayoutTree} (distinct : tree.isDistinct = true)
    (distinct' : other.isDistinct = true) :
    tree.same other = true ↔ tree.segment = other.segment ∧
      (∀ name, name ∈ NameTable.names tree.slots ↔ name ∈ NameTable.names other.slots) ∧
      ∀ name child child', tree.slots.lookup name = some child → other.slots.lookup name = some child' →
        child.same child' = true := by
  obtain ⟨segment, slots⟩ := tree
  obtain ⟨segment', others⟩ := other
  have names := (isDistinct_iff.1 distinct).1
  have names' := (isDistinct_iff.1 distinct').1
  rw [same_node_iff]
  refine and_congr_right fun _ => ?_
  constructor
  · rintro ⟨length, children⟩
    have among : NameTable.names slots ⊆ NameTable.names others := by
      intro name member
      obtain ⟨slot, inside, rfl⟩ := List.mem_map.1 member
      obtain ⟨other, found, _⟩ := children slot inside
      exact List.mem_map.2 ⟨_, NameTable.mem_of_lookup found, rfl⟩
    have perm : (NameTable.names slots).Perm (NameTable.names others) := by
      refine (List.subperm_of_subset names among).perm_of_length_le (Nat.le_of_eq ?_)
      rw [NameTable.names, NameTable.names, List.length_map, List.length_map, length]
    refine ⟨fun _ => perm.mem_iff, ?_⟩
    intro name child child' found found'
    obtain ⟨other, there, alike⟩ := children _ (NameTable.mem_of_lookup found)
    rwa [Option.some.inj (found'.symm.trans there)]
  · rintro ⟨same, children⟩
    have perm : (NameTable.names slots).Perm (NameTable.names others) :=
      (List.perm_ext_iff_of_nodup names names').2 same
    refine ⟨by simpa [NameTable.names] using perm.length_eq, ?_⟩
    intro slot member
    have there : slot.1 ∈ NameTable.names others := (same slot.1).1 (List.mem_map_of_mem member)
    obtain ⟨other, inside, name⟩ := List.mem_map.1 there
    have found : others.lookup slot.1 = some other.2 := name ▸ NameTable.lookup_of_mem names' inside
    exact ⟨other.2, found, children slot.1 slot.2 other.2 (NameTable.lookup_of_mem names member) found⟩

/-! ## Replacing and reordering -/

mutual

/-- The second tree is the first with any subtrees replaced by trees that are the same and the slots of any
nodes put in another order. -/
inductive Rearranges : LayoutTree → LayoutTree → Prop
  | replaced {tree other : LayoutTree} (same : (tree == other) = true) : Rearranges tree other
  | node (segment : String) {slots others reordered : List (String × LayoutTree)}
      (below : SlotsRearrange slots others) (perm : others.Perm reordered) :
      Rearranges (.node segment slots) (.node segment reordered)

inductive SlotsRearrange : List (String × LayoutTree) → List (String × LayoutTree) → Prop
  | nil : SlotsRearrange [] []
  | cons (name : String) {child other : LayoutTree} {rest others : List (String × LayoutTree)}
      (first : Rearranges child other) (later : SlotsRearrange rest others) :
      SlotsRearrange ((name, child) :: rest) ((name, other) :: others)

end

theorem SlotsRearrange.names_eq {slots others : List (String × LayoutTree)}
    (rearrange : SlotsRearrange slots others) : NameTable.names others = NameTable.names slots := by
  match rearrange with
  | .nil => rfl
  | .cons name _ later => exact congrArg (name :: ·) later.names_eq

mutual

theorem Rearranges.same {tree other : LayoutTree} (rearranges : Rearranges tree other)
    (distinct : tree.isDistinct = true) : tree.same other = true := by
  match rearranges with
  | .replaced same => exact same
  | @Rearranges.node segment slots others reordered below perm =>
    obtain ⟨names, children⟩ := isDistinct_iff.1 distinct
    have order : (NameTable.names slots).Perm (NameTable.names reordered) := by
      rw [← below.names_eq]
      exact perm.map Prod.fst
    refine same_node_iff.2 ⟨rfl, by simpa [NameTable.names] using order.length_eq, ?_⟩
    intro slot member
    obtain ⟨other, there, name, alike⟩ := below.children children slot member
    refine ⟨other.2, ?_, alike⟩
    rw [← name]
    exact NameTable.lookup_of_mem (order.nodup names) (perm.mem_iff.1 there)

theorem SlotsRearrange.children {slots others : List (String × LayoutTree)}
    (rearrange : SlotsRearrange slots others) (distinct : ∀ slot ∈ slots, slot.2.isDistinct = true) :
    ∀ slot ∈ slots, ∃ other ∈ others, other.1 = slot.1 ∧ slot.2.same other.2 = true := by
  match rearrange with
  | .nil => exact fun _ member => absurd member List.not_mem_nil
  | @SlotsRearrange.cons name _ other _ _ first later =>
    obtain ⟨child, below⟩ := List.forall_mem_cons.1 distinct
    refine List.forall_mem_cons.2 ⟨⟨(name, other), List.mem_cons_self, rfl, first.same child⟩, ?_⟩
    intro slot member
    obtain ⟨found, there, alike⟩ := later.children below slot member
    exact ⟨found, List.mem_cons_of_mem _ there, alike⟩

end

theorem slotsRearrange_canonical {slots : List (String × LayoutTree)}
    (children : ∀ slot ∈ slots, Rearranges slot.2 slot.2.canonical) :
    SlotsRearrange slots (slotsCanonical slots) := by
  induction slots with
  | nil => exact .nil
  | cons slot rest ih =>
    obtain ⟨child, children⟩ := List.forall_mem_cons.1 children
    exact .cons slot.1 child (ih children)

theorem rearranges_canonical (tree : LayoutTree) : Rearranges tree tree.canonical := by
  induction tree using induct_children with
  | node segment slots ih =>
    exact .node segment (slotsRearrange_canonical ih) (NameTable.sorted_perm _).symm

theorem hash_eq_of_segment_eq {first second : LayoutTree} (same : first.segment = second.segment) :
    hash first = hash second :=
  congrArg (fun segment : String => hash segment) same

/-- Trees are the same if their canonical forms are equal: the segments agree, the names agree and the children
under them are the same. This is an equivalence. It holds between a tree and what becomes of it when subtrees are
replaced by trees that are the same and slots are reordered, and trees that are the same have the same hash, which
is that of the root segment. -/
theorem same_congruence {tree other third : LayoutTree} (distinct : tree.isDistinct = true)
    (distinct' : other.isDistinct = true) (distinct'' : third.isDistinct = true) :
    ((tree == other) = true ↔ tree.canonical = other.canonical) ∧
    ((tree == other) = true ↔ tree.segment = other.segment ∧
      (∀ name, name ∈ NameTable.names tree.slots ↔ name ∈ NameTable.names other.slots) ∧
      ∀ name child child', tree.slots.lookup name = some child → other.slots.lookup name = some child' →
        (child == child') = true) ∧
    (tree == tree) = true ∧
    ((tree == other) = true → (other == tree) = true) ∧
    ((tree == other) = true → (other == third) = true → (tree == third) = true) ∧
    (∀ rearranged, Rearranges tree rearranged → (tree == rearranged) = true) ∧
    (tree == tree.canonical) = true ∧
    ((tree == other) = true → hash tree = hash other) ∧
    ∀ first second : LayoutTree, first.segment = second.segment → hash first = hash second := by
  refine ⟨same_iff_canonical_eq distinct distinct', same_iff_names distinct distinct', ?_, ?_, ?_,
    fun _ rearranges => rearranges.same distinct, (rearranges_canonical tree).same distinct, ?_,
    fun _ _ => hash_eq_of_segment_eq⟩
  · exact (same_iff_canonical_eq distinct distinct).2 rfl
  · intro same
    exact (same_iff_canonical_eq distinct' distinct).2
      ((same_iff_canonical_eq distinct distinct').1 same).symm
  · intro same same'
    exact (same_iff_canonical_eq distinct distinct'').2
      (((same_iff_canonical_eq distinct distinct').1 same).trans
        ((same_iff_canonical_eq distinct' distinct'').1 same'))
  · intro same
    exact hash_eq_of_segment_eq ((same_iff_names distinct distinct').1 same).1

/-- The slots are in another order under two nodes of the second tree, and under one more of the third. -/
theorem same_congruence_in_three_orders :
    let item : LayoutTree := .node "[item]" [("tab", .node "@tab" []), ("children", .node "" [])]
    let item' : LayoutTree := .node "[item]" [("children", .node "" []), ("tab", .node "@tab" [])]
    let side : LayoutTree := .node "(side)" [("a", .node "a" []), ("b", .node "b" [])]
    let side' : LayoutTree := .node "(side)" [("b", .node "b" []), ("a", .node "a" [])]
    let tree : LayoutTree := .node "shop" [("modal", side), ("children", item)]
    let other : LayoutTree := .node "shop" [("children", item'), ("modal", side)]
    let third : LayoutTree := .node "shop" [("children", item'), ("modal", side')]
    tree.isDistinct = true ∧ other.isDistinct = true ∧ third.isDistinct = true ∧
      tree.canonical = other.canonical ∧ (other == tree) = true ∧ (tree == third) = true ∧
      hash tree = hash other ∧
      (tree == .node "shop" [("children", item), ("modal", side')]) = true := by
  intro item item' side side' tree other third
  have distinct : tree.isDistinct = true := by decide +kernel
  have distinct' : other.isDistinct = true := by decide +kernel
  have distinct'' : third.isDistinct = true := by decide +kernel
  obtain ⟨canonical, _, _, symmetric, transitive, rearranged, _, hashed, _⟩ :=
    same_congruence distinct distinct' distinct''
  have same : (tree == other) = true := by decide +kernel
  have below : Rearranges tree (.node "shop" [("children", item), ("modal", side')]) :=
    .node "shop" (.cons "modal" (.replaced (by decide +kernel))
      (.cons "children" (.replaced (by decide +kernel)) .nil)) (.swap _ _ [])
  exact ⟨distinct, distinct', distinct'', canonical.1 same, symmetric same,
    transitive same (by decide +kernel), hashed same, rearranged _ below⟩

end LayoutTree
end RouteParams
