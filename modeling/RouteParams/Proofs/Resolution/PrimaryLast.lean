import RouteParams.Proofs.Resolution.Increments
import RouteParams.Proofs.Resolution.ParamVisits
import RouteParams.Proofs.Tree.SlotTable

/-!
The primary content of a created node. It is written to its slot as any entry is written to a table, so it comes
after the parallel slots unless the slots hold its name already, with other slots behind it. Where it comes last,
a resolution has met all parameters of the parallel slots when it comes to those of the primary content.
-/
namespace RouteParams

namespace NameTable

variable {α : Type} {name : String} {old : α} {table before after : NameTable α}

/-- No entry comes after that of the name. -/
def LastIfPresent (name : String) (table : NameTable α) : Prop :=
  name ∈ names table → (names table).getLast? = some name

instance (name : String) (table : NameTable α) : Decidable (table.LastIfPresent name) :=
  inferInstanceAs (Decidable (_ → _))

theorem erase_of_not_mem (fresh : name ∉ names table) : erase name table = table := by
  refine List.filter_eq_self.2 fun entry inside => bne_iff_ne.2 ?_
  rintro rfl
  exact fresh (List.mem_map_of_mem inside)

theorem erase_of_split (fresh : name ∉ names before) (fresh' : name ∉ names after) :
    erase name (before ++ (name, old) :: after) = before ++ after := by
  rw [erase, List.filter_append, List.filter_cons_of_neg (by simp)]
  exact congrArg₂ (· ++ ·) (erase_of_not_mem fresh) (erase_of_not_mem fresh')

theorem exists_split (inside : name ∈ names table) :
    ∃ before old after, table = before ++ (name, old) :: after := by
  obtain ⟨entry, among, rfl⟩ := List.mem_map.1 inside
  obtain ⟨before, after, rfl⟩ := List.append_of_mem among
  exact ⟨before, entry.2, after, rfl⟩

theorem lastIfPresent_split (fresh : name ∉ names after) :
    LastIfPresent name (before ++ (name, old) :: after) ↔ after = [] := by
  cases after with
  | nil => simp [LastIfPresent, names]
  | cons entry rest =>
    refine iff_of_false (fun last => ?_) (List.cons_ne_nil entry rest)
    have found := last (by simp [names])
    rw [names, List.map_append, List.map_cons, List.getLast?_append_cons, List.map_cons,
      List.getLast?_cons_cons] at found
    exact fresh (List.mem_of_getLast? found)

/-- Writing under a name puts the entry behind all others exactly if nothing stands behind the name. -/
theorem put_eq_append_iff (distinct : (names table).Nodup) (value : α) :
    put name value table = erase name table ++ [(name, value)] ↔ table.LastIfPresent name := by
  by_cases inside : name ∈ names table
  · obtain ⟨before, old, after, rfl⟩ := exists_split inside
    obtain ⟨fresh, fresh'⟩ := fresh_of_split distinct
    rw [put_of_split fresh, erase_of_split fresh fresh', lastIfPresent_split fresh', List.append_assoc,
      List.append_cancel_left_eq]
    -- with an entry behind, the new entry would have to be that one, whose name differs
    cases after with
    | nil => simp
    | cons entry rest =>
      refine iff_of_false (fun same => ?_) (List.cons_ne_nil entry rest)
      have first : (name, value) = entry := List.head_eq_of_cons_eq same
      exact fresh' (first ▸ List.mem_cons_self)
  · rw [put_of_not_mem inside, erase_of_not_mem inside]
    exact iff_of_true rfl fun present => absurd present inside

end NameTable

def Visit.declares (name : String) (visit : Visit) : Bool :=
  visit.declaration?.any fun declaration => declaration.name == name

namespace LayoutTree

variable {options : Options} {route : Route}

theorem slotsParamVisits_concat (depth : Nat) (others : NameTable LayoutTree) (primary : String)
    (children : LayoutTree) : slotsParamVisits depth (others ++ [(primary, children)]) =
      slotsParamVisits depth others ++ paramVisits depth children := by
  rw [slotsParamVisits, slotsVisits_append, List.filter_append, slotsVisits, slotsVisits, List.append_nil]
  rfl

theorem paramVisits_concat (depth : Nat) (segment : String) (others : NameTable LayoutTree) (primary : String)
    (children : LayoutTree) : paramVisits depth (.node segment (others ++ [(primary, children)])) =
      paramVisits depth (.node segment others) ++
        paramVisits (depth + (SegmentForm.ofText segment).contribution) children := by
  cases declares : (SegmentForm.ofText segment).isParam with
  | true =>
    rw [paramVisits_of_isParam declares, paramVisits_of_isParam declares, slotsParamVisits_concat, List.cons_append]
  | false =>
    rw [paramVisits_of_not_isParam declares, paramVisits_of_not_isParam declares, slotsParamVisits_concat]

/-- The primary content that comes last is walked when the node and its parallel slots are resolved, and is not
reached if they fail. -/
theorem resolveFrom_concat (depth : Nat) (segment : String) (others : NameTable LayoutTree) (primary : String)
    (children : LayoutTree) (store : Store) :
    resolveFrom options route depth (.node segment (others ++ [(primary, children)])) store =
      resolveFrom options route depth (.node segment others) store >>=
        walk (Progress.step options route) [(children, depth + (SegmentForm.ofText segment).contribution)] := by
  rw [resolveFrom_eq_foldlM, resolveFrom_eq_foldlM, paramVisits_concat, List.foldlM_append]
  congr 1
  funext progress
  exact (walk_eq_foldlM_paramVisits options route _ children progress).symm

theorem find?_slotsParamVisits_concat {depth : Nat} {others : NameTable LayoutTree} {name : String}
    (declared : ∃ visit ∈ slotsParamVisits depth others, visit.declares name = true) (primary : String)
    (children : LayoutTree) :
    ∃ first ∈ slotsParamVisits depth others,
      (slotsParamVisits depth (others ++ [(primary, children)])).find? (Visit.declares name) = some first := by
  obtain ⟨first, found⟩ := Option.isSome_iff_exists.1 (List.find?_isSome.2 declared)
  rw [slotsParamVisits_concat, List.find?_append, found]
  exact ⟨first, List.mem_of_find?_eq_some found, rfl⟩

/-- The primary content of a created node comes last exactly if its slot is new or last already; else it takes
the place that its slot has. Where it comes last, the parallel slots are resolved before it, and a parameter that
they declare is met in them first. -/
theorem create_primary_last_iff (segment primary : String) {slots : NameTable LayoutTree}
    (distinct : slots.names.Nodup) (children : LayoutTree) :
    let created := create segment slots (some children) primary
    let others := slots.erase primary
    (created = .node segment (others ++ [(primary, children)]) ↔ slots.LastIfPresent primary) ∧
    (∀ before old after, slots = before ++ (primary, old) :: after →
      created = .node segment (before ++ (primary, children) :: after)) ∧
    (slots.LastIfPresent primary → ∀ depth,
      let below := depth + (SegmentForm.ofText segment).contribution
      paramVisits depth created = paramVisits depth (.node segment others) ++ paramVisits below children ∧
      (∀ options route store, created.resolveFrom options route depth store =
        resolveFrom options route depth (.node segment others) store >>=
          walk (Progress.step options route) [(children, below)]) ∧
      ∀ name, (∃ visit ∈ slotsParamVisits below others, visit.declares name = true) →
        ∃ first ∈ slotsParamVisits below others,
          (slotsParamVisits below created.slots).find? (Visit.declares name) = some first) := by
  intro created others
  have last : created = .node segment (others ++ [(primary, children)]) ↔ slots.LastIfPresent primary := by
    rw [← NameTable.put_eq_append_iff distinct children]
    exact ⟨fun same => (node.inj same).2, congrArg (node segment)⟩
  refine ⟨last, ?_, ?_⟩
  · rintro before old after rfl
    exact congrArg (node segment) (NameTable.put_of_split (NameTable.fresh_of_split distinct).1 children)
  · intro ends depth below
    rw [last.2 ends]
    exact ⟨paramVisits_concat depth segment others primary children,
      fun options route store => resolveFrom_concat depth segment others primary children store,
      fun name declared => find?_slotsParamVisits_concat declared primary children⟩

/-- The slot of the primary content is the last of the slots already and gets a new node there. Both this node and
the one beneath the parallel slot declare the name, which is bound as the parallel slot declares it. -/
theorem create_primary_last_of_replaced_last :
    let modal : LayoutTree := .node "(wide)" [("view", .node "[id]" [])]
    let slots : NameTable LayoutTree := [("modal", modal), ("children", .node "old" [])]
    let children : LayoutTree := .node "[...id]" []
    let created := create "shop" slots (some children) "children"
    let route : Route := .plain "/shop/x" true (PathToken.split "/shop/x".toList)
    slots.names.Nodup ∧ slots.LastIfPresent "children" ∧
      created = .node "shop" [("modal", modal), ("children", children)] ∧
      paramVisits 0 created = [⟨.param .dynamic "id", 1⟩, ⟨.param .catchAll "id", 1⟩] ∧
      (slotsParamVisits 1 created.slots).find? (Visit.declares "id") = some ⟨.param .dynamic "id", 1⟩ ∧
      created.resolveFrom {} route 0 .empty =
        .ok ⟨⟨[("id", .one "x")], []⟩, [.bound "id" (.one "x") 1]⟩ := by
  intro modal slots children created route
  have distinct : slots.names.Nodup := by decide
  have ends : slots.LastIfPresent "children" := by decide
  have others : slots.erase "children" = [("modal", modal)] := rfl
  have parallel : paramVisits 0 (.node "shop" [("modal", modal)]) = [⟨.param .dynamic "id", 1⟩] := by decide +kernel
  have beneath : slotsParamVisits 1 [("modal", modal)] = [⟨.param .dynamic "id", 1⟩] := by decide +kernel
  have primary : paramVisits 1 children = [⟨.param .catchAll "id", 1⟩] := by decide +kernel
  obtain ⟨last, _, resolved⟩ := create_primary_last_iff "shop" "children" distinct children
  obtain ⟨visits, runs, meets⟩ := resolved ends 0
  have below : 0 + (SegmentForm.ofText "shop").contribution = 1 := by decide +kernel
  rw [below, others] at visits runs meets
  rw [others] at last
  obtain ⟨first, among, found⟩ := meets "id" (by rw [beneath]; decide)
  rw [beneath, List.mem_singleton] at among
  refine ⟨distinct, ends, last.2 ends, ?_, among ▸ found, ?_⟩
  · rw [visits, parallel, primary]
    rfl
  · rw [runs]
    decide +kernel

/-- The slots hold the name of the primary content before another: the primary content does not come last, and its
declaration of a name is met before that of the parallel slot. -/
theorem create_primary_before_parallel :
    let slots : NameTable LayoutTree := [("children", .node "old" []), ("modal", .node "[id]" [])]
    let children : LayoutTree := .node "[...id]" []
    let created := create "shop" slots (some children) "children"
    slots.names.Nodup ∧ created.slots.names = ["children", "modal"] ∧
      created ≠ .node "shop" (slots.erase "children" ++ [("children", children)]) ∧
      slotsParamVisits 1 (slots.erase "children") = [⟨.param .dynamic "id", 1⟩] ∧
      (slotsParamVisits 1 created.slots).find? (Visit.declares "id") = some ⟨.param .catchAll "id", 1⟩ := by
  intro slots children created
  refine ⟨by decide, rfl, fun same => ?_, by decide +kernel, by decide +kernel⟩
  have names : ["children", "modal"] = ["modal", "children"] := congrArg (fun tree => tree.slots.names) same
  exact absurd names (by decide)

end LayoutTree
end RouteParams
