import RouteParams.Proofs.Tree.Preorder

/-!
The tree that is left of a tree when only the first of its nodes in preorder are kept. A node is kept
only together with its ancestors, so what is kept is a tree again, unless nothing is.
-/
namespace RouteParams.LayoutTree

mutual

/-- A node and the first so many of the nodes beneath it. -/
def keep (count : Nat) : LayoutTree → LayoutTree
  | .node segment slots => .node segment (slotsKeep count slots)

def slotsKeep (count : Nat) : List (String × LayoutTree) → List (String × LayoutTree)
  | [] => []
  | (name, child) :: rest =>
    match count with
    | 0 => []
    | others + 1 => (name, child.keep others) :: slotsKeep (others + 1 - child.size) rest

end

/-- The tree of the nodes that come before the one at an index of the preorder, if there are any. -/
def before (index : Nat) (tree : LayoutTree) : Option LayoutTree :=
  match index with
  | 0 => none
  | others + 1 => some (tree.keep others)

mutual

theorem placesUnder_keep (ancestors : List String) (count : Nat) (tree : LayoutTree) :
    placesUnder ancestors (tree.keep count) = (placesUnder ancestors tree).take (count + 1) := by
  match tree with
  | .node segment slots =>
    rw [keep, placesUnder, placesUnder, List.take_succ_cons, slotsPlaces_slotsKeep]

theorem slotsPlaces_slotsKeep (ancestors : List String) (count : Nat)
    (slots : List (String × LayoutTree)) :
    slotsPlaces ancestors (slotsKeep count slots) = (slotsPlaces ancestors slots).take count := by
  match slots, count with
  | [], _ => exact List.take_nil.symm
  | _ :: _, 0 => rfl
  | (_, child) :: rest, others + 1 =>
    rw [slotsKeep, slotsPlaces, slotsPlaces, List.take_append, placesUnder_keep,
      slotsPlaces_slotsKeep, length_placesUnder]

end

theorem places_of_before {index : Nat} {tree pruned : LayoutTree}
    (kept : tree.before index = some pruned) : pruned.places = tree.places.take index := by
  match index, kept with
  | others + 1, kept =>
    obtain rfl := Option.some.inj kept
    exact placesUnder_keep [] others tree

end RouteParams.LayoutTree
