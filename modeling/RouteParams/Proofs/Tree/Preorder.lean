import RouteParams.Tree.Walk

/-!
The nodes of a tree in preorder, seen in two ways: with the depth at which a walk enters each of them,
and with the segments that stand above each of them. The depth of a node in a tree that is entered at
zero is the number of its proper ancestors that take a position of the path.
-/
namespace RouteParams

namespace SegmentForm

def isFree : SegmentForm → Bool
  | .root => true
  | .group _ => true
  | _ => false

theorem contribution_eq (form : SegmentForm) :
    form.contribution = if !form.isFree then 1 else 0 := by
  cases form <;> rfl

end SegmentForm

/-- A node as it stands in a tree: its segment and those of its proper ancestors, the root first. -/
structure Place where
  ancestors : List String
  segment : String
  deriving DecidableEq

namespace Place

def taken (ancestors : List String) : Nat :=
  ancestors.countP fun segment => !(SegmentForm.ofText segment).isFree

def position (place : Place) : Nat :=
  taken place.ancestors

def visit (place : Place) : Visit :=
  ⟨.ofText place.segment, place.position⟩

theorem taken_append (ancestors : List String) (segment : String) :
    taken (ancestors ++ [segment]) =
      taken ancestors + (SegmentForm.ofText segment).contribution := by
  rw [taken, List.countP_append, List.countP_singleton, SegmentForm.contribution_eq]
  rfl

end Place

namespace LayoutTree

mutual

/-- The nodes of a tree that is entered at a depth, each with the depth its ancestors leave it. -/
def nodes (depth : Nat) : LayoutTree → List (LayoutTree × Nat)
  | .node segment slots =>
    (.node segment slots, depth) ::
      slotsNodes (depth + (SegmentForm.ofText segment).contribution) slots

def slotsNodes (depth : Nat) : List (String × LayoutTree) → List (LayoutTree × Nat)
  | [] => []
  | (_, child) :: rest => nodes depth child ++ slotsNodes depth rest

end

mutual

def placesUnder (ancestors : List String) : LayoutTree → List Place
  | .node segment slots => ⟨ancestors, segment⟩ :: slotsPlaces (ancestors ++ [segment]) slots

def slotsPlaces (ancestors : List String) : List (String × LayoutTree) → List Place
  | [] => []
  | (_, child) :: rest => placesUnder ancestors child ++ slotsPlaces ancestors rest

end

def places (tree : LayoutTree) : List Place :=
  tree.placesUnder []

def visitOf (entry : LayoutTree × Nat) : Visit :=
  ⟨entry.1.form, entry.2⟩

theorem visitOf_node (segment : String) (slots : List (String × LayoutTree)) (depth : Nat) :
    visitOf (.node segment slots, depth) = ⟨.ofText segment, depth⟩ :=
  rfl

mutual

theorem map_visitOf_nodes (depth : Nat) (tree : LayoutTree) :
    (nodes depth tree).map visitOf = visits depth tree := by
  match tree with
  | .node segment slots =>
    rw [nodes, visits, List.map_cons, map_visitOf_slotsNodes]
    rfl

theorem map_visitOf_slotsNodes (depth : Nat) (slots : List (String × LayoutTree)) :
    (slotsNodes depth slots).map visitOf = slotsVisits depth slots := by
  match slots with
  | [] => rfl
  | (_, child) :: rest =>
    rw [slotsNodes, slotsVisits, List.map_append, map_visitOf_nodes, map_visitOf_slotsNodes]

end

mutual

theorem map_visit_placesUnder (ancestors : List String) (tree : LayoutTree) :
    (placesUnder ancestors tree).map Place.visit = visits (Place.taken ancestors) tree := by
  match tree with
  | .node segment slots =>
    rw [placesUnder, visits, List.map_cons, map_visit_slotsPlaces, Place.taken_append]
    rfl

theorem map_visit_slotsPlaces (ancestors : List String) (slots : List (String × LayoutTree)) :
    (slotsPlaces ancestors slots).map Place.visit =
      slotsVisits (Place.taken ancestors) slots := by
  match slots with
  | [] => rfl
  | (_, child) :: rest =>
    rw [slotsPlaces, slotsVisits, List.map_append, map_visit_placesUnder, map_visit_slotsPlaces]

end

theorem visits_eq_places (tree : LayoutTree) :
    visits 0 tree = tree.places.map Place.visit :=
  (map_visit_placesUnder [] tree).symm

mutual

theorem length_nodes (depth : Nat) (tree : LayoutTree) :
    (nodes depth tree).length = tree.size := by
  match tree with
  | .node segment slots =>
    rw [nodes, size, List.length_cons, length_slotsNodes, Nat.add_comm]

theorem length_slotsNodes (depth : Nat) (slots : List (String × LayoutTree)) :
    (slotsNodes depth slots).length = slotsSize slots := by
  match slots with
  | [] => rfl
  | (_, child) :: rest =>
    rw [slotsNodes, slotsSize, List.length_append, length_nodes, length_slotsNodes]

end

mutual

theorem length_placesUnder (ancestors : List String) (tree : LayoutTree) :
    (placesUnder ancestors tree).length = tree.size := by
  match tree with
  | .node segment slots =>
    rw [placesUnder, size, List.length_cons, length_slotsPlaces, Nat.add_comm]

theorem length_slotsPlaces (ancestors : List String) (slots : List (String × LayoutTree)) :
    (slotsPlaces ancestors slots).length = slotsSize slots := by
  match slots with
  | [] => rfl
  | (_, child) :: rest =>
    rw [slotsPlaces, slotsSize, List.length_append, length_placesUnder, length_slotsPlaces]

end

end LayoutTree
end RouteParams
