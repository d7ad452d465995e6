import Mathlib.Data.List.Forall2
import RouteParams.Proofs.Tree.Preorder

/-!
Trees of the same shape with other segments. Where the segments that stand for one another take the same
number of positions, a walk enters the nodes of both trees at the same depths.
-/
namespace RouteParams.LayoutTree

mutual

/-- The trees have the same slots at every node, and their segments are related node by node. -/
inductive Recast (related : String → String → Prop) : LayoutTree → LayoutTree → Prop
  | node (segment segment' : String) {slots slots' : List (String × LayoutTree)}
      (here : related segment segment') (below : SlotsRecast related slots slots') :
      Recast related (.node segment slots) (.node segment' slots')

inductive SlotsRecast (related : String → String → Prop) :
    List (String × LayoutTree) → List (String × LayoutTree) → Prop
  | nil : SlotsRecast related [] []
  | cons (name : String) {child child' : LayoutTree} {rest rest' : List (String × LayoutTree)}
      (first : Recast related child child') (later : SlotsRecast related rest rest') :
      SlotsRecast related ((name, child) :: rest) ((name, child') :: rest')

end

/-- Two visits at the same depth, of nodes with related segments. -/
inductive VisitsRecast (related : String → String → Prop) : Visit → Visit → Prop
  | visit (segment segment' : String) (here : related segment segment') (depth : Nat) :
      VisitsRecast related ⟨.ofText segment, depth⟩ ⟨.ofText segment', depth⟩

/-- Segments that stand for one another take the same number of positions. -/
def KeepsPositions (related : String → String → Prop) : Prop :=
  ∀ segment segment', related segment segment' →
    (SegmentForm.ofText segment).contribution = (SegmentForm.ofText segment').contribution

mutual

theorem Recast.forall₂_visits {related : String → String → Prop} (keeps : KeepsPositions related)
    {tree tree' : LayoutTree} (recast : Recast related tree tree') (depth : Nat) :
    List.Forall₂ (VisitsRecast related) (visits depth tree) (visits depth tree') := by
  match recast with
  | .node segment segment' here below =>
    have others := below.forall₂_slotsVisits keeps
      (depth + (SegmentForm.ofText segment).contribution)
    rw [visits, visits, ← keeps segment segment' here]
    exact .cons (.visit segment segment' here depth) others

theorem SlotsRecast.forall₂_slotsVisits {related : String → String → Prop}
    (keeps : KeepsPositions related) {slots slots' : List (String × LayoutTree)}
    (recast : SlotsRecast related slots slots') (depth : Nat) :
    List.Forall₂ (VisitsRecast related) (slotsVisits depth slots) (slotsVisits depth slots') := by
  match recast with
  | .nil => exact .nil
  | .cons _ first later =>
    have before := first.forall₂_visits keeps depth
    have behind := later.forall₂_slotsVisits keeps depth
    rw [slotsVisits, slotsVisits]
    exact List.rel_append before behind

end

end RouteParams.LayoutTree
