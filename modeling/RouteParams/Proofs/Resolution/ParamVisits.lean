import RouteParams.Proofs.Tree.Turns
import RouteParams.Resolution.Run

/-!
Nodes that declare no parameter are silent. A resolution does nothing at them, so trees whose parameters
are met in the same order at the same depths are resolved alike, down to the journal.
-/
namespace RouteParams

def Visit.isParam (visit : Visit) : Bool :=
  visit.form.isParam

theorem Progress.step_of_not_isParam (options : Options) (route : Route) (progress : Progress)
    {visit : Visit} (silent : visit.isParam = false) :
    step options route progress visit = .ok progress := by
  obtain ⟨form, depth⟩ := visit
  cases form with
  | param kind name => cases silent
  | root => rfl
  | group name => rfl
  | interception marker name => rfl
  | literal text => rfl

namespace LayoutTree

/-- The visits of the nodes that declare a parameter. -/
def paramVisits (depth : Nat) (tree : LayoutTree) : List Visit :=
  (visits depth tree).filter Visit.isParam

def slotsParamVisits (depth : Nat) (slots : List (String × LayoutTree)) : List Visit :=
  (slotsVisits depth slots).filter Visit.isParam

theorem paramVisits_of_isParam {segment : String} (declares : (SegmentForm.ofText segment).isParam = true)
    (depth : Nat) (slots : List (String × LayoutTree)) :
    paramVisits depth (.node segment slots) = ⟨.ofText segment, depth⟩ ::
        slotsParamVisits (depth + (SegmentForm.ofText segment).contribution) slots := by
  have kept : (⟨.ofText segment, depth⟩ : Visit).isParam = true := declares
  rw [paramVisits, visits, List.filter_cons_of_pos kept, slotsParamVisits]

theorem paramVisits_of_not_isParam {segment : String}
    (silent : (SegmentForm.ofText segment).isParam = false)
    (depth : Nat) (slots : List (String × LayoutTree)) :
    paramVisits depth (.node segment slots) =
      slotsParamVisits (depth + (SegmentForm.ofText segment).contribution) slots := by
  have dropped : ¬(⟨.ofText segment, depth⟩ : Visit).isParam = true :=
    Bool.eq_false_iff.1 silent
  rw [paramVisits, visits, List.filter_cons_of_neg dropped, slotsParamVisits]

theorem slotsParamVisits_nil (depth : Nat) : slotsParamVisits depth [] = [] :=
  rfl

theorem slotsParamVisits_cons (depth : Nat) (name : String) (child : LayoutTree)
    (rest : List (String × LayoutTree)) :
    slotsParamVisits depth ((name, child) :: rest) =
      paramVisits depth child ++ slotsParamVisits depth rest := by
  rw [slotsParamVisits, slotsVisits, List.filter_append]
  rfl

theorem foldlM_step_filter (options : Options) (route : Route) (visits : List Visit)
    (progress : Progress) :
    visits.foldlM (Progress.step options route) progress =
      (visits.filter Visit.isParam).foldlM (Progress.step options route) progress := by
  induction visits generalizing progress with
  | nil => rfl
  | cons visit rest ih =>
    cases declares : visit.isParam with
    | false =>
      rw [List.filter_cons_of_neg (by simp [declares]), List.foldlM_cons,
        Progress.step_of_not_isParam options route progress declares]
      exact ih progress
    | true =>
      rw [List.filter_cons_of_pos declares, List.foldlM_cons, List.foldlM_cons]
      exact congrArg _ (funext ih)

theorem walk_eq_foldlM_paramVisits (options : Options) (route : Route) (depth : Nat) (tree : LayoutTree)
    (progress : Progress) :
    walk (Progress.step options route) [(tree, depth)] progress =
      (paramVisits depth tree).foldlM (Progress.step options route) progress := by
  rw [walk_eq_foldlM, pending_singleton, paramVisits, ← foldlM_step_filter, ← map_visitOf_nodes, List.foldlM_map]

theorem resolveFrom_eq_foldlM (options : Options) (route : Route) (depth : Nat) (tree : LayoutTree)
    (store : Store) :
    tree.resolveFrom options route depth store =
      (paramVisits depth tree).foldlM (Progress.step options route) (.start store) :=
  walk_eq_foldlM_paramVisits options route depth tree (.start store)

end LayoutTree

theorem Resolution.ofRaw_congr {tree other : LayoutTree}
    (same : tree.paramVisits 0 = other.paramVisits 0) (options : Options) (route : Route)
    (store : Store) :
    ofRaw options route (.tree tree) store = ofRaw options route (.tree other) store := by
  have resolves : tree.resolve options route store = other.resolve options route store := by
    rw [LayoutTree.resolve, LayoutTree.resolve, LayoutTree.resolveFrom_eq_foldlM,
      LayoutTree.resolveFrom_eq_foldlM, same]
  rw [ofRaw, ofRaw, LayoutTree.ofRaw_tree, LayoutTree.ofRaw_tree, ofReading, ofReading, resolves]

end RouteParams
