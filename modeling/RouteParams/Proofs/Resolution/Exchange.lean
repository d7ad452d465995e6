import RouteParams.Proofs.Resolution.ParamVisits
import RouteParams.Proofs.Segment.Form
import RouteParams.Proofs.Tree.Recast

/-!
Fixed segments can be exchanged for one another. A resolution sees no difference between a literal and an
interception, nor between one interception and another, whatever stands behind the marker: each takes one
position of the path and binds nothing.
-/
namespace RouteParams

/-- The segment is a marker with any text behind it, or it stands for itself. -/
inductive IsFixedText : String → Prop
  | marked (marker : Marker) (rest : String) : IsFixedText (marker.text ++ rest)
  | literal (segment text : String) (stands : SegmentForm.ofText segment = .literal text) :
      IsFixedText segment

theorem IsFixedText.isFixed {segment : String} (text : IsFixedText segment) :
    (SegmentForm.ofText segment).isFixed = true := by
  cases text with
  | marked marker rest => exact SegmentForm.isFixed_of_marked marker rest
  | literal _ text stands =>
    rw [stands]
    rfl

/-- The segment is kept, or both it and the segment in its place are fixed. -/
inductive Exchangeable (segment : String) : String → Prop
  | kept : Exchangeable segment segment
  | exchanged {other : String} (old : IsFixedText segment) (new : IsFixedText other) :
      Exchangeable segment other

namespace LayoutTree

theorem keepsPositions_exchangeable : KeepsPositions Exchangeable := by
  intro segment other exchangeable
  cases exchangeable with
  | kept => rfl
  | exchanged old new =>
    have before := SegmentForm.contribution_of_isFixed old.isFixed
    have behind := SegmentForm.contribution_of_isFixed new.isFixed
    rw [before, behind]

theorem filter_isParam_of_forall₂ {first second : List Visit}
    (alike : List.Forall₂ (VisitsRecast Exchangeable) first second) :
    first.filter Visit.isParam = second.filter Visit.isParam := by
  induction alike with
  | nil => rfl
  | cons head tail ih =>
    cases head with
    | visit _ _ exchangeable depth =>
      cases exchangeable with
      | kept => rw [List.filter_cons, List.filter_cons, ih]
      | exchanged old new =>
        have silent := SegmentForm.isParam_of_isFixed old.isFixed
        have silent' := SegmentForm.isParam_of_isFixed new.isFixed
        simp [Visit.isParam, silent, silent', ih]

theorem Recast.paramVisits_eq {tree other : LayoutTree} (recast : Recast Exchangeable tree other)
    (depth : Nat) : other.paramVisits depth = tree.paramVisits depth :=
  (filter_isParam_of_forall₂ (recast.forall₂_visits keepsPositions_exchangeable depth)).symm

end LayoutTree

namespace Resolution

/-- Exchanging fixed segments for fixed segments, at any of the nodes of a tree, changes nothing: the
store, the journal and the failure are those of the tree as it was. -/
theorem unchanged_by_exchange (options : Options) (route : Route) {tree other : LayoutTree}
    (recast : LayoutTree.Recast Exchangeable tree other) (store : Store) :
    ofRaw options route (.tree other) store = ofRaw options route (.tree tree) store :=
  ofRaw_congr (recast.paramVisits_eq 0) options route store

/-- A literal becomes a marker before a parameter, a marker before a parameter becomes one before a
group, and a marker before nothing becomes a literal; the parameters around them and the failure stay. -/
theorem unchanged_by_three_exchanges :
    let route : Route := .plain "/a/b" true [⟨"a", none, .literal⟩, ⟨"b", none, .literal⟩]
    let tree : LayoutTree := .node ""
      [("modal", .node "photo" [("children", .node "[x]" [])]),
        ("side", .node "(..)(..)[id]" [("children", .node "[y]" [])]),
        ("children", .node "[z]" [("children", .node "(.)" [("children", .node "[...w]" [])])])]
    let other : LayoutTree := .node ""
      [("modal", .node "(.)[id]" [("children", .node "[x]" [])]),
        ("side", .node "(...)(shop)" [("children", .node "[y]" [])]),
        ("children", .node "[z]" [("children", .node "feed" [("children", .node "[...w]" [])])])]
    LayoutTree.Recast Exchangeable tree other ∧
      ofRaw {} route (.tree other) .empty = ofRaw {} route (.tree tree) .empty ∧
      (ofRaw {} route (.tree other) .empty).failure?.isSome = true ∧
      (ofRaw {} route (.tree other) .empty).store.params =
        [("x", .one "b"), ("y", .one "b"), ("z", .one "a")] := by
  intro route tree other
  have photo : Exchangeable "photo" "(.)[id]" :=
    .exchanged (.literal "photo" "photo" (by decide +kernel)) (.marked .sameLevel "[id]")
  have side : Exchangeable "(..)(..)[id]" "(...)(shop)" :=
    .exchanged (.marked .twoUp "[id]") (.marked .fromRoot "(shop)")
  have feed : Exchangeable "(.)" "feed" :=
    .exchanged (.marked .sameLevel "") (.literal "feed" "feed" (by decide +kernel))
  have leaf (segment : String) :
      LayoutTree.Recast Exchangeable (.node segment []) (.node segment []) :=
    .node segment segment .kept .nil
  have inner : LayoutTree.Recast Exchangeable (.node "(.)" [("children", .node "[...w]" [])])
      (.node "feed" [("children", .node "[...w]" [])]) :=
    .node "(.)" "feed" feed (.cons "children" (leaf "[...w]") .nil)
  have recast : LayoutTree.Recast Exchangeable tree other :=
    .node "" "" .kept
      (.cons "modal" (.node _ _ photo (.cons "children" (leaf "[x]") .nil))
        (.cons "side" (.node _ _ side (.cons "children" (leaf "[y]") .nil))
          (.cons "children" (.node "[z]" "[z]" .kept (.cons "children" inner .nil)) .nil)))
  exact ⟨recast, unchanged_by_exchange {} route recast .empty, by decide +kernel, by decide +kernel⟩

end Resolution
end RouteParams
