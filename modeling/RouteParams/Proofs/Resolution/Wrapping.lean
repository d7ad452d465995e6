import RouteParams.Proofs.Resolution.ParamVisits

/-!
Groups and roots are free. They take no position of the path and declare no parameter, so a tree in which
any subtrees stand inside a group or a root of their own is resolved as the tree without them.
-/
namespace RouteParams

namespace SegmentForm

variable {form : SegmentForm}

theorem isParam_of_isFree (free : form.isFree = true) : form.isParam = false := by
  cases form with
  | root => rfl
  | group name => rfl
  | interception marker name => cases free
  | param kind name => cases free
  | literal text => cases free

theorem contribution_of_isFree (free : form.isFree = true) : form.contribution = 0 := by
  rw [contribution_eq, free]
  rfl

end SegmentForm

namespace LayoutTree

mutual

/-- The second tree is the first with any of its subtrees put into nodes that hold nothing else and are
groups or roots, any number of times. -/
inductive Wraps : LayoutTree → LayoutTree → Prop
  | node (segment : String) (slots others : List (String × LayoutTree))
      (within : SlotsWrap slots others) : Wraps (.node segment slots) (.node segment others)
  | wrapped (segment name : String) (free : (SegmentForm.ofText segment).isFree = true)
      (tree inner : LayoutTree) (wraps : Wraps tree inner) :
      Wraps tree (.node segment [(name, inner)])

inductive SlotsWrap : List (String × LayoutTree) → List (String × LayoutTree) → Prop
  | nil : SlotsWrap [] []
  | cons (name : String) (child other : LayoutTree) (rest others : List (String × LayoutTree))
      (first : Wraps child other) (later : SlotsWrap rest others) :
      SlotsWrap ((name, child) :: rest) ((name, other) :: others)

end

mutual

theorem Wraps.paramVisits_eq {tree other : LayoutTree} (wraps : Wraps tree other) (depth : Nat) :
    other.paramVisits depth = tree.paramVisits depth := by
  match wraps with
  | .node segment slots others within =>
    have below := within.paramVisits_eq (depth + (SegmentForm.ofText segment).contribution)
    cases declares : (SegmentForm.ofText segment).isParam with
    | true => rw [paramVisits_of_isParam declares, paramVisits_of_isParam declares, below]
    | false =>
      rw [paramVisits_of_not_isParam declares, paramVisits_of_not_isParam declares, below]
  | .wrapped segment name free _ inner wraps =>
    rw [paramVisits_of_not_isParam (SegmentForm.isParam_of_isFree free),
      SegmentForm.contribution_of_isFree free, slotsParamVisits_cons, slotsParamVisits_nil,
      List.append_nil]
    exact wraps.paramVisits_eq depth

theorem SlotsWrap.paramVisits_eq {slots others : List (String × LayoutTree)}
    (within : SlotsWrap slots others) (depth : Nat) :
    slotsParamVisits depth others = slotsParamVisits depth slots := by
  match within with
  | .nil => rfl
  | .cons name child other rest others first later =>
    rw [slotsParamVisits_cons, slotsParamVisits_cons, first.paramVisits_eq depth,
      later.paramVisits_eq depth]

end

end LayoutTree

namespace Resolution

/-- Wrapping subtrees into groups and roots changes nothing: the store, the journal and the failure are
those of the tree without the wrapping nodes. -/
theorem unchanged_by_wrapping (options : Options) (route : Route) {tree other : LayoutTree}
    (wraps : LayoutTree.Wraps tree other) (store : Store) :
    ofRaw options route (.tree other) store = ofRaw options route (.tree tree) store :=
  ofRaw_congr (wraps.paramVisits_eq 0) options route store

/-- The whole tree stands in a group, one slot in two groups and the failing node in a root. -/
theorem unchanged_by_nested_wrapping :
    let route : Route := .plain "/a" true [⟨"a", none, .literal⟩]
    let rest : LayoutTree := .node "[...y]" []
    let tree : LayoutTree := .node ""
      [("modal", .node "[x]" [("children", rest)]), ("children", .node "[z]" [])]
    let modal : LayoutTree := .node "[x]" [("children", .node "" [("slot", rest)])]
    let other : LayoutTree := .node "(app)" [("all", .node ""
      [("modal", .node "(wide)" [("first", .node "(dim)" [("second", modal)])]),
        ("children", .node "[z]" [])])]
    LayoutTree.Wraps tree other ∧
      ofRaw {} route (.tree other) .empty = ofRaw {} route (.tree tree) .empty ∧
      (ofRaw {} route (.tree other) .empty).failure?.isSome = true ∧
      (ofRaw {} route (.tree other) .empty).store.params = [("x", .one "a")] := by
  intro route rest tree modal other
  have inner : LayoutTree.Wraps rest (.node "" [("slot", rest)]) :=
    .wrapped "" "slot" (by decide) _ _ (.node "[...y]" _ _ .nil)
  have shown : LayoutTree.Wraps (.node "[x]" [("children", rest)]) modal :=
    .node "[x]" _ _ (.cons "children" _ _ _ _ inner .nil)
  have grouped : LayoutTree.Wraps (.node "[x]" [("children", rest)])
      (.node "(wide)" [("first", .node "(dim)" [("second", modal)])]) :=
    .wrapped "(wide)" "first" (by decide) _ _ (.wrapped "(dim)" "second" (by decide) _ _ shown)
  have wraps : LayoutTree.Wraps tree other :=
    .wrapped "(app)" "all" (by decide) _ _ (.node "" _ _ (.cons "modal" _ _ _ _ grouped
      (.cons "children" _ _ _ _ (.node "[z]" _ _ .nil) .nil)))
  exact ⟨wraps, unchanged_by_wrapping {} route wraps .empty, by decide +kernel, by decide +kernel⟩

end Resolution
end RouteParams
