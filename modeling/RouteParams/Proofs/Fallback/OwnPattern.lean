import RouteParams.Proofs.Fallback.PageKeys
import RouteParams.Proofs.Route.Alignment

/-!
A page without branches against its own pattern. The pattern of a page is written from the segments of its tree,
so what the tree declares at a depth stands in the path at the same position, as a placeholder of the same kind
and name. The walk of the tree then finds every parameter blocked: it binds nothing, records no name that the
pattern does not declare, and comes to its end.
-/
namespace RouteParams

/-- A tree without branches, with its segments from the root down. -/
inductive LayoutTree.Chain : LayoutTree → List String → Prop
  | last (segment : String) : Chain (.node segment []) [segment]
  | above (segment slot : String) {child : LayoutTree} {segments : List String}
      (chain : Chain child segments) : Chain (.node segment [(slot, child)]) (segment :: segments)

/-- Where the declaration stands, the path has a placeholder of its kind and name. -/
def Declaration.IsMirrored (route : Route) (declaration : Declaration) : Prop :=
  ∃ token, route.path[declaration.position]? = some token ∧
    token.kind = .placeholder declaration.kind declaration.name

namespace Declaration

variable {route : Route} {declaration : Declaration}

theorem position_mem_range (inside : declaration.position < route.length) :
    declaration.position ∈ declaration.range route := by
  rw [range]
  split
  · exact List.mem_singleton_self _
  · exact List.mem_range'_1.2 ⟨Nat.le_refl _, by omega⟩

theorem isBlocked_of_isMirrored (mirrored : declaration.IsMirrored route) :
    declaration.isBlocked route = true := by
  obtain ⟨token, here, kind⟩ := mirrored
  have inside : declaration.position < route.length := by
    rw [← Route.length_path]
    exact (List.getElem?_eq_some_iff.1 here).1
  have placeholder : route.isPlaceholder declaration.position = true := by
    rw [Route.isPlaceholder_natCast, here, Option.any_some, PathToken.isPlaceholder, kind]
  rw [isBlocked, List.any_eq_true]
  exact ⟨declaration.position, position_mem_range inside, placeholder⟩

theorem mem_placeholders_of_isMirrored (mirrored : declaration.IsMirrored route) :
    (declaration.name, declaration.kind) ∈ route.placeholders := by
  obtain ⟨token, here, kind⟩ := mirrored
  have among : token ∈ route.tokens := List.mem_of_mem_filter (List.mem_of_getElem? here)
  exact List.mem_filterMap.2 ⟨token, among, by rw [kind]⟩

end Declaration

/-! ## Following the path down -/

theorem Visit.isMirrored {route : Route} {segment : String} {depth : Nat} {rest : List (List Char)}
    (here : route.path.drop depth = Pathname.path (segment.toList :: rest)) {declaration : Declaration}
    (declares : Visit.declaration? ⟨.ofText segment, depth⟩ = some declaration) :
    declaration.IsMirrored route := by
  obtain ⟨form, rfl⟩ := Visit.mk.inj (Visit.eq_of_declaration? declares)
  refine ⟨.ofChars segment.toList, ?_, PathToken.kind_of_param form⟩
  rw [← List.head?_drop, here, Pathname.path_cons_of_param form]
  rfl

theorem LayoutTree.Chain.isMirrored {tree : LayoutTree} {segments : List String} {route : Route}
    (chain : tree.Chain segments) (plain : ∀ segment ∈ segments, IsPlain segment.toList) {depth : Nat}
    (here : route.path.drop depth = Pathname.path (segments.map String.toList)) :
    ∀ declaration ∈ (visits depth tree).filterMap Visit.declaration?,
      declaration.IsMirrored route := by
  -- At each node the path goes on, from the depth of the node, with the pieces that are still to come.
  induction chain generalizing depth with
  | last segment =>
    intro declaration member
    rw [visits, slotsVisits, filterMap_cons_toList, List.filterMap_nil, List.append_nil,
      Option.mem_toList] at member
    exact Visit.isMirrored here member
  | @above segment slot child segments chain ih =>
    obtain ⟨first, others⟩ := List.forall_mem_cons.1 plain
    have beneath : route.path.drop (depth + (SegmentForm.ofText segment).contribution) =
        Pathname.path (segments.map String.toList) := by
      rw [← List.drop_drop, here]
      exact Pathname.drop_path_cons first _
    intro declaration member
    rw [visits, slotsVisits, slotsVisits, List.append_nil, filterMap_cons_toList,
      List.mem_append, Option.mem_toList] at member
    rcases member with own | below
    · exact Visit.isMirrored here own
    · exact ih others beneath declaration below

namespace Page

/-- The pathname that is written from the segments of a chain, without the empty ones. -/
def pattern (segments : List String) : String :=
  "/" ++ "/".intercalate (segments.filter fun segment => segment != "")

variable {segments : List String} {page : String} {tree : LayoutTree} {raw : Raw} {route : Route}

theorem filled_map_toList (segments : List String) :
    Pathname.filled (segments.map String.toList) =
      (segments.filter fun segment => segment != "").map String.toList := by
  rw [Pathname.filled, List.filter_map]
  congr 1
  apply List.filter_congr
  intro segment _
  have empty : segment.toList.isEmpty = (segment == "") := Bool.eq_iff_iff.2 (by simp)
  exact congrArg not empty

theorem toList_pattern (segments : List String) :
    (pattern segments).toList =
      '/' :: Pathname.join (Pathname.filled (segments.map String.toList)) := by
  rw [pattern, String.toList_append, String.toList_intercalate, filled_map_toList]
  rfl

theorem path_of_pattern (plain : ∀ segment ∈ segments, IsPlain segment.toList)
    (read : Route.read false (pattern segments) = .ok route) :
    route.path = Pathname.path (segments.map String.toList) := by
  have slashless : ∀ piece ∈ segments.map String.toList, '/' ∉ piece := by
    intro piece member
    obtain ⟨segment, among, rfl⟩ := List.mem_map.1 member
    exact (plain segment among).slashless
  rw [Route.path_of_readChars read, toList_pattern, Pathname.path,
    Pathname.filled_pieces_join slashless]
  rfl

theorem declarations_mirrored (chain : tree.Chain segments)
    (plain : ∀ segment ∈ segments, IsPlain segment.toList)
    (read : Route.read false (pattern segments) = .ok route) :
    ∀ declaration ∈ tree.declarations, declaration.IsMirrored route := by
  rw [LayoutTree.declarations_eq_visits]
  apply chain.isMirrored plain
  rw [List.drop_zero]
  exact path_of_pattern plain read

/-- The names that the walk of a mirrored tree records are declared by the page. -/
theorem firsts_of_mirrored (read : Route.read false page = .ok route)
    (mirrored : ∀ declaration ∈ tree.declarations, declaration.IsMirrored route)
    (options : Options) :
    Fallback.firsts (Store.follow options route tree.declarations ⟨[], declared route⟩).store.fallbacks =
      Fallback.firsts (declared route) := by
  obtain ⟨recorded, whole, origins⟩ :=
    Store.fallbacks_follow options route tree.declarations ⟨[], declared route⟩
  have among : ∀ fallback ∈ recorded,
      (declared route).any (fun placeholder => placeholder.name == fallback.name) = true := by
    intro fallback member
    obtain ⟨declaration, declares, rfl⟩ := origins fallback member
    have placed := Declaration.mem_placeholders_of_isMirrored (mirrored declaration declares)
    rw [declared_eq read, List.any_map, List.any_eq_true]
    exact ⟨_, placed, beq_self_eq_true declaration.name⟩
  have nothing : (recorded.filter fun fallback =>
      !(declared route).any fun placeholder => placeholder.name == fallback.name) = [] := by
    apply List.filter_eq_nil_iff.2
    intro fallback member
    rw [among fallback member]
    exact Bool.false_ne_true
  rw [whole, Fallback.firsts_append_list, nothing, Fallback.firsts_eq_nil_iff.2 rfl, List.append_nil]

/-- A page without branches against the pattern that is written from its own segments. Whether recorded names
count as known or not, the page answers with the keys of the pattern's placeholders alone, each name with the
kind of its first placeholder, and the walk of its tree returns and binds nothing. -/
theorem searchKeys_of_own_pattern (recordedAreKnown : Bool) (parsed : LayoutTree.ofRaw raw = .ok tree)
    (chain : tree.Chain segments) (plain : ∀ segment ∈ segments, IsPlain segment.toList)
    (read : Route.read false (pattern segments) = .ok route) :
    let options : Options := { recordedAreKnown, normalizedPages := false }
    let placed : List Fallback :=
      route.placeholders.map fun placeholder => ⟨placeholder.1, placeholder.2⟩
    (∀ supply, ∃ keys?, (searchKeys options (pattern segments) raw supply).1 = .ok keys? ∧
      keys?.map SearchKey.codes =
        if placed = [] then none else some ((Fallback.firsts placed).map Fallback.coded)) ∧
    ∀ fallbacks, (Resolution.ofRaw options route raw ⟨[], fallbacks⟩).failure? = none ∧
      (Resolution.ofRaw options route raw ⟨[], fallbacks⟩).store.params = [] := by
  intro options placed
  have mirrored := declarations_mirrored chain plain read
  have run := Store.follow_of_blocked options tree.declarations fun declaration member =>
    Declaration.isBlocked_of_isMirrored (mirrored declaration member)
  constructor
  · intro supply
    have returns : (walk options route (.ok tree)).failure? = none := by
      rw [walk, Resolution.failure_ofReading_ok, (run _).1]
      rfl
    have answer : (searchKeys options (pattern segments) raw supply).1 =
        .ok (SearchKey.assign (walk options route (.ok tree)).store.fallbacks supply).1 := by
      rw [searchKeys, parsed, keysOfReading_of_read read, returns]
    refine ⟨_, answer, ?_⟩
    rw [SearchKey.codes_assign, walk, Resolution.store_ofReading_ok,
      firsts_of_mirrored read mirrored options, declared_eq read]
    simp only [Fallback.firsts_eq_nil_iff, placed]
  · intro fallbacks
    rw [Resolution.failure_ofRaw parsed, Resolution.store_ofRaw parsed]
    obtain ⟨returns, kept⟩ := run ⟨[], fallbacks⟩
    rw [returns]
    exact ⟨rfl, kept⟩

/-- Groups and empty segments take no position, a bracket that is not closed and two groups in one segment
take one, and the placeholder behind the marker is declared by the pattern only. -/
theorem searchKeys_of_own_pattern_of_mixed_segments :
    let segments := ["", "(shop)", "docs", "(.)[id]", "[lang]", "[[..lang]", "", "(a)(b)", "[...lang]",
      "(...)top", "(wide)", "[[...rest]]"]
    let tree : LayoutTree := .node "" [("children", .node "(shop)" [("modal", .node "docs"
      [("children", .node "(.)[id]" [("children", .node "[lang]" [("side", .node "[[..lang]"
      [("children", .node "" [("children", .node "(a)(b)" [("modal", .node "[...lang]"
      [("children", .node "(...)top" [("children", .node "(wide)" [("children", .node "[[...rest]]"
      [])])])])])])])])])])])]
    let options : Options := { recordedAreKnown := false, normalizedPages := false }
    tree.Chain segments ∧ (∀ segment ∈ segments, IsPlain segment.toList) ∧
      ∃ route, Route.read false (pattern segments) = .ok route ∧
        route.placeholders = [("id", .dynamic), ("lang", .dynamic), ("lang", .catchAll),
          ("rest", .optionalCatchAll)] ∧
        (∃ keys?, (searchKeys options (pattern segments) (.tree tree) .fresh).1 = .ok keys? ∧
          keys?.map SearchKey.codes = some [("id", "d"), ("lang", "d"), ("rest", "oc")]) ∧
        (Resolution.ofRaw options route (.tree tree) .empty).failure? = none ∧
        (Resolution.ofRaw options route (.tree tree) .empty).store.params = [] := by
  intro segments tree options
  have chain : tree.Chain segments :=
    .above _ _ (.above _ _ (.above _ _ (.above _ _ (.above _ _ (.above _ _ (.above _ _ (.above _ _
      (.above _ _ (.above _ _ (.above _ _ (.last _)))))))))))
  have plain : ∀ segment ∈ segments, IsPlain segment.toList := by decide +kernel
  obtain ⟨route, read⟩ : ∃ route, Route.read false (pattern segments) = .ok route :=
    Route.exists_of_isOk (by decide +kernel)
  have placed : route.placeholders = [("id", .dynamic), ("lang", .dynamic), ("lang", .catchAll),
      ("rest", .optionalCatchAll)] := by
    rw [Route.placeholders, Route.tokens_of_readChars read]
    decide +kernel
  have parsed : LayoutTree.ofRaw (.tree tree) = .ok tree := rfl
  obtain ⟨answers, silent⟩ := searchKeys_of_own_pattern false parsed chain plain read
  obtain ⟨keys?, ok, codes⟩ := answers .fresh
  rw [placed] at codes
  exact ⟨chain, plain, route, read, placed, ⟨keys?, ok, codes.trans (by decide +kernel)⟩, silent []⟩

end Page
end RouteParams
