import RouteParams.Proofs.Resolution.Again

/-!
Resolving a node in parts. The slots of a node may be resolved in two resolutions, one after the other, each
of them of a node with the same segment: together they do what one resolution of all the slots does. Where
the segment declares a parameter, the second resolution meets it again, and recorded names must count as
known for it to do nothing then.
-/
namespace RouteParams

namespace LayoutTree

theorem slotsVisits_append (depth : Nat) (first second : List (String × LayoutTree)) :
    slotsVisits depth (first ++ second) = slotsVisits depth first ++ slotsVisits depth second := by
  induction first with
  | nil => rfl
  | cons slot rest ih => rw [List.cons_append, slotsVisits, slotsVisits, ih, List.append_assoc]

/-- What a root with the segment declares itself. -/
def ownDeclarations (segment : String) : List Declaration :=
  (Visit.declaration? ⟨.ofText segment, 0⟩).toList

/-- What the slots of a root with the segment declare. -/
def slotsDeclarations (segment : String) (slots : List (String × LayoutTree)) : List Declaration :=
  (slotsVisits (SegmentForm.ofText segment).contribution slots).filterMap Visit.declaration?

theorem declarations_node (segment : String) (slots : List (String × LayoutTree)) :
    (node segment slots).declarations =
      ownDeclarations segment ++ slotsDeclarations segment slots := by
  rw [declarations_eq_visits, visits, Nat.zero_add, filterMap_cons_toList]
  rfl

theorem slotsDeclarations_append (segment : String) (first second : List (String × LayoutTree)) :
    slotsDeclarations segment (first ++ second) =
      slotsDeclarations segment first ++ slotsDeclarations segment second := by
  rw [slotsDeclarations, slotsVisits_append, List.filterMap_append]
  rfl

theorem ownDeclarations_of_not_isParam {segment : String}
    (silent : (SegmentForm.ofText segment).isParam = false) : ownDeclarations segment = [] := by
  have undeclared : Visit.declaration? ⟨.ofText segment, 0⟩ = none :=
    Visit.declaration?_of_not_isParam silent
  rw [ownDeclarations, undeclared]
  rfl

end LayoutTree

namespace Store

open LayoutTree

variable {options : Options} {route : Route}

/-- A run of two parts is the run of the first, followed by that of the second unless the first is
stopped. -/
theorem follow_append (options : Options) (route : Route) (first second : List Declaration)
    (store : Store) :
    store.follow options route (first ++ second) =
      match (store.follow options route first).exhaustion? with
      | some _ => store.follow options route first
      | none => (store.follow options route first).store.follow options route second := by
  induction first generalizing store with
  | nil => rfl
  | cons declaration rest ih =>
    cases met : store.declare options route declaration with
    | error exhaustion => rw [List.cons_append, follow_of_error met, follow_of_error met]
    | ok next => rw [List.cons_append, follow_of_ok met, follow_of_ok met, ih next]

/-- The segment of a root that has been resolved may be met once more at no cost. -/
theorem follow_own_again {segment : String}
    (repeatable : (SegmentForm.ofText segment).isParam = false ∨ options.recordedAreKnown = true)
    (first second : List Declaration) {store : Store}
    (returns : (store.follow options route (ownDeclarations segment ++ first)).exhaustion? = none) :
    let left := (store.follow options route (ownDeclarations segment ++ first)).store
    left.follow options route (ownDeclarations segment ++ second) =
      left.follow options route second := by
  intro left
  rcases repeatable with silent | skips
  · rw [ownDeclarations_of_not_isParam silent, List.nil_append]
  · have idle : ∀ declaration ∈ ownDeclarations segment, declaration.IsIdle route left := by
      intro declaration member
      exact idle_of_returns returns declaration (List.mem_append_left first member)
    rw [follow_append, follow_of_idle skips idle]

end Store

namespace Resolution

/-- A node is resolved with all its slots as it is resolved with the first of them and then, on the store
that is left, with the others: the failure and the store are the same. If the first part fails, so does the
whole, with the same failure and the same store. -/
theorem resolved_in_parts {options : Options} {segment : String}
    (repeatable : (SegmentForm.ofText segment).isParam = false ∨ options.recordedAreKnown = true)
    (route : Route) (first second : List (String × LayoutTree)) (store : Store) :
    let whole := ofRaw options route (.tree (.node segment (first ++ second))) store
    let part := ofRaw options route (.tree (.node segment first)) store
    match part.failure? with
    | some failure => whole.failure? = some failure ∧ whole.store = part.store
    | none =>
      let rest := ofRaw options route (.tree (.node segment second)) part.store
      whole.failure? = rest.failure? ∧ whole.store = rest.store := by
  intro whole part
  have read (slots : List (String × LayoutTree)) :
      LayoutTree.ofRaw (.tree (.node segment slots)) = .ok (.node segment slots) := rfl
  have run := Store.follow_append options route (LayoutTree.node segment first).declarations
    (LayoutTree.slotsDeclarations segment second) store
  have all : (LayoutTree.node segment (first ++ second)).declarations =
      (LayoutTree.node segment first).declarations ++
        LayoutTree.slotsDeclarations segment second := by
    rw [LayoutTree.declarations_node, LayoutTree.declarations_node,
      LayoutTree.slotsDeclarations_append, List.append_assoc]
  simp only [whole, part, failure_ofRaw (read _), store_ofRaw (read _), all, run]
  cases ended : (store.follow options route
      (LayoutTree.node segment first).declarations).exhaustion? with
  | some exhaustion => exact ⟨congrArg _ ended, rfl⟩
  | none =>
    rw [LayoutTree.declarations_node] at ended
    have again := Store.follow_own_again repeatable _
      (LayoutTree.slotsDeclarations segment second) ended
    rw [LayoutTree.declarations_node, LayoutTree.declarations_node, again]
    exact ⟨rfl, rfl⟩

/-- The segment declares a parameter, which the second part finds recorded; the failure comes from the second
part, when it has bound a name that the first part left open. -/
theorem resolved_in_parts_beneath_param :
    let route : Route := .plain "/[area]/docs" true (PathToken.split "/[area]/docs".toList)
    let first : List (String × LayoutTree) :=
      [("modal", .node "[page]" [("children", .node "[[...rest]]" [])]), ("side", .node "(wide)" [])]
    let second : List (String × LayoutTree) :=
      [("children", .node "[...rest]" [("children", .node "[...more]" [])])]
    let whole := ofRaw {} route (.tree (.node "[area]" (first ++ second))) .empty
    let part := ofRaw {} route (.tree (.node "[area]" first)) .empty
    let rest := ofRaw {} route (.tree (.node "[area]" second)) part.store
    ({} : Options).recordedAreKnown = true ∧
      part.failure? = none ∧ part.store = ⟨[("page", .one "docs")], [⟨"area", .dynamic⟩]⟩ ∧
      whole.failure? = rest.failure? ∧ whole.store = rest.store ∧
      whole.failure?.map Failure.message = some ("Unexpected empty path segments match for route " ++
        "'/[area]/docs' with catch-all param 'more' at depth 2") ∧
      whole.store =
        ⟨[("page", .one "docs"), ("rest", .many ["docs"])], [⟨"area", .dynamic⟩]⟩ := by
  intro route first second whole part rest
  have returns : part.failure? = none := by decide +kernel
  have skips : ({} : Options).recordedAreKnown = true := rfl
  have parts := @resolved_in_parts {} "[area]" (.inr skips) route first second .empty
  dsimp only at parts
  rw [returns] at parts
  exact ⟨skips, returns, by decide +kernel, parts.1, parts.2, by decide +kernel, by decide +kernel⟩

end Resolution
end RouteParams
