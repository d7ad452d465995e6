import RouteParams.Proofs.Resolution.Recursion
import RouteParams.Proofs.Route.Spelling

/-!
Resolution further down a path. If a path holds another one behind some of its tokens, a declaration that
stands so many positions further down finds in the longer path what it finds in the other one. A run of such
declarations does the same to a store, and it is stopped, if at all, so many positions further down.
-/
namespace RouteParams

/-! ## Positions further down -/

def Visit.lowered (count : Nat) (visit : Visit) : Visit :=
  ⟨visit.form, visit.depth + count⟩

def Declaration.lowered (count : Nat) (declaration : Declaration) : Declaration :=
  ⟨declaration.kind, declaration.name, declaration.position + count⟩

/-- The same exhaustion, so many positions further down another pathname. -/
def Exhaustion.lowered (pathname : String) (count : Nat) (exhaustion : Exhaustion) : Exhaustion :=
  ⟨exhaustion.name, pathname, exhaustion.depth + count⟩

def Ending.lowered (pathname : String) (count : Nat) (ending : Ending) : Ending :=
  ⟨ending.store, ending.exhaustion?.map (Exhaustion.lowered pathname count)⟩

/-- The same failure; an exhaustion is met so many positions further down another pathname. -/
def Failure.lowered (pathname : String) (count : Nat) : Failure → Failure
  | .exhausted exhaustion => .exhausted (exhaustion.lowered pathname count)
  | failure => failure

theorem Visit.declaration?_lowered (count : Nat) (visit : Visit) :
    (visit.lowered count).declaration? = visit.declaration?.map (Declaration.lowered count) := by
  obtain ⟨form, depth⟩ := visit
  cases form <;> rfl

theorem Declaration.lowered_zero (declarations : List Declaration) :
    declarations.map (lowered 0) = declarations :=
  List.map_id declarations

namespace LayoutTree

mutual

theorem visits_add (depth count : Nat) (tree : LayoutTree) :
    visits (depth + count) tree = (visits depth tree).map (Visit.lowered count) := by
  match tree with
  | .node segment slots =>
    have below := slotsVisits_add (depth + (SegmentForm.ofText segment).contribution) count slots
    rw [Nat.add_right_comm] at below
    rw [visits, visits, List.map_cons, below]
    rfl

theorem slotsVisits_add (depth count : Nat) (slots : List (String × LayoutTree)) :
    slotsVisits (depth + count) slots = (slotsVisits depth slots).map (Visit.lowered count) := by
  match slots with
  | [] => rfl
  | (_, child) :: rest =>
    have first := visits_add depth count child
    have others := slotsVisits_add depth count rest
    rw [slotsVisits, slotsVisits, List.map_append, first, others]

end

/-- What stands alone beneath a fixed segment stands one position further down. -/
theorem declarations_beneath_fixed {segment : String}
    (fixed : (SegmentForm.ofText segment).isFixed = true) (slot : String) (tree : LayoutTree) :
    (node segment [(slot, tree)]).declarations =
      tree.declarations.map (Declaration.lowered 1) := by
  have takes := SegmentForm.contribution_of_isFixed fixed
  have silent : (⟨.ofText segment, 0⟩ : Visit).declaration? = none :=
    Visit.declaration?_of_not_isParam (SegmentForm.isParam_of_isFixed fixed)
  have lower : (fun visit : Visit => (visit.lowered 1).declaration?) =
      fun visit => visit.declaration?.map (Declaration.lowered 1) :=
    funext (Visit.declaration?_lowered 1)
  rw [declarations_eq_visits, declarations_eq_visits, visits, slotsVisits, slotsVisits, takes,
    List.append_nil, List.filterMap_cons_none silent, visits_add, List.filterMap_map,
    List.map_filterMap]
  exact congrArg (List.filterMap · _) lower

end LayoutTree

/-! ## Runs further down -/

section

variable (options : Options) {route route' : Route} {count : Nat}
  (path : route'.path.drop count = route.path)

include path

theorem Declaration.rule_lowered (declaration : Declaration) :
    (declaration.lowered count).rule route' = declaration.rule route := by
  have tokens : route'.path.drop (declaration.position + count) =
      route.path.drop declaration.position := by
    rw [Nat.add_comm, ← List.drop_drop, path]
  rw [← Route.ruling_eq_rule, ← Route.ruling_eq_rule, Route.ruling, Route.ruling]
  exact congrArg (Ruling.ofTokens declaration.kind) tokens

theorem Store.declare_lowered (store : Store) (declaration : Declaration) :
    store.declare options route' (declaration.lowered count) =
      (store.declare options route declaration).mapError
        (Exhaustion.lowered route'.pathname count) := by
  have rule := declaration.rule_lowered path
  cases known : store.knows options declaration.name with
  | true =>
    have known' : store.knows options (declaration.lowered count).name = true := known
    rw [declare_of_known known, declare_of_known known']
    rfl
  | false =>
    have unknown : store.knows options (declaration.lowered count).name = false := known
    rw [declare_of_unknown known, declare_of_unknown unknown, rule]
    cases declaration.rule route with
    | bind value => rfl
    | record kind => rfl
    | leave => rfl
    | exhausted => rfl

theorem Store.follow_lowered (declarations : List Declaration) (store : Store) :
    store.follow options route' (declarations.map (Declaration.lowered count)) =
      (store.follow options route declarations).lowered route'.pathname count := by
  induction declarations generalizing store with
  | nil => rfl
  | cons declaration rest ih =>
    have lowered := store.declare_lowered options path declaration
    rw [List.map_cons]
    cases met : store.declare options route declaration with
    | error exhaustion =>
      rw [met] at lowered
      rw [follow_of_error met, follow_of_error lowered]
      rfl
    | ok next =>
      rw [met] at lowered
      rw [follow_of_ok met, follow_of_ok lowered, ih next]

end

namespace Resolution

/-- The second resolution leaves the same store as the first and fails exactly if it does, with the same
failure so many positions further down another pathname. -/
structure Lowers (pathname : String) (count : Nat) (first second : Resolution) : Prop where
  store : second.store = first.store
  failure : second.failure? = first.failure?.map (Failure.lowered pathname count)

theorem lowers_of_declarations {options : Options} {route route' : Route} {count : Nat}
    (path : route'.path.drop count = route.path) {raw raw' : Raw} {tree tree' : LayoutTree}
    (read : LayoutTree.ofRaw raw = .ok tree) (read' : LayoutTree.ofRaw raw' = .ok tree')
    (same : tree'.declarations = tree.declarations.map (Declaration.lowered count))
    (store : Store) :
    Lowers route'.pathname count (ofRaw options route raw store)
      (ofRaw options route' raw' store) := by
  have run := Store.follow_lowered options path tree.declarations store
  constructor
  · rw [store_ofRaw read, store_ofRaw read', same, run]
    rfl
  · rw [failure_ofRaw read, failure_ofRaw read', same, run, Option.map_map]
    exact Option.map_map _ _ _

/-- A tree beneath a fixed segment, on a path with one more token in front, is resolved as the tree alone:
the store is the same, and an exhaustion has the same name one position further down. -/
theorem lowered_beneath_fixed (options : Options) {route route' : Route} (read : route.IsRead)
    (read' : route'.IsRead) {first : String} (path : route'.pathTexts = first :: route.pathTexts)
    {segment : String} (fixed : (SegmentForm.ofText segment).isFixed = true) (slot : String)
    (tree : LayoutTree) (store : Store) :
    Lowers route'.pathname 1 (ofRaw options route (.tree tree) store)
      (ofRaw options route' (.tree (.node segment [(slot, tree)])) store) := by
  have behind : route'.path.drop 1 = route.path := by
    rw [Route.path_eq_map read', Route.path_eq_map read, path]
    rfl
  exact lowers_of_declarations behind rfl rfl
    (LayoutTree.declarations_beneath_fixed fixed slot tree) store

/-- The token in front is a placeholder behind a group; a value, a record and the exhaustion come from
behind it. -/
theorem lowered_behind_placeholder :
    let route : Route := .plain "/docs/[page]" true (PathToken.split "/docs/[page]".toList)
    let route' : Route :=
      .plain "/(wide)/[lang]/docs/[page]" false (PathToken.split "/(wide)/[lang]/docs/[page]".toList)
    let tree : LayoutTree := .node ""
      [("modal", .node "[area]" [("children", .node "[page]" [("children", .node "[[...all]]" [])])]),
        ("children", .node "docs" [("children", .node "[page]" [("children", .node "[...rest]" [])])])]
    let store : Store := ⟨[("lang", .one "en")], []⟩
    let first := ofRaw {} route (.tree tree) store
    let second := ofRaw {} route' (.tree (.node "(.)[lang]" [("children", tree)])) store
    route.IsRead ∧ route'.IsRead ∧ Lowers route'.pathname 1 first second ∧
      second.store = ⟨[("lang", .one "en"), ("area", .one "docs")], [⟨"page", .dynamic⟩]⟩ ∧
      first.failure?.isSome = true ∧
      second.failure?.map Failure.message = some ("Unexpected empty path segments match for route " ++
        "'/(wide)/[lang]/docs/[page]' with catch-all param 'rest' at depth 3") := by
  intro route route' tree store first second
  have read : route.IsRead := ⟨true, "/docs/[page]", by decide +kernel⟩
  have read' : route'.IsRead := ⟨false, "/(wide)/[lang]/docs/[page]", by decide +kernel⟩
  have path : route'.pathTexts = "[lang]" :: route.pathTexts := by decide +kernel
  have lowers := lowered_beneath_fixed {} read read' path
    (SegmentForm.isFixed_of_marked .sameLevel "[lang]") "children" tree store
  exact ⟨read, read', lowers, by decide +kernel, by decide +kernel, by decide +kernel⟩

end Resolution
end RouteParams
