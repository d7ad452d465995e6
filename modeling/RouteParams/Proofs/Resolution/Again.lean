import RouteParams.Proofs.Resolution.Growth
import RouteParams.Proofs.Resolution.Recursion

/-!
Resolving again, when recorded names count as known. A declaration that a run has met has nothing left to do
with the store that the run leaves: its name is mentioned there, or it is an optional catch-all at or past the
end of the path. So a second run does nothing until it comes to where the first one was stopped.
-/
namespace RouteParams

namespace Declaration

/-- The store mentions the name, or the path has nothing for the declaration and it asks for nothing. -/
def IsIdle (route : Route) (store : Store) (declaration : Declaration) : Prop :=
  store.mentions declaration.name = true ∨
    declaration.kind = .optionalCatchAll ∧ declaration.isPast route = true

end Declaration

namespace Store

variable {options : Options} {route : Route} {store next : Store} {declaration : Declaration}

theorem declare_of_idle (skips : options.recordedAreKnown = true)
    (idle : declaration.IsIdle route store) :
    store.declare options route declaration = .ok store := by
  have knows := knows_eq_mentions skips store declaration.name
  rcases idle with mentioned | ⟨optional, past⟩
  · exact declare_of_known (knows.trans mentioned)
  · cases known : store.knows options declaration.name with
    | true => exact declare_of_known known
    | false =>
      have left : declaration.rule route = .leave := by
        rw [Declaration.rule, if_pos past, optional]
      rw [declare_of_unknown known, left]

theorem follow_of_idle (skips : options.recordedAreKnown = true)
    {declarations : List Declaration}
    (idle : ∀ declaration ∈ declarations, declaration.IsIdle route store) :
    store.follow options route declarations = ⟨store, none⟩ := by
  induction declarations with
  | nil => rfl
  | cons declaration rest ih =>
    obtain ⟨first, others⟩ := List.forall_mem_cons.1 idle
    have nothing := declare_of_idle skips first
    rw [follow_of_ok nothing, ih others]

theorem idle_follow (idle : declaration.IsIdle route store) (declarations : List Declaration) :
    declaration.IsIdle route (store.follow options route declarations).store := by
  rcases idle with mentioned | past
  · exact .inl (mentions_follow declarations store mentioned)
  · exact .inr past

theorem idle_of_returns {declarations : List Declaration}
    (returns : (store.follow options route declarations).exhaustion? = none) :
    ∀ declaration ∈ declarations,
      declaration.IsIdle route (store.follow options route declarations).store := by
  intro declaration member
  cases mentioned :
      (store.follow options route declarations).store.mentions declaration.name with
  | true => exact .inl mentioned
  | false =>
    have past := past_of_not_mentions declarations store returns declaration member mentioned
    exact .inr past

/-- A second run of the same declarations ends as the first one did, with the store that this one left. -/
theorem follow_again (skips : options.recordedAreKnown = true) (declarations : List Declaration)
    (store : Store) :
    (store.follow options route declarations).store.follow options route declarations =
      store.follow options route declarations := by
  induction declarations generalizing store with
  | nil => rfl
  | cons declaration rest ih =>
    cases met : store.declare options route declaration with
    | error exhaustion =>
      rw [follow_of_error met]
      exact follow_of_error met
    | ok next =>
      -- What the declaration has taught the store stays there to the end of the first run.
      have idle : declaration.IsIdle route next :=
        mentions_or_past_of_declares (declares_of_ok met)
      have still : declaration.IsIdle route (next.follow options route rest).store :=
        idle_follow idle rest
      have nothing := declare_of_idle skips still
      rw [follow_of_ok met, follow_of_ok nothing]
      exact ih next

end Store

namespace Resolution

theorem ofRaw_of_idle {options : Options} (skips : options.recordedAreKnown = true) {route : Route}
    {raw : Raw} {tree : LayoutTree} (read : LayoutTree.ofRaw raw = .ok tree) {store : Store}
    (idle : ∀ declaration ∈ tree.declarations, declaration.IsIdle route store) :
    (ofRaw options route raw store).failure? = none ∧
      (ofRaw options route raw store).store = store := by
  have nothing := Store.follow_of_idle skips idle
  rw [failure_ofRaw read, store_ofRaw read, nothing]
  exact ⟨rfl, rfl⟩

/-- A second resolution of a tree fails as the first one did, and leaves the store as it found it. -/
theorem ofRaw_again {options : Options} (skips : options.recordedAreKnown = true) (route : Route)
    (raw : Raw) (store : Store) :
    let left := (ofRaw options route raw store).store
    (ofRaw options route raw left).failure? = (ofRaw options route raw store).failure? ∧
      (ofRaw options route raw left).store = left := by
  intro left
  cases read : LayoutTree.ofRaw raw with
  | error error =>
    rw [ofRaw_of_error read, ofRaw_of_error read]
    exact ⟨rfl, rfl⟩
  | ok tree =>
    have leaves : left = (store.follow options route tree.declarations).store :=
      store_ofRaw read store
    have again : left.follow options route tree.declarations =
        store.follow options route tree.declarations := by
      rw [leaves]
      exact Store.follow_again skips tree.declarations store
    rw [failure_ofRaw read, failure_ofRaw read, store_ofRaw read, again]
    exact ⟨rfl, leaves.symm⟩

/-- Once a tree has been resolved against a route, a tree whose declarations are all among its own returns
without changing the store; and where the resolution of a tree failed, repeating it fails in the same way and
changes nothing. -/
theorem unchanged_once_resolved {options : Options} (skips : options.recordedAreKnown = true)
    (route : Route) (raw : Raw) (store : Store) :
    let left := (ofRaw options route raw store).store
    ((ofRaw options route raw store).failure? = none →
      ∀ tree raw' other, LayoutTree.ofRaw raw = .ok tree → LayoutTree.ofRaw raw' = .ok other →
        other.declarations ⊆ tree.declarations →
          (ofRaw options route raw' left).failure? = none ∧
            (ofRaw options route raw' left).store = left) ∧
    ∀ failure, (ofRaw options route raw store).failure? = some failure →
      (ofRaw options route raw left).failure? = some failure ∧
        (ofRaw options route raw left).store = left := by
  intro left
  constructor
  · intro returns tree raw' other read read' among
    have leaves : left = (store.follow options route tree.declarations).store :=
      store_ofRaw read store
    rw [failure_ofRaw read, Option.map_eq_none_iff] at returns
    have idle : ∀ declaration ∈ other.declarations, declaration.IsIdle route left := by
      rw [leaves]
      exact fun declaration member => Store.idle_of_returns returns declaration (among member)
    exact ofRaw_of_idle skips read' idle
  · intro failure fails
    obtain ⟨alike, kept⟩ := ofRaw_again skips route raw store
    exact ⟨alike.trans fails, kept⟩

/-- The second tree has two of the declarations of the first in another order and beneath other nodes; the
last tree fails beneath `page`, which the second attempt finds recorded. -/
theorem unchanged_once_resolved_in_part :
    let route : Route := .plain "/docs/[page]" true (PathToken.split "/docs/[page]".toList)
    let store : Store := ⟨[("lang", .one "en")], []⟩
    let tree : LayoutTree := .node ""
      [("modal", .node "[area]" [("children", .node "[page]" [("children", .node "[[...all]]" [])])]),
        ("children", .node "docs" [("children", .node "[...rest]" [])])]
    let other : LayoutTree := .node "(app)"
      [("children", .node "docs" [("side", .node "(wide)" [("children", .node "[...rest]" [])])]),
        ("modal", .node "(.)blog" [("first", .node "new" [("last", .node "[[...all]]" [])])])]
    let failing : LayoutTree := .node "[area]"
      [("children", .node "[page]" [("modal", .node "[...more]" []), ("side", .node "[tab]" [])])]
    let left := (ofRaw {} route (.tree tree) store).store
    let stopped := (ofRaw {} route (.tree failing) store).store
    other.declarations ⊆ tree.declarations ∧
      left = ⟨[("lang", .one "en"), ("area", .one "docs")], [⟨"page", .dynamic⟩, ⟨"rest", .catchAll⟩]⟩ ∧
      (ofRaw {} route (.tree other) left).store = left ∧
      stopped = ⟨[("lang", .one "en"), ("area", .one "docs")], [⟨"page", .dynamic⟩]⟩ ∧
      (ofRaw {} route (.tree failing) stopped).failure?.isSome = true ∧
      (ofRaw {} route (.tree failing) stopped).store = stopped := by
  intro route store tree other failing left stopped
  have among : other.declarations ⊆ tree.declarations := by decide +kernel
  have returns : (ofRaw {} route (.tree tree) store).failure? = none := by decide +kernel
  have part := (unchanged_once_resolved rfl route (.tree tree) store).1 returns tree (.tree other)
    other rfl rfl among
  have fails : (ofRaw {} route (.tree failing) store).failure?.isSome = true := by decide +kernel
  obtain ⟨failure, fails⟩ := Option.isSome_iff_exists.1 fails
  have whole := (unchanged_once_resolved rfl route (.tree failing) store).2 failure fails
  refine ⟨among, by decide +kernel, part.2, by decide +kernel, ?_, whole.2⟩
  exact Option.isSome_iff_exists.2 ⟨failure, whole.1⟩

end Resolution
end RouteParams
