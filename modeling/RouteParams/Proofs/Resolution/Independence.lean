import RouteParams.Proofs.Resolution.Deciders
import RouteParams.Proofs.Resolution.Exhaustion
import RouteParams.Proofs.Tree.SlotOrder

/-!
Declarations of different names do not depend on one another. Each of them does what it would do alone
with the store that the run starts from, so their order matters only for the order of what is added; in
particular the order of the slots does not matter in a tree that declares no name twice.
-/
namespace RouteParams

namespace NameTable

variable {α : Type}

theorem lookup_eq_of_perm {first second : NameTable α} (perm : first.Perm second)
    (distinct : (names first).Nodup) (name : String) : first.lookup name = second.lookup name := by
  induction perm with
  | nil => rfl
  | cons entry _ ih =>
    rw [List.lookup_cons, List.lookup_cons, ih (List.nodup_cons.1 distinct).2]
  | swap first second rest =>
    have different : second.1 ≠ first.1 := by
      have outside := (List.nodup_cons.1 distinct).1
      simp only [List.map_cons, List.mem_cons, not_or] at outside
      exact outside.1
    rw [List.lookup_cons, List.lookup_cons, List.lookup_cons, List.lookup_cons]
    by_cases same : name = first.1
    · rw [same, beq_false_of_ne (Ne.symm different), beq_self_eq_true]
    · rw [beq_false_of_ne same]
  | trans earlier _ ih ih' =>
    exact (ih distinct).trans (ih' ((earlier.map Prod.fst).nodup distinct))

end NameTable

namespace Declaration

/-- What a declaration calls for when a store does not know its name. -/
def ifUnknown {α : Type} (options : Options) (store : Store) (reading : Declaration → Option α)
    (declaration : Declaration) : Option α :=
  if store.knows options declaration.name then none else reading declaration

/-- The declaration stops a run that meets it with the store. -/
structure Stops (options : Options) (route : Route) (store : Store) (declaration : Declaration) :
    Prop where
  unknown : store.knows options declaration.name = false
  required : declaration.kind = .catchAll
  past : declaration.isPast route = true

variable {options : Options} {route : Route} {store next : Store} {declaration : Declaration}

theorem stops_congr
    (same : next.knows options declaration.name = store.knows options declaration.name) :
    declaration.Stops options route next ↔ declaration.Stops options route store := by
  constructor
  · rintro ⟨unknown, required, past⟩
    exact ⟨same.symm.trans unknown, required, past⟩
  · rintro ⟨unknown, required, past⟩
    exact ⟨same.trans unknown, required, past⟩

theorem readings_of_silent (optional : declaration.kind = .optionalCatchAll)
    (past : declaration.isPast route = true) :
    declaration.binding? route = none ∧ declaration.record? route = none := by
  have free : declaration.isBlocked route = false := by
    apply Bool.eq_false_iff.2
    intro blocked
    rw [not_isPast_of_isBlocked blocked] at past
    cases past
  exact ⟨by simp [binding?, past], by simp [record?, optional, free]⟩

end Declaration

namespace Store

open Declaration

variable {options : Options} {route : Route} {store next : Store} {declaration : Declaration}

theorem declare_eq_ok_iff :
    (∃ next, store.declare options route declaration = .ok next) ↔
      ¬declaration.Stops options route store := by
  constructor
  · rintro ⟨next, ok⟩ ⟨unknown, required, past⟩
    have fails := declare_eq_error_iff.2 ⟨unknown, required, past, rfl⟩
    cases fails.symm.trans ok
  · intro goes
    cases met : store.declare options route declaration with
    | ok next => exact ⟨next, rfl⟩
    | error exhaustion =>
      obtain ⟨unknown, required, past, _⟩ := declare_eq_error_iff.1 met
      exact absurd ⟨unknown, required, past⟩ goes

theorem adds_of_declares (declares : Declares options route store declaration next) :
    next.params = store.params ++ (ifUnknown options store (binding? route) declaration).toList ∧
      next.fallbacks =
        store.fallbacks ++ (ifUnknown options store (record? route) declaration).toList := by
  rw [ifUnknown, ifUnknown]
  cases declares with
  | known known =>
    rw [if_pos known, if_pos known]
    exact ⟨(List.append_nil _).symm, (List.append_nil _).symm⟩
  | left unknown optional past =>
    obtain ⟨unbound, unrecorded⟩ := readings_of_silent optional past
    rw [unbound, unrecorded, ite_self, ite_self]
    exact ⟨(List.append_nil _).symm, (List.append_nil _).symm⟩
  | recorded unknown unsupplied =>
    obtain ⟨_, unbound, recorded⟩ := readings_of_unsupplied unsupplied
    rw [unknown, unbound, recorded]
    exact ⟨(List.append_nil _).symm, rfl⟩
  | bound unknown inside free =>
    obtain ⟨_, bound, unrecorded⟩ := readings_of_free inside free
    rw [params_bind (has_of_not_knows unknown), unknown, bound, unrecorded]
    exact ⟨rfl, (List.append_nil _).symm⟩

theorem knows_later_of_declares (declares : Declares options route store declaration next)
    {rest : List Declaration} (fresh : declaration.name ∉ rest.map name) :
    ∀ later ∈ rest, next.knows options later.name = store.knows options later.name := by
  intro later member
  have other : declaration.name ≠ later.name := by
    intro equal
    exact fresh (equal ▸ List.mem_map_of_mem member)
  rw [knows_of_declares declares, beq_false_of_ne other, Bool.false_and, Bool.or_false]

/-! ## Runs -/

/-- A run of declarations with different names is stopped exactly if one of them stops it at once. -/
theorem returns_iff_of_distinct (declarations : List Declaration) (store : Store)
    (distinct : (declarations.map name).Nodup) :
    (store.follow options route declarations).exhaustion? = none ↔
      ∀ declaration ∈ declarations, ¬declaration.Stops options route store := by
  induction declarations generalizing store with
  | nil => simp [follow]
  | cons declaration rest ih =>
    obtain ⟨fresh, distinct⟩ := List.nodup_cons.1 distinct
    rw [List.forall_mem_cons, ← declare_eq_ok_iff]
    cases met : store.declare options route declaration with
    | error exhaustion =>
      rw [follow_of_error met]
      simp
    | ok next =>
      have same : ∀ later ∈ rest,
          ¬later.Stops options route next ↔ ¬later.Stops options route store := by
        intro later member
        have knows := knows_later_of_declares (declares_of_ok met) fresh later member
        exact not_congr (stops_congr knows)
      have goes : ∃ other, (.ok next : Except Exhaustion Store) = .ok other := ⟨next, rfl⟩
      rw [follow_of_ok met, ih next distinct, and_iff_right goes]
      exact forall₂_congr same

/-- A run of declarations with different names that returns adds what each of them calls for. -/
theorem follow_of_distinct (declarations : List Declaration) (store : Store)
    (distinct : (declarations.map name).Nodup)
    (returns : (store.follow options route declarations).exhaustion? = none) :
    (store.follow options route declarations).store.params =
        store.params ++ declarations.filterMap (ifUnknown options store (binding? route)) ∧
      (store.follow options route declarations).store.fallbacks =
        store.fallbacks ++ declarations.filterMap (ifUnknown options store (record? route)) := by
  induction declarations generalizing store with
  | nil => exact ⟨(List.append_nil _).symm, (List.append_nil _).symm⟩
  | cons declaration rest ih =>
    obtain ⟨next, met, same, returns⟩ := follow_cons_returns returns
    obtain ⟨fresh, distinct⟩ := List.nodup_cons.1 distinct
    have unchanged : ∀ {α : Type} (reading : Declaration → Option α),
        rest.filterMap (ifUnknown options next reading) =
          rest.filterMap (ifUnknown options store reading) := by
      intro α reading
      apply List.filterMap_congr
      intro later member
      rw [ifUnknown, ifUnknown, knows_later_of_declares (declares_of_ok met) fresh later member]
    obtain ⟨params, fallbacks⟩ := adds_of_declares (declares_of_ok met)
    obtain ⟨laterParams, laterFallbacks⟩ := ih next distinct returns
    rw [same, laterParams, laterFallbacks, unchanged, unchanged, params, fallbacks,
      filterMap_cons_toList, filterMap_cons_toList, List.append_assoc, List.append_assoc]
    exact ⟨rfl, rfl⟩

end Store

theorem Declaration.names_bindings_sublist (options : Options) (route : Route) (store : Store)
    (declarations : List Declaration) :
    (NameTable.names
      (declarations.filterMap (ifUnknown options store (binding? route)))).Sublist
        (declarations.map name) := by
  induction declarations with
  | nil => exact List.Sublist.slnil
  | cons declaration rest ih =>
    cases called : ifUnknown options store (binding? route) declaration with
    | none =>
      rw [List.filterMap_cons_none called]
      exact ih.cons _
    | some entry =>
      have named : entry.1 = declaration.name := by
        rw [ifUnknown, binding?] at called
        split at called
        · cases called
        · split at called
          · cases called
          · cases called
            rfl
      rw [List.filterMap_cons_some called, NameTable.names, List.map_cons, named]
      exact ih.cons_cons _

namespace Resolution

theorem exhausted_iff {options : Options} {route : Route} {raw : Raw} {tree : LayoutTree}
    (read : LayoutTree.ofRaw raw = .ok tree) {store : Store} :
    (∃ exhaustion, (ofRaw options route raw store).failure? = some (.exhausted exhaustion)) ↔
      ¬(store.follow options route tree.declarations).exhaustion? = none := by
  rw [failure_ofRaw read]
  cases (store.follow options route tree.declarations).exhaustion? with
  | none => simp
  | some exhaustion => simp

/-- In a tree that declares no name twice the order of the slots does not matter: the same tree with its
slots in another order is stopped exactly when it is, and when they return, both bind the same and record
the same after what was recorded before. -/
theorem slot_order_immaterial (options : Options) (route : Route) (store : Store)
    {tree other : LayoutTree} (same : (tree == other) = true) (distinct : tree.isDistinct = true)
    (once : (tree.declarations.map Declaration.name).Nodup) :
    ((∃ exhaustion, (ofRaw options route (.tree tree) store).failure? = some (.exhausted exhaustion)) ↔
      ∃ exhaustion, (ofRaw options route (.tree other) store).failure? = some (.exhausted exhaustion)) ∧
    ((ofRaw options route (.tree tree) store).failure? = none →
      (ofRaw options route (.tree other) store).failure? = none →
      (∀ name, (ofRaw options route (.tree tree) store).store.params.lookup name =
        (ofRaw options route (.tree other) store).store.params.lookup name) ∧
      store.fallbacks <+: (ofRaw options route (.tree tree) store).store.fallbacks ∧
      store.fallbacks <+: (ofRaw options route (.tree other) store).store.fallbacks ∧
      (ofRaw options route (.tree tree) store).store.fallbacks.Perm
        (ofRaw options route (.tree other) store).store.fallbacks) := by
  have perm : tree.declarations.Perm other.declarations :=
    (LayoutTree.perm_places same distinct).filterMap _
  have once' : (other.declarations.map Declaration.name).Nodup := (perm.map _).nodup once
  have read : LayoutTree.ofRaw (.tree tree) = .ok tree := rfl
  have read' : LayoutTree.ofRaw (.tree other) = .ok other := rfl
  constructor
  · have meet : (∀ declaration ∈ tree.declarations, ¬declaration.Stops options route store) ↔
        ∀ declaration ∈ other.declarations, ¬declaration.Stops options route store :=
      forall_congr' fun _ => imp_congr_left perm.mem_iff
    rw [exhausted_iff read, exhausted_iff read', Store.returns_iff_of_distinct _ store once,
      Store.returns_iff_of_distinct _ store once', meet]
  · rw [failure_ofRaw read, failure_ofRaw read', store_ofRaw read, store_ofRaw read',
      Option.map_eq_none_iff, Option.map_eq_none_iff]
    intro returns returns'
    obtain ⟨params, fallbacks⟩ := Store.follow_of_distinct _ store once returns
    obtain ⟨params', fallbacks'⟩ := Store.follow_of_distinct _ store once' returns'
    rw [params, params', fallbacks, fallbacks']
    refine ⟨?_, List.prefix_append _ _, List.prefix_append _ _, (perm.filterMap _).append_left _⟩
    intro name
    rw [List.lookup_append, List.lookup_append]
    congr 1
    apply NameTable.lookup_eq_of_perm (perm.filterMap _)
    exact once.sublist (Declaration.names_bindings_sublist options route store tree.declarations)

/-- The slots are turned round under both nodes that have two; the records come in another order. -/
theorem slot_order_immaterial_at_two_nodes :
    let route : Route := .plain "/shop/7/[hue]" true (PathToken.split "/shop/7/[hue]".toList)
    let tab : LayoutTree := .node "[tab]" [("children", .node "[hue]" [])]
    let item : LayoutTree := .node "[item]" [("children", .node "[[...more]]" [])]
    let tree : LayoutTree := .node ""
      [("children", .node "shop" [("modal", tab), ("children", item)]), ("side", .node "[area]" [])]
    let other : LayoutTree := .node ""
      [("side", .node "[area]" []), ("children", .node "shop" [("children", item), ("modal", tab)])]
    let store : Store := ⟨[("tab", .one "all")], [⟨"lang", .dynamic⟩]⟩
    (tree == other) = true ∧ tree.isDistinct = true ∧
      (tree.declarations.map Declaration.name).Nodup ∧
      (∀ name, (ofRaw {} route (.tree tree) store).store.params.lookup name =
        (ofRaw {} route (.tree other) store).store.params.lookup name) ∧
      (ofRaw {} route (.tree tree) store).store.fallbacks =
        [⟨"lang", .dynamic⟩, ⟨"hue", .dynamic⟩, ⟨"more", .catchAll⟩] ∧
      (ofRaw {} route (.tree other) store).store.fallbacks =
        [⟨"lang", .dynamic⟩, ⟨"more", .catchAll⟩, ⟨"hue", .dynamic⟩] := by
  intro route tab item tree other store
  have same : (tree == other) = true := by decide +kernel
  have distinct : tree.isDistinct = true := by decide +kernel
  have once : (tree.declarations.map Declaration.name).Nodup := by decide +kernel
  have values := ((slot_order_immaterial {} route store same distinct once).2
    (by decide +kernel) (by decide +kernel)).1
  exact ⟨same, distinct, once, values, by decide +kernel, by decide +kernel⟩

end Resolution
end RouteParams
