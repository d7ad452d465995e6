import RouteParams.Proofs.Resolution.Growth
import RouteParams.Proofs.Resolution.Recursion

/-!
Names that are known beforehand. A run from a store that knows one more name takes the same declarations and
does at each of them what the run without it does, except that it passes over those of this name. So it adds
the same but for the name, in the same order, and it returns if the other run returns.
-/
namespace RouteParams

theorem NameTable.erase_append {α : Type} (name : String) (first second : NameTable α) :
    erase name (first ++ second) = erase name first ++ erase name second :=
  List.filter_append first second

namespace Store

/-- Two stores that runs of the same declarations have reached, the second of them from a seed that knows a
name: it has added to its seed what the first has added to the start, without what is under this name. -/
structure Hushes (options : Options) (name : String) (start seed plain seeded : Store) : Prop where
  known : seeded.knows options name = true
  others : ∀ other, other ≠ name → seeded.knows options other = plain.knows options other
  params : ∃ bound, plain.params = start.params ++ bound ∧
    seeded.params = seed.params ++ NameTable.erase name bound
  fallbacks : ∃ recorded, plain.fallbacks = start.fallbacks ++ recorded ∧
    seeded.fallbacks = seed.fallbacks ++ recorded.filter fun fallback => fallback.name != name

namespace Hushes

variable {options : Options} {route : Route} {name changed : String}
  {start seed plain seeded next : Store} {declaration : Declaration}

theorem of_seed (known : seed.knows options name = true)
    (others : ∀ other, other ≠ name → seed.knows options other = start.knows options other) :
    Hushes options name start seed start seed :=
  ⟨known, others, ⟨[], (List.append_nil _).symm, (List.append_nil _).symm⟩,
    ⟨[], (List.append_nil _).symm, (List.append_nil _).symm⟩⟩

theorem bind (hushes : Hushes options name start seed plain seeded) (other : changed ≠ name)
    (unbound : plain.params.has changed = false) (unbound' : seeded.params.has changed = false)
    (value : BoundValue) :
    Hushes options name start seed (plain.bind changed value) (seeded.bind changed value) := by
  obtain ⟨bound, params, params'⟩ := hushes.params
  refine ⟨?_, ?_, ⟨bound ++ [(changed, value)], ?_, ?_⟩, hushes.fallbacks⟩
  · rw [knows_bind, hushes.known, Bool.true_or]
  · intro asked different
    rw [knows_bind, knows_bind, hushes.others asked different]
  · rw [params_bind unbound, params, List.append_assoc]
  · have kept : NameTable.erase name [(changed, value)] = [(changed, value)] :=
      List.filter_cons_of_pos (bne_iff_ne.2 other)
    rw [params_bind unbound', params', NameTable.erase_append, kept, List.append_assoc]

theorem record (hushes : Hushes options name start seed plain seeded) (other : changed ≠ name)
    (kind : ParamKind) :
    Hushes options name start seed (plain.record changed kind) (seeded.record changed kind) := by
  obtain ⟨recorded, fallbacks, fallbacks'⟩ := hushes.fallbacks
  refine ⟨?_, ?_, hushes.params, ⟨recorded ++ [⟨changed, kind⟩], ?_, ?_⟩⟩
  · rw [knows_record, hushes.known, Bool.true_or]
  · intro asked different
    rw [knows_record, knows_record, hushes.others asked different]
  · rw [Store.record, fallbacks, List.append_assoc]
  · have kept : [(⟨changed, kind⟩ : Fallback)].filter (fun fallback => fallback.name != name) =
        [⟨changed, kind⟩] := List.filter_cons_of_pos (bne_iff_ne.2 other)
    rw [Store.record, fallbacks', List.filter_append, kept, List.append_assoc]

theorem bind_hushed (hushes : Hushes options name start seed plain seeded)
    (unbound : plain.params.has name = false) (value : BoundValue) :
    Hushes options name start seed (plain.bind name value) seeded := by
  obtain ⟨bound, params, params'⟩ := hushes.params
  refine ⟨hushes.known, ?_, ⟨bound ++ [(name, value)], ?_, ?_⟩, hushes.fallbacks⟩
  · intro asked different
    rw [knows_bind, hushes.others asked different, beq_false_of_ne different.symm, Bool.or_false]
  · rw [params_bind unbound, params, List.append_assoc]
  · have dropped : NameTable.erase name [(name, value)] = [] :=
      List.filter_cons_of_neg (by simp)
    rw [params', NameTable.erase_append, dropped, List.append_nil]

theorem record_hushed (hushes : Hushes options name start seed plain seeded) (kind : ParamKind) :
    Hushes options name start seed (plain.record name kind) seeded := by
  obtain ⟨recorded, fallbacks, fallbacks'⟩ := hushes.fallbacks
  refine ⟨hushes.known, ?_, hushes.params, ⟨recorded ++ [⟨name, kind⟩], ?_, ?_⟩⟩
  · intro asked different
    rw [knows_record, hushes.others asked different, beq_false_of_ne different.symm, Bool.and_false,
      Bool.or_false]
  · rw [Store.record, fallbacks, List.append_assoc]
  · have dropped : [(⟨name, kind⟩ : Fallback)].filter (fun fallback => fallback.name != name) = [] :=
      List.filter_cons_of_neg (by simp)
    rw [fallbacks', List.filter_append, dropped, List.append_nil]

/-- A declaration of the name itself changes the first store at most under this name. -/
theorem declare_hushed (hushes : Hushes options name start seed plain seeded)
    (named : declaration.name = name)
    (declares : Declares options route plain declaration next) :
    Hushes options name start seed next seeded := by
  subst named
  cases declares with
  | known _ => exact hushes
  | left _ _ _ => exact hushes
  | recorded _ _ => exact hushes.record_hushed _
  | bound unknown _ _ => exact hushes.bind_hushed (has_of_not_knows unknown) _

theorem declare_other (hushes : Hushes options name start seed plain seeded)
    (other : declaration.name ≠ name)
    (met : plain.declare options route declaration = .ok next) :
    ∃ next', seeded.declare options route declaration = .ok next' ∧
      Hushes options name start seed next next' := by
  have knows := hushes.others declaration.name other
  cases known : plain.knows options declaration.name with
  | true =>
    rw [declare_of_known known] at met
    cases met
    exact ⟨seeded, declare_of_known (knows.trans known), hushes⟩
  | false =>
    have unknown := knows.trans known
    rw [declare_of_unknown known] at met
    rw [declare_of_unknown unknown]
    cases rule : declaration.rule route with
    | bind value =>
      rw [rule] at met
      cases met
      exact ⟨_, rfl, hushes.bind other (has_of_not_knows known) (has_of_not_knows unknown) value⟩
    | record kind =>
      rw [rule] at met
      cases met
      exact ⟨_, rfl, hushes.record other kind⟩
    | leave =>
      rw [rule] at met
      cases met
      exact ⟨seeded, rfl, hushes⟩
    | exhausted =>
      rw [rule] at met
      cases met

theorem declare (hushes : Hushes options name start seed plain seeded)
    (met : plain.declare options route declaration = .ok next) :
    ∃ next', seeded.declare options route declaration = .ok next' ∧
      Hushes options name start seed next next' := by
  by_cases named : declaration.name = name
  · have known : seeded.knows options declaration.name = true := by
      rw [named]
      exact hushes.known
    exact ⟨seeded, declare_of_known known, hushes.declare_hushed named (declares_of_ok met)⟩
  · exact hushes.declare_other named met

/-- If the run without the seed returns, the run from the seed returns as well. -/
theorem follow (hushes : Hushes options name start seed plain seeded)
    (declarations : List Declaration)
    (returns : (plain.follow options route declarations).exhaustion? = none) :
    (seeded.follow options route declarations).exhaustion? = none ∧
      Hushes options name start seed (plain.follow options route declarations).store
        (seeded.follow options route declarations).store := by
  induction declarations generalizing plain seeded with
  | nil => exact ⟨rfl, hushes⟩
  | cons declaration rest ih =>
    obtain ⟨next, met, same, returns⟩ := follow_cons_returns returns
    obtain ⟨next', met', hushes⟩ := hushes.declare met
    rw [same, follow_of_ok met']
    exact ih hushes returns

theorem seeded_eq (hushes : Hushes options name start seed plain seeded)
    {bound : NameTable BoundValue} {recorded : List Fallback}
    (whole : plain = ⟨start.params ++ bound, start.fallbacks ++ recorded⟩) :
    seeded = ⟨seed.params ++ NameTable.erase name bound,
      seed.fallbacks ++ recorded.filter fun fallback => fallback.name != name⟩ := by
  obtain ⟨bound', params, params'⟩ := hushes.params
  obtain ⟨recorded', fallbacks, fallbacks'⟩ := hushes.fallbacks
  rw [whole] at params fallbacks
  rw [List.append_cancel_left params, List.append_cancel_left fallbacks, ← params', ← fallbacks']

end Hushes

theorem hushes_bind (options : Options) (store : Store) (name : String) (value : BoundValue) :
    Hushes options name store (store.bind name value) store (store.bind name value) := by
  apply Hushes.of_seed
  · rw [knows_bind, beq_self_eq_true, Bool.or_true]
  · intro other different
    rw [knows_bind, beq_false_of_ne different.symm, Bool.or_false]

theorem hushes_record {options : Options} (skips : options.recordedAreKnown = true) (store : Store)
    (name : String) (kind : ParamKind) :
    Hushes options name store (store.record name kind) store (store.record name kind) := by
  apply Hushes.of_seed
  · rw [knows_record, skips, beq_self_eq_true, Bool.true_and, Bool.or_true]
  · intro other different
    rw [knows_record, beq_false_of_ne different.symm, Bool.and_false, Bool.or_false]

end Store

namespace Resolution

theorem store_ofRaw_extends (options : Options) (route : Route) (raw : Raw) (store : Store) :
    ∃ bound recorded, (ofRaw options route raw store).store =
      ⟨store.params ++ bound, store.fallbacks ++ recorded⟩ := by
  cases read : LayoutTree.ofRaw raw with
  | error error =>
    refine ⟨[], [], ?_⟩
    rw [ofRaw_of_error read, List.append_nil, List.append_nil]
    rfl
  | ok tree =>
    obtain ⟨bound, params, _⟩ := Store.params_follow options route tree.declarations store
    obtain ⟨recorded, fallbacks, _⟩ :=
      Store.fallbacks_follow options route tree.declarations store
    refine ⟨bound, recorded, ?_⟩
    rw [store_ofRaw read, ← params, ← fallbacks]

/-- The resolution of a tree from a seed, beside one that returns without it. -/
theorem ofRaw_of_hushes {options : Options} {name : String} {store seed : Store}
    (hushes : Store.Hushes options name store seed store seed) {route : Route} {raw : Raw}
    (returns : (ofRaw options route raw store).failure? = none) :
    (ofRaw options route raw seed).failure? = none ∧
      Store.Hushes options name store seed (ofRaw options route raw store).store
        (ofRaw options route raw seed).store := by
  cases read : LayoutTree.ofRaw raw with
  | error error =>
    rw [ofRaw_of_error read] at returns
    cases returns
  | ok tree =>
    rw [failure_ofRaw read, Option.map_eq_none_iff] at returns
    rw [failure_ofRaw read, Option.map_eq_none_iff, store_ofRaw read, store_ofRaw read]
    exact hushes.follow tree.declarations returns

/-- A name that is bound beforehand, or recorded beforehand where recorded names count as known, silences
itself and nothing else. A resolution that returns without the seed returns with it, and adds the same
behind the seed in the same order, without what it would have added under the name. -/
theorem silenced_by_seed {options : Options} {route : Route} {raw : Raw} {store : Store} {name : String}
    (unbound : store.params.has name = false)
    (returns : (ofRaw options route raw store).failure? = none) :
    ∃ bound recorded,
      (ofRaw options route raw store).store =
        ⟨store.params ++ bound, store.fallbacks ++ recorded⟩ ∧
      (∀ value,
        let seeded := ofRaw options route raw (store.bind name value)
        seeded.failure? = none ∧
          seeded.store = ⟨store.params ++ (name, value) :: NameTable.erase name bound,
            store.fallbacks ++ recorded.filter fun fallback => fallback.name != name⟩) ∧
      (options.recordedAreKnown = true → ∀ kind,
        let seeded := ofRaw options route raw (store.record name kind)
        seeded.failure? = none ∧
          seeded.store = ⟨store.params ++ NameTable.erase name bound, store.fallbacks ++
            ⟨name, kind⟩ :: recorded.filter fun fallback => fallback.name != name⟩) := by
  obtain ⟨bound, recorded, whole⟩ := store_ofRaw_extends options route raw store
  refine ⟨bound, recorded, whole, ?_, ?_⟩
  · intro value
    have hushes := Store.hushes_bind options store name value
    obtain ⟨returned, hushed⟩ := ofRaw_of_hushes hushes returns
    refine ⟨returned, ?_⟩
    rw [hushed.seeded_eq whole, Store.params_bind unbound, List.append_assoc]
    rfl
  · intro skips kind
    have hushes := Store.hushes_record skips store name kind
    obtain ⟨returned, hushed⟩ := ofRaw_of_hushes hushes returns
    refine ⟨returned, ?_⟩
    rw [hushed.seeded_eq whole, Store.record, List.append_assoc]
    rfl

/-- The name is declared at two depths, above names that the walk binds, records and leaves open. -/
theorem silenced_by_seed_at_two_nodes :
    let route : Route :=
      .plain "/docs/[page]/intro" true (PathToken.split "/docs/[page]/intro".toList)
    let tree : LayoutTree := .node ""
      [("side", .node "[area]" [("children", .node "[page]" [("children", .node "[tab]"
        [("children", .node "[[...more]]" [])])])]),
        ("children", .node "docs" [("modal", .node "[...area]" [("children", .node "[last]" [])])])]
    let store : Store := ⟨[("lang", .one "en")], []⟩
    let bound := ofRaw {} route (.tree tree) (store.bind "area" (.one "shop"))
    let recorded := ofRaw {} route (.tree tree) (store.record "area" .optionalCatchAll)
    store.params.has "area" = false ∧
      (ofRaw {} route (.tree tree) store).failure? = none ∧
      (ofRaw {} route (.tree tree) store).store =
        ⟨[("lang", .one "en"), ("area", .one "docs"), ("tab", .one "intro"), ("last", .one "intro")],
          [⟨"page", .dynamic⟩]⟩ ∧
      bound.failure? = none ∧
      bound.store =
        ⟨[("lang", .one "en"), ("area", .one "shop"), ("tab", .one "intro"), ("last", .one "intro")],
          [⟨"page", .dynamic⟩]⟩ ∧
      recorded.failure? = none ∧
      recorded.store = ⟨[("lang", .one "en"), ("tab", .one "intro"), ("last", .one "intro")],
        [⟨"area", .optionalCatchAll⟩, ⟨"page", .dynamic⟩]⟩ := by
  intro route tree store bound recorded
  have unbound : store.params.has "area" = false := by decide
  have returns : (ofRaw {} route (.tree tree) store).failure? = none := by decide +kernel
  obtain ⟨_, _, _, bySeed, byRecord⟩ := silenced_by_seed unbound returns
  exact ⟨unbound, returns, by decide +kernel, (bySeed (.one "shop")).1, by decide +kernel,
    (byRecord rfl .optionalCatchAll).1, by decide +kernel⟩

end Resolution
end RouteParams
