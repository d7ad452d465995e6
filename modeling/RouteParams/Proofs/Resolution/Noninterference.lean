import RouteParams.Proofs.Resolution.Knowledge
import RouteParams.Proofs.Resolution.Recursion
import RouteParams.Proofs.Route.Spelling
import RouteParams.Proofs.Tree.SlotTable

/-!
Params do not interfere. What a run makes of a name depends on what the store held for this name and on
the positions of the path that the declarations of this name take, and on nothing else: two runs that
agree there end in agreement about the name, whatever becomes of the others.
-/
namespace RouteParams

namespace Store

def recordsOf (store : Store) (name : String) : List Fallback :=
  store.fallbacks.filter fun fallback => fallback.name == name

/-- Two stores hold the same of a name: the same value or none, and the same records in order. -/
structure AgreesOn (name : String) (store other : Store) : Prop where
  value : store.params.lookup name = other.params.lookup name
  records : store.recordsOf name = other.recordsOf name

theorem records_eq_any_recordsOf (store : Store) (name : String) :
    store.records name = (store.recordsOf name).any fun _ => true := by
  rw [recordsOf, List.any_filter]
  simp only [Bool.and_true]
  rfl

theorem lookup_bind {store : Store} {name : String} (unbound : store.params.has name = false)
    (value : BoundValue) (other : String) :
    (store.bind name value).params.lookup other =
      if other = name then some value else store.params.lookup other := by
  rw [params_bind unbound, List.lookup_append]
  by_cases same : other = name
  · have absent : store.params.lookup name = none := by
      rw [NameTable.has_eq_isSome_lookup] at unbound
      simpa using unbound
    simp [same, absent]
  · rw [List.lookup_cons, beq_false_of_ne same, if_neg same]
    exact Option.or_none

theorem recordsOf_record (store : Store) (name : String) (kind : ParamKind) (other : String) :
    (store.record name kind).recordsOf other =
      if name = other then store.recordsOf other ++ [⟨name, kind⟩] else store.recordsOf other := by
  rw [recordsOf, record, List.filter_append]
  by_cases same : name = other
  · simp [same, recordsOf]
  · simp [same, recordsOf]

namespace AgreesOn

variable {name : String} {options : Options} {route route' : Route}
  {store store' next next' : Store} {declaration : Declaration}

theorem knows_eq (agrees : store.AgreesOn name store') :
    store.knows options name = store'.knows options name := by
  rw [knows, knows, NameTable.has_eq_isSome_lookup, NameTable.has_eq_isSome_lookup, agrees.value,
    records_eq_any_recordsOf, records_eq_any_recordsOf, agrees.records]

theorem bind (agrees : store.AgreesOn name store') {changed : String} (value : BoundValue)
    (unbound : store.params.has changed = false) (unbound' : store'.params.has changed = false) :
    (store.bind changed value).AgreesOn name (store'.bind changed value) := by
  refine ⟨?_, agrees.records⟩
  rw [lookup_bind unbound, lookup_bind unbound', agrees.value]

theorem record (agrees : store.AgreesOn name store') (changed : String) (kind : ParamKind) :
    (store.record changed kind).AgreesOn name (store'.record changed kind) := by
  refine ⟨agrees.value, ?_⟩
  rw [recordsOf_record, recordsOf_record, agrees.records]

/-- A declaration of another name leaves a name as it was. -/
theorem of_declares (declares : Declares options route store declaration next)
    (other : declaration.name ≠ name) : store.AgreesOn name next := by
  cases declares with
  | known _ => exact ⟨rfl, rfl⟩
  | left _ _ _ => exact ⟨rfl, rfl⟩
  | recorded _ _ =>
    refine ⟨rfl, ?_⟩
    rw [recordsOf_record, if_neg other]
  | bound unknown _ _ =>
    refine ⟨?_, rfl⟩
    rw [lookup_bind (has_of_not_knows unknown), if_neg (Ne.symm other)]

theorem symm (agrees : store.AgreesOn name store') : store'.AgreesOn name store :=
  ⟨agrees.value.symm, agrees.records.symm⟩

theorem trans (first : store.AgreesOn name store') (second : store'.AgreesOn name next) :
    store.AgreesOn name next :=
  ⟨first.value.trans second.value, first.records.trans second.records⟩

theorem declare (agrees : store.AgreesOn declaration.name store')
    (same : declaration.rule route = declaration.rule route')
    (ok : store.declare options route declaration = .ok next)
    (ok' : store'.declare options route' declaration = .ok next') :
    next.AgreesOn declaration.name next' := by
  have knows : store.knows options declaration.name = store'.knows options declaration.name :=
    agrees.knows_eq
  cases known : store.knows options declaration.name with
  | true =>
    rw [declare_of_known known] at ok
    rw [declare_of_known (knows.symm.trans known)] at ok'
    cases ok
    cases ok'
    exact agrees
  | false =>
    have known' := knows.symm.trans known
    rw [declare_of_unknown known, same] at ok
    rw [declare_of_unknown known'] at ok'
    cases rule : declaration.rule route' with
    | bind value =>
      rw [rule] at ok ok'
      cases ok
      cases ok'
      exact agrees.bind value (has_of_not_knows known) (has_of_not_knows known')
    | record kind =>
      rw [rule] at ok ok'
      cases ok
      cases ok'
      exact agrees.record declaration.name kind
    | leave =>
      rw [rule] at ok ok'
      cases ok
      cases ok'
      exact agrees
    | exhausted =>
      rw [rule] at ok
      cases ok

/-- Two runs that return, of the same declarations on routes that rule alike for a name. -/
theorem follow (agrees : store.AgreesOn name store') (declarations : List Declaration)
    (alike : ∀ declaration ∈ declarations, declaration.name = name →
      declaration.rule route = declaration.rule route')
    (returns : (store.follow options route declarations).exhaustion? = none)
    (returns' : (store'.follow options route' declarations).exhaustion? = none) :
    (store.follow options route declarations).store.AgreesOn name
      (store'.follow options route' declarations).store := by
  induction declarations generalizing store store' with
  | nil => exact agrees
  | cons declaration rest ih =>
    obtain ⟨next, met, same, returns⟩ := follow_cons_returns returns
    obtain ⟨next', met', same', returns'⟩ := follow_cons_returns returns'
    obtain ⟨first, others⟩ := List.forall_mem_cons.1 alike
    rw [same, same']
    refine ih ?_ others returns returns'
    by_cases named : declaration.name = name
    · subst named
      exact agrees.declare (first rfl) met met'
    -- Here the two runs may do different things, and each leaves the name alone.
    · have left := of_declares (declares_of_ok met) named
      have right := of_declares (declares_of_ok met') named
      exact (left.symm.trans agrees).trans right

end AgreesOn
end Store

namespace Declaration

variable {route route' : Route}

/-- The rule for a declaration depends on the length of the path and on what stands at the positions
that the declaration takes. -/
theorem rule_congr (declaration : Declaration) (length : route.length = route'.length)
    (same : ∀ index ∈ declaration.range route, route.path[index]? = route'.path[index]?) :
    declaration.rule route = declaration.rule route' := by
  obtain ⟨kind, name, position⟩ := declaration
  have rest : (∀ index ∈ List.range' position (route.length - position),
      route.path[index]? = route'.path[index]?) →
      route.path.drop position = route'.path.drop position := by
    intro same
    apply List.ext_getElem?
    intro offset
    rw [List.getElem?_drop, List.getElem?_drop]
    by_cases inside : position + offset < route.length
    · exact same _ (List.mem_range'_1.2 ⟨Nat.le_add_right position offset, by omega⟩)
    · rw [List.getElem?_eq_none (by rw [Route.length_path]; omega),
        List.getElem?_eq_none (by rw [Route.length_path]; omega)]
  rw [← Route.ruling_eq_rule, ← Route.ruling_eq_rule, Route.ruling, Route.ruling]
  cases kind with
  | dynamic =>
    have first : (route.path.drop position).head? = (route'.path.drop position).head? := by
      rw [List.head?_drop, List.head?_drop]
      exact same position (List.mem_singleton.2 rfl)
    dsimp only
    generalize route.path.drop position = tokens at first
    generalize route'.path.drop position = tokens' at first
    cases tokens with
    | nil =>
      rw [List.head?_eq_none_iff.1 first.symm]
    | cons token later =>
      obtain ⟨later', rfl⟩ := List.head?_eq_some_iff.1 first.symm
      rfl
  | catchAll => rw [rest same]
  | optionalCatchAll => rw [rest same]

end Declaration

namespace Resolution

/-- What a run that returns makes of a name is decided by what the store holds of this name and by the
texts at the positions that the declarations of this name take, in a path of the same length. -/
theorem noninterference (options : Options) (name : String) {raw : Raw} {tree : LayoutTree}
    (parsed : LayoutTree.ofRaw raw = .ok tree) {route route' : Route} (read : route.IsRead)
    (read' : route'.IsRead) (length : route.length = route'.length)
    (same : ∀ declaration ∈ tree.declarations, declaration.name = name →
      ∀ index ∈ declaration.range route, route.pathTexts[index]? = route'.pathTexts[index]?)
    {store store' : Store} (agrees : store.AgreesOn name store')
    (returns : (ofRaw options route raw store).failure? = none)
    (returns' : (ofRaw options route' raw store').failure? = none) :
    (ofRaw options route raw store).store.AgreesOn name (ofRaw options route' raw store').store := by
  rw [failure_ofRaw parsed, Option.map_eq_none_iff] at returns returns'
  rw [store_ofRaw parsed, store_ofRaw parsed]
  refine agrees.follow tree.declarations ?_ returns returns'
  intro declaration member named
  apply declaration.rule_congr length
  intro index among
  exact Route.getElem?_path_eq read read' (same declaration member named index among)

/-- Both nodes of `id` take the second position alone. One run binds `rest` and records nothing, the
other finds placeholders at the other positions and a store that holds more. -/
theorem noninterference_beside_placeholders :
    let options : Options := { recordedAreKnown := false }
    let tree : LayoutTree := .node "shop"
      [("side", .node "[id]" [("children", .node "[...rest]" [])]),
        ("children", .node "(wide)" [("children", .node "[id]" [("modal", .node "[hue]" [])])])]
    let route : Route := .plain "/shop/7/red" true (PathToken.split "/shop/7/red".toList)
    let route' : Route := .plain "/[store]/7/[hue]" true (PathToken.split "/[store]/7/[hue]".toList)
    let store : Store := ⟨[("lang", .one "en")], [⟨"id", .catchAll⟩]⟩
    let store' : Store := ⟨[("hue", .one "blue")], [⟨"rest", .dynamic⟩, ⟨"id", .catchAll⟩]⟩
    route.IsRead ∧ route'.IsRead ∧ store.AgreesOn "id" store' ∧
      (ofRaw options route (.tree tree) store).failure? = none ∧
      (ofRaw options route' (.tree tree) store').failure? = none ∧
      (ofRaw options route (.tree tree) store).store.AgreesOn "id"
        (ofRaw options route' (.tree tree) store').store ∧
      (ofRaw options route (.tree tree) store).store.params.lookup "id" = some (.one "7") := by
  intro options tree route route' store store'
  have read : route.IsRead := ⟨true, "/shop/7/red", by decide +kernel⟩
  have read' : route'.IsRead := ⟨true, "/[store]/7/[hue]", by decide +kernel⟩
  have agrees : store.AgreesOn "id" store' := ⟨by decide, by decide⟩
  have returns : (ofRaw options route (.tree tree) store).failure? = none := by decide +kernel
  have returns' : (ofRaw options route' (.tree tree) store').failure? = none := by decide +kernel
  have agree := noninterference options "id" rfl read read' (by decide +kernel) (by decide +kernel)
    agrees returns returns'
  exact ⟨read, read', agrees, returns, returns', agree, by decide +kernel⟩

end Resolution
end RouteParams
