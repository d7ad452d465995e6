import Mathlib.Data.List.Basic
import RouteParams.Proofs.Resolution.Knowledge
import RouteParams.Proofs.Resolution.Recursion

/-!
The closed form of a resolution that returns. The first declaration of a name decides it, optional
catch-alls at or past the end of the path apart; what a resolution adds to a store is what the deciding
declarations say of the names that the store does not mention, in the order of these declarations.
-/
namespace RouteParams

namespace Declaration

/-- An optional catch-all at or past the end of the path decides nothing. -/
def decides (route : Route) (declaration : Declaration) : Bool :=
  !(declaration.kind == .optionalCatchAll && declaration.isPast route)

def binding? (route : Route) (declaration : Declaration) : Option (String × BoundValue) :=
  if declaration.isPast route || declaration.isBlocked route then none
  else some (declaration.name, declaration.value route)

def record? (route : Route) (declaration : Declaration) : Option Fallback :=
  if declaration.kind == .dynamic && declaration.isPast route || declaration.isBlocked route then
    some ⟨declaration.name, declaration.kind.recorded⟩
  else none

def decider? (route : Route) (declarations : List Declaration) (name : String) :
    Option Declaration :=
  declarations.find? fun declaration => declaration.name == name && declaration.decides route

/-- The names that some declaration decides and a store does not mention, in the order of the deciding
declarations. -/
def openNames (route : Route) (store : Store) (declarations : List Declaration) : List String :=
  (((declarations.filter (decides route)).map name).filter
    fun name => !store.mentions name).eraseDups

/-- What the deciding declarations of the open names say, in the order of these declarations. -/
def settled {α : Type} (route : Route) (reading : Declaration → Option α) (store : Store)
    (declarations : List Declaration) : List α :=
  (openNames route store declarations).filterMap fun name =>
    (decider? route declarations name).bind reading

variable {route : Route} {store next : Store} {declaration : Declaration}
  {rest : List Declaration}

theorem not_mentions_of_mem_openNames {declarations : List Declaration} {name : String}
    (member : name ∈ openNames route store declarations) : store.mentions name = false := by
  rw [openNames, List.mem_eraseDups, List.mem_filter] at member
  simpa using member.2

theorem decider?_cons_of_ne {name : String} (other : declaration.name ≠ name) :
    decider? route (declaration :: rest) name = decider? route rest name :=
  List.find?_cons_of_neg (by simp [other])

theorem decider?_cons_self (decides : declaration.decides route = true) :
    decider? route (declaration :: rest) declaration.name = some declaration :=
  List.find?_cons_of_pos (by simp [decides])

theorem decider?_cons_of_not_decides (name : String) (silent : declaration.decides route = false) :
    decider? route (declaration :: rest) name = decider? route rest name :=
  List.find?_cons_of_neg (by simp [silent])

variable {α : Type} {reading : Declaration → Option α}

theorem settled_cons_of_not_decides (silent : declaration.decides route = false) :
    settled route reading store (declaration :: rest) = settled route reading store rest := by
  have names : openNames route store (declaration :: rest) = openNames route store rest := by
    rw [openNames, List.filter_cons_of_neg (by simp [silent])]
    rfl
  rw [settled, names]
  apply List.filterMap_congr
  intro name _
  rw [decider?_cons_of_not_decides name silent]

theorem settled_cons_of_mentions (mentioned : store.mentions declaration.name = true) :
    settled route reading store (declaration :: rest) = settled route reading store rest := by
  have names : openNames route store (declaration :: rest) = openNames route store rest := by
    by_cases decides : declaration.decides route = true
    · rw [openNames, List.filter_cons_of_pos decides, List.map_cons,
        List.filter_cons_of_neg (by simp [mentioned])]
      rfl
    · rw [openNames, List.filter_cons_of_neg decides]
      rfl
  rw [settled, names]
  apply List.filterMap_congr
  intro name member
  have other : declaration.name ≠ name := by
    rintro rfl
    rw [not_mentions_of_mem_openNames member] at mentioned
    cases mentioned
  rw [decider?_cons_of_ne other]

theorem settled_cons_of_decides (decides : declaration.decides route = true)
    (unmentioned : store.mentions declaration.name = false)
    (mentions : ∀ other, next.mentions other = (store.mentions other || declaration.name == other)) :
    settled route reading store (declaration :: rest) =
      (reading declaration).toList ++ settled route reading next rest := by
  have names : openNames route store (declaration :: rest) =
      declaration.name :: openNames route next rest := by
    rw [openNames, List.filter_cons_of_pos decides, List.map_cons,
      List.filter_cons_of_pos (by simp [unmentioned]), List.eraseDups_cons, List.filter_filter]
    simp only [openNames, mentions, Bool.not_or, Bool.and_comm, Bool.beq_comm]
  have others : ∀ name ∈ openNames route next rest,
      (decider? route (declaration :: rest) name).bind reading =
        (decider? route rest name).bind reading := by
    intro name member
    have unmentioned := not_mentions_of_mem_openNames member
    rw [mentions, Bool.or_eq_false_iff, beq_eq_false_iff_ne] at unmentioned
    rw [decider?_cons_of_ne unmentioned.2]
  rw [settled, names, List.filterMap_cons, decider?_cons_self decides,
    List.filterMap_congr others, Option.bind_some]
  cases reading declaration <;> rfl

/-! ## Runs that return -/

theorem decides_of_not_isPast (inside : declaration.isPast route = false) :
    declaration.decides route = true := by
  rw [decides, inside, Bool.and_false]
  rfl

theorem readings_of_unsupplied
    (unsupplied : declaration.kind = .dynamic ∧ declaration.isPast route = true ∨
      declaration.isBlocked route = true) :
    declaration.decides route = true ∧ declaration.binding? route = none ∧
      declaration.record? route = some ⟨declaration.name, declaration.kind.recorded⟩ := by
  rcases unsupplied with ⟨dynamic, past⟩ | blocked
  · simp [decides, binding?, record?, dynamic, past]
  · have inside := not_isPast_of_isBlocked blocked
    exact ⟨decides_of_not_isPast inside, by simp [binding?, blocked], by simp [record?, blocked]⟩

theorem readings_of_free (inside : declaration.isPast route = false)
    (free : declaration.isBlocked route = false) :
    declaration.decides route = true ∧
      declaration.binding? route = some (declaration.name, declaration.value route) ∧
      declaration.record? route = none :=
  ⟨decides_of_not_isPast inside, by simp [binding?, inside, free], by simp [record?, inside, free]⟩

end Declaration

open Declaration in
theorem Store.follow_returns {options : Options} (skips : options.recordedAreKnown = true)
    (route : Route) (declarations : List Declaration) (store : Store)
    (returns : (store.follow options route declarations).exhaustion? = none) :
    (store.follow options route declarations).store.params =
        store.params ++ settled route (binding? route) store declarations ∧
      (store.follow options route declarations).store.fallbacks =
        store.fallbacks ++ settled route (record? route) store declarations := by
  induction declarations generalizing store with
  | nil => exact ⟨(List.append_nil _).symm, (List.append_nil _).symm⟩
  | cons declaration rest ih =>
    obtain ⟨next, met, same, returns⟩ := follow_cons_returns returns
    obtain ⟨params, fallbacks⟩ := ih next returns
    rw [same, params, fallbacks]
    cases declares_of_ok met with
    | known known =>
      rw [knows_eq_mentions skips] at known
      rw [settled_cons_of_mentions known, settled_cons_of_mentions known]
      exact ⟨rfl, rfl⟩
    | left unknown optional past =>
      have silent : declaration.decides route = false := by simp [decides, optional, past]
      rw [settled_cons_of_not_decides silent, settled_cons_of_not_decides silent]
      exact ⟨rfl, rfl⟩
    | recorded unknown unsupplied =>
      obtain ⟨decides, unbound, recorded⟩ := readings_of_unsupplied unsupplied
      have mentions := mentions_record store declaration.name declaration.kind.recorded
      rw [knows_eq_mentions skips] at unknown
      rw [settled_cons_of_decides decides unknown mentions,
        settled_cons_of_decides decides unknown mentions, unbound, recorded]
      exact ⟨rfl, List.append_assoc _ _ _⟩
    | bound unknown inside free =>
      obtain ⟨decides, bound, unrecorded⟩ := readings_of_free inside free
      have mentions := mentions_bind store declaration.name (declaration.value route)
      rw [params_bind (has_of_not_knows unknown)]
      rw [knows_eq_mentions skips] at unknown
      rw [settled_cons_of_decides decides unknown mentions,
        settled_cons_of_decides decides unknown mentions, bound, unrecorded]
      exact ⟨List.append_assoc _ _ _, rfl⟩

namespace Resolution

open Declaration in
/-- The closed form of a resolution that returns, when recorded names count as known. For every name
that the store does not mention, in the order of the deciding declarations, the params gain the binding
and the fallbacks gain the record that the deciding declaration calls for. -/
theorem closed_form {options : Options} (skips : options.recordedAreKnown = true) (route : Route)
    {raw : Raw} {tree : LayoutTree} (read : LayoutTree.ofRaw raw = .ok tree) (store : Store)
    (returns : (ofRaw options route raw store).failure? = none) :
    (ofRaw options route raw store).store.params =
        store.params ++ settled route (binding? route) store tree.declarations ∧
      (ofRaw options route raw store).store.fallbacks =
        store.fallbacks ++ settled route (record? route) store tree.declarations := by
  rw [failure_ofRaw read, Option.map_eq_none_iff] at returns
  rw [store_ofRaw read]
  exact Store.follow_returns skips route tree.declarations store returns

/-- The optional catch-all of the first slot stands past the end and leaves its name to the second
slot; the placeholder is in the way of the third slot, whose inner name is recorded by then. -/
theorem closed_form_of_repeated_names :
    let route : Route := .plain "/docs/[page]" true
      [⟨"docs", none, .literal⟩, ⟨"[page]", none, .placeholder .dynamic "page"⟩]
    let tree : LayoutTree := .node ""
      [("left", .node "(shop)"
        [("children", .node "docs" [("children", .node "all" [("children", .node "[[...x]]" [])])])]),
       ("right", .node "[x]" [("children", .node "[x]" [("children", .node "[y]" [])])]),
       ("children", .node "[...z]" [("modal", .node "[...y]" [])])]
    let store : Store := ⟨[("lang", .one "en")], []⟩
    LayoutTree.ofRaw (.tree tree) = .ok tree ∧
      (ofRaw {} route (.tree tree) store).failure? = none ∧
      (ofRaw {} route (.tree tree) store).store.params =
        [("lang", .one "en"), ("x", .one "docs")] ∧
      (ofRaw {} route (.tree tree) store).store.fallbacks =
        [⟨"y", .dynamic⟩, ⟨"z", .catchAll⟩] := by
  intro route tree store
  have returns : (ofRaw {} route (.tree tree) store).failure? = none := by decide +kernel
  obtain ⟨params, fallbacks⟩ := closed_form rfl route rfl store returns
  exact ⟨rfl, returns, params.trans (by decide +kernel), fallbacks.trans (by decide +kernel)⟩

end Resolution
end RouteParams
