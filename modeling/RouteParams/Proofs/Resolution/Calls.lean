import RouteParams.Proofs.Resolution.Growth
import RouteParams.Proofs.Resolution.Recursion
import RouteParams.Proofs.Route.Spelling

/-!
Calls one after another on the same store, each with a tree and a route of its own, for which recorded
names count as known. A call adds at both ends of the store, whether it fails or not; what it binds it
takes from its own path; and a store in which no name has two entries stays so.
-/
namespace RouteParams

namespace BoundValue

def texts : BoundValue → List String
  | .one text => [text]
  | .many texts => texts

/-- The value is taken from positions of the path that hold no placeholder: the text at one of them, or
the texts from one of them to the end. -/
inductive TakenFrom (route : Route) : BoundValue → Prop
  | position (index : Nat) (text : String) (here : route.pathTexts[index]? = some text)
      (free : route.isPlaceholder index = false) : TakenFrom route (.one text)
  | rest (start : Nat) (inside : start < route.length)
      (free : ∀ index : Nat, start ≤ index → route.isPlaceholder index = false) :
      TakenFrom route (.many (route.pathTexts.drop start))

theorem TakenFrom.texts_free {route : Route} {value : BoundValue} (taken : value.TakenFrom route) :
    ∀ text ∈ value.texts, ∃ index : Nat,
      route.pathTexts[index]? = some text ∧ route.isPlaceholder index = false := by
  intro text member
  cases taken with
  | position index other here free =>
    obtain rfl := List.mem_singleton.1 member
    exact ⟨index, here, free⟩
  | rest start inside free =>
    obtain ⟨offset, here⟩ := List.mem_iff_getElem?.1 member
    rw [texts, List.getElem?_drop] at here
    exact ⟨start + offset, here, free _ (Nat.le_add_right start offset)⟩

end BoundValue

theorem Declaration.value_takenFrom {route : Route} {declaration : Declaration}
    (inside : declaration.isPast route = false) (free : declaration.isBlocked route = false) :
    (declaration.value route).TakenFrom route := by
  obtain ⟨kind, name, position⟩ := declaration
  have bound : position < route.length := by simpa [isPast] using inside
  have rest : ∀ index : Nat, (⟨kind, name, position⟩ : Declaration).range route =
      List.range' position (route.length - position) → position ≤ index →
      route.isPlaceholder index = false := by
    intro index range above
    by_cases within : index < route.length
    · rw [isBlocked, range, List.any_eq_false] at free
      simpa using free index (List.mem_range'_1.2 ⟨above, by omega⟩)
    · rw [Route.isPlaceholder_natCast,
        List.getElem?_eq_none (by rw [Route.length_path]; omega)]
      rfl
  cases kind with
  | dynamic =>
    refine .position position _ ?_ (by simpa [isBlocked, range] using free)
    rw [List.getD_eq_getElem?_getD, List.getElem?_eq_getElem bound, Option.getD_some]
  | catchAll => exact .rest position bound fun index => rest index rfl
  | optionalCatchAll => exact .rest position bound fun index => rest index rfl

namespace Store

/-- No recorded name is bound, and none is recorded twice. -/
structure IsConsistent (store : Store) : Prop where
  apart : ∀ fallback ∈ store.fallbacks, store.params.has fallback.name = false
  once : (store.fallbacks.map Fallback.name).Nodup

variable {options : Options} {route : Route} {store next : Store} {declaration : Declaration}

theorem name_ne_of_not_records {name : String} (unrecorded : store.records name = false) :
    ∀ fallback ∈ store.fallbacks, fallback.name ≠ name := by
  intro fallback member
  simpa using List.any_eq_false.1 unrecorded fallback member

theorem IsConsistent.of_declares (consistent : store.IsConsistent)
    (skips : options.recordedAreKnown = true)
    (declares : Declares options route store declaration next) : next.IsConsistent := by
  cases declares with
  | known _ => exact consistent
  | left _ _ _ => exact consistent
  | recorded unknown _ =>
    rw [knows_eq_mentions skips] at unknown
    obtain ⟨unbound, unrecorded⟩ := Bool.or_eq_false_iff.1 unknown
    constructor
    · intro fallback member
      rcases List.mem_append.1 member with earlier | last
      · exact consistent.apart fallback earlier
      · obtain rfl := List.mem_singleton.1 last
        exact unbound
    · rw [record, List.map_append, List.nodup_append]
      refine ⟨consistent.once, List.pairwise_singleton _ _, ?_⟩
      intro name among last lastOnly
      obtain ⟨fallback, member, rfl⟩ := List.mem_map.1 among
      obtain rfl := List.mem_singleton.1 lastOnly
      exact name_ne_of_not_records unrecorded fallback member
  | bound unknown _ _ =>
    rw [knows_eq_mentions skips] at unknown
    refine ⟨?_, consistent.once⟩
    intro fallback member
    have other := name_ne_of_not_records (Bool.or_eq_false_iff.1 unknown).2 fallback member
    rw [has_bind, consistent.apart fallback member, beq_false_of_ne other.symm, Bool.or_false]

end Store

/-- A call of the resolution for which recorded names count as known. -/
structure Call where
  options : Options
  skips : options.recordedAreKnown = true
  route : Route
  raw : Raw

namespace Call

def resolution (call : Call) (store : Store) : Resolution :=
  .ofRaw call.options call.route call.raw store

/-- What a call makes of the store that it starts from. -/
structure Keeps (call : Call) (before : Store) : Prop where
  params : ∃ bound, (call.resolution before).store.params = before.params ++ bound ∧
    ∀ entry ∈ bound, entry.2.TakenFrom call.route ∧
      (call.route.IsRead → ∀ text ∈ entry.2.texts, (SegmentForm.ofText text).isParam = false)
  fallbacks : before.fallbacks <+: (call.resolution before).store.fallbacks
  consistent : (call.resolution before).store.IsConsistent
  complete : (call.resolution before).failure? = none →
    ∃ tree, LayoutTree.ofRaw call.raw = .ok tree ∧
      ∀ name ∈ tree.declarations.map Declaration.name,
        (call.resolution before).store.mentions name = true ∨
          ∀ declaration ∈ tree.declarations, declaration.name = name →
            declaration.kind = .optionalCatchAll ∧ call.route.length ≤ declaration.position

variable {call : Call} {store : Store} {tree : LayoutTree}

theorem keeps_of_unread {error : TreeError} (unread : LayoutTree.ofRaw call.raw = .error error)
    (consistent : store.IsConsistent) : call.Keeps store := by
  have stopped : call.resolution store = ⟨.start store, some (.tree error)⟩ :=
    Resolution.ofRaw_of_error unread store
  constructor <;> rw [stopped]
  · exact ⟨[], (List.append_nil _).symm, fun _ member => absurd member List.not_mem_nil⟩
  · exact List.prefix_rfl
  · exact consistent
  · intro returns
    cases returns

theorem keeps_of_read (read : LayoutTree.ofRaw call.raw = .ok tree)
    (consistent : store.IsConsistent) : call.Keeps store := by
  obtain ⟨bound, params, values⟩ :=
    Store.params_follow call.options call.route tree.declarations store
  obtain ⟨recorded, fallbacks, _⟩ :=
    Store.fallbacks_follow call.options call.route tree.declarations store
  refine ⟨⟨bound, ?_, ?_⟩, ⟨recorded, ?_⟩, ?_, ?_⟩
  · rw [resolution, Resolution.store_ofRaw read, params]
  · intro entry member
    obtain ⟨declaration, _, inside, free, rfl⟩ := values entry member
    have taken := Declaration.value_takenFrom inside free
    refine ⟨taken, ?_⟩
    intro isRead text among
    obtain ⟨index, here, free⟩ := taken.texts_free text among
    exact Route.isParam_of_not_isPlaceholder isRead here free
  · rw [resolution, Resolution.store_ofRaw read, fallbacks]
  · rw [resolution, Resolution.store_ofRaw read]
    exact Store.follow_preserves Store.IsConsistent tree.declarations
      (fun _ _ _ _ declares reached => reached.of_declares call.skips declares) store consistent
  · rw [resolution, Resolution.failure_ofRaw read, Resolution.store_ofRaw read,
      Option.map_eq_none_iff]
    intro returns
    refine ⟨tree, read, ?_⟩
    intro name _
    by_cases mentioned :
        (store.follow call.options call.route tree.declarations).store.mentions name = true
    · exact .inl mentioned
    · right
      rintro declaration member rfl
      have past := Store.past_of_not_mentions tree.declarations store returns declaration member
        (Bool.eq_false_iff.2 mentioned)
      exact ⟨past.1, Declaration.isPast_iff.1 past.2⟩

theorem keeps_of_isConsistent (call : Call) (consistent : store.IsConsistent) :
    call.Keeps store := by
  cases read : LayoutTree.ofRaw call.raw with
  | error error => exact keeps_of_unread read consistent
  | ok tree => exact keeps_of_read read consistent

end Call

namespace Store

/-- The store that calls leave, each of which starts from what the one before it left. -/
def afterCalls (store : Store) (calls : List Call) : Store :=
  calls.foldl (fun store call => (call.resolution store).store) store

theorem IsConsistent.afterCalls {store : Store} (consistent : store.IsConsistent)
    (calls : List Call) : (store.afterCalls calls).IsConsistent := by
  induction calls generalizing store with
  | nil => exact consistent
  | cons call rest ih => exact ih (call.keeps_of_isConsistent consistent).consistent

end Store

namespace Call

/-- Every call of a sequence that starts from a consistent store keeps what the calls before it left. It
adds to the ends of the params and of the fallbacks, binds only what its path supplies, and leaves the
store consistent. When it returns, the names that its tree declares are bound or recorded, save those
that only optional catch-alls at or past the end of the path declare. -/
theorem keeps_throughout {start : Store} (consistent : start.IsConsistent) (earlier : List Call)
    (call : Call) : call.Keeps (start.afterCalls earlier) :=
  call.keeps_of_isConsistent (consistent.afterCalls earlier)

/-- The first call is stopped at `rest` when it has bound `page`, and the second has no tree to go
through; the third finds `page` bound and leaves `more` open. -/
theorem keeps_after_stopped_calls :
    let start : Store := ⟨[("lang", .one "en")], [⟨"tab", .dynamic⟩]⟩
    let docs : Route := .plain "/docs/intro" true
      [⟨"docs", none, .literal⟩, ⟨"intro", none, .literal⟩]
    let shop : Route := .plain "/shop/[item]" true
      [⟨"shop", none, .literal⟩, ⟨"[item]", none, .placeholder .dynamic "item"⟩]
    let stopped : Call := ⟨{}, rfl, docs, .tree (.node "docs"
      [("children", .node "[page]" [("modal", .node "[...rest]" [])])])⟩
    let unread : Call := ⟨{}, rfl, docs, .null⟩
    let call : Call := ⟨{}, rfl, shop, .tree (.node "(store)"
      [("side", .node "shop" [("children", .node "[item]" [("children", .node "[[...more]]" [])])]),
        ("modal", .node "[page]" []), ("children", .node "[area]" [])])⟩
    start.IsConsistent ∧ call.route.IsRead ∧ call.Keeps (start.afterCalls [stopped, unread]) ∧
      (call.resolution (start.afterCalls [stopped, unread])).store =
        ⟨[("lang", .one "en"), ("page", .one "intro"), ("area", .one "shop")],
          [⟨"tab", .dynamic⟩, ⟨"item", .dynamic⟩]⟩ := by
  intro start docs shop stopped unread call
  have consistent : start.IsConsistent := ⟨by decide, by decide⟩
  exact ⟨consistent, ⟨true, "/shop/[item]", by decide +kernel⟩,
    keeps_throughout consistent [stopped, unread] call, by decide +kernel⟩

end Call
end RouteParams
