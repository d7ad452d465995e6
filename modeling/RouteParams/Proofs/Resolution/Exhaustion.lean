import RouteParams.Proofs.Resolution.Knowledge
import RouteParams.Proofs.Resolution.Recursion
import RouteParams.Proofs.Tree.Faults
import RouteParams.Proofs.Tree.Pruning

/-!
When a resolution fails, and what it leaves. A run knows a name as soon as it has met a declaration
that makes the name known, so the first node that exhausts the path can be found without running
anything; the run stops there, with the store that the nodes before it produce on their own.
-/
namespace RouteParams

/-- The node at an index is a required catch-all at or past the end of the path whose name is not
known when it is met: neither the store nor a node before it has made the name known. -/
structure Exhausts (options : Options) (route : Route) (store : Store) (places : List Place)
    (index : Nat) (declaration : Declaration) : Prop where
  stands : places[index]?.bind Place.declaration? = some declaration
  required : declaration.kind = .catchAll
  past : route.length ≤ declaration.position
  unbound : store.params.has declaration.name = false
  unrecorded : options.recordedAreKnown = true → store.records declaration.name = false
  undecided : options.recordedAreKnown = true → ∀ earlier ∈ declared (places.take index),
    earlier.name = declaration.name →
      ¬(earlier.kind = .dynamic ∨ earlier.position < route.length)
  unsupplied : options.recordedAreKnown = false → ∀ earlier ∈ declared (places.take index),
    earlier.name = declaration.name →
      ¬(earlier.position < route.length ∧ earlier.isBlocked route = false)

namespace Declaration

/-- Whether the name of a declaration is known after the declaration has been met. -/
def teaches (options : Options) (route : Route) (declaration : Declaration) : Bool :=
  if options.recordedAreKnown then declaration.kind == .dynamic || !declaration.isPast route
  else !declaration.isPast route && !declaration.isBlocked route

variable {options : Options} {route : Route} {declaration : Declaration}

theorem not_teaches_iff_of_skips (skips : options.recordedAreKnown = true) :
    declaration.teaches options route = false ↔
      ¬(declaration.kind = .dynamic ∨ declaration.position < route.length) := by
  simp [teaches, skips, isPast]

theorem not_teaches_iff_of_keeps (keeps : options.recordedAreKnown = false) :
    declaration.teaches options route = false ↔
      ¬(declaration.position < route.length ∧ declaration.isBlocked route = false) := by
  simp [teaches, keeps, isPast]

end Declaration

namespace Store

variable {options : Options} {route : Route} {store next : Store} {declaration : Declaration}

theorem knows_of_declares (declares : Declares options route store declaration next)
    (other : String) :
    next.knows options other = (store.knows options other ||
      (declaration.name == other && declaration.teaches options route)) := by
  cases declares with
  | known known =>
    by_cases same : declaration.name = other
    · rw [← same, known, Bool.true_or]
    · rw [beq_false_of_ne same, Bool.false_and, Bool.or_false]
  | left unknown optional past =>
    have silent : declaration.teaches options route = false := by
      simp [Declaration.teaches, optional, past]
    rw [silent, Bool.and_false, Bool.or_false]
  | recorded unknown unsupplied =>
    have recorded : declaration.teaches options route = options.recordedAreKnown := by
      rcases unsupplied with ⟨dynamic, past⟩ | blocked
      · simp [Declaration.teaches, dynamic, past]
      · have inside := Declaration.not_isPast_of_isBlocked blocked
        simp [Declaration.teaches, inside, blocked]
    rw [knows_record, recorded, Bool.and_comm]
  | bound unknown inside free =>
    have bound : declaration.teaches options route = true := by
      simp [Declaration.teaches, inside, free]
    rw [knows_bind, bound, Bool.and_true]

theorem knows_follow (options : Options) (route : Route) (declarations : List Declaration)
    (store : Store) (returns : (store.follow options route declarations).exhaustion? = none)
    (other : String) :
    (store.follow options route declarations).store.knows options other =
      (store.knows options other || declarations.any fun declaration =>
        declaration.name == other && declaration.teaches options route) := by
  induction declarations generalizing store with
  | nil => exact (Bool.or_false _).symm
  | cons declaration rest ih =>
    obtain ⟨next, met, same, returns⟩ := follow_cons_returns returns
    rw [same, ih next returns, knows_of_declares (declares_of_ok met), List.any_cons,
      Bool.or_assoc]

theorem follow_stopped (places : List Place) (store : Store) {exhaustion : Exhaustion}
    (stopped : (store.follow options route (declared places)).exhaustion? = some exhaustion) :
    ∃ index declaration left, places[index]?.bind Place.declaration? = some declaration ∧
      store.follow options route (declared (places.take index)) = ⟨left, none⟩ ∧
      left.declare options route declaration = .error exhaustion ∧
      (store.follow options route (declared places)).store = left := by
  induction places generalizing store with
  | nil => cases stopped
  | cons place rest ih =>
    cases declares : place.declaration? with
    | none =>
      rw [declared_cons_of_none declares] at stopped ⊢
      obtain ⟨index, declaration, left, stands, returned, fails, same⟩ := ih store stopped
      refine ⟨index + 1, declaration, left, stands, ?_, fails, same⟩
      rw [List.take_succ_cons, declared_cons_of_none declares]
      exact returned
    | some first =>
      rw [declared_cons_of_some declares] at stopped ⊢
      cases met : store.declare options route first with
      | error failure =>
        rw [follow_of_error met] at stopped ⊢
        cases stopped
        exact ⟨0, first, store, declares, rfl, met, rfl⟩
      | ok next =>
        rw [follow_of_ok met] at stopped ⊢
        obtain ⟨index, declaration, left, stands, returned, fails, same⟩ := ih next stopped
        refine ⟨index + 1, declaration, left, stands, ?_, fails, same⟩
        rw [List.take_succ_cons, declared_cons_of_some declares, follow_of_ok met]
        exact returned

theorem follow_reaches (places : List Place) (store : Store)
    (returns : (store.follow options route (declared places)).exhaustion? = none) {index : Nat}
    (stands : places[index]?.bind Place.declaration? = some declaration) :
    ∃ left next, store.follow options route (declared (places.take index)) = ⟨left, none⟩ ∧
      left.declare options route declaration = .ok next := by
  induction places generalizing store index with
  | nil => cases stands
  | cons place rest ih =>
    cases declares : place.declaration? with
    | none =>
      rw [declared_cons_of_none declares] at returns
      cases index with
      | zero => cases declares.symm.trans stands
      | succ index =>
        rw [List.take_succ_cons, declared_cons_of_none declares]
        exact ih store returns stands
    | some first =>
      rw [declared_cons_of_some declares] at returns
      obtain ⟨next, met, same, returns⟩ := follow_cons_returns returns
      cases index with
      | zero =>
        cases declares.symm.trans stands
        exact ⟨store, next, rfl, met⟩
      | succ index =>
        rw [List.take_succ_cons, declared_cons_of_some declares, follow_of_ok met]
        exact ih next returns stands

end Store

variable {options : Options} {route : Route} {store : Store} {places : List Place} {index : Nat}
  {declaration : Declaration}

theorem exhausts_iff :
    Exhausts options route store places index declaration ↔
      places[index]?.bind Place.declaration? = some declaration ∧ declaration.kind = .catchAll ∧
        declaration.isPast route = true ∧ store.knows options declaration.name = false ∧
        ∀ earlier ∈ declared (places.take index), earlier.name = declaration.name →
          earlier.teaches options route = false := by
  -- Each mode leaves the fields that are about the other one without a case.
  cases mode : options.recordedAreKnown with
  | true =>
    simp only [Store.knows_eq_mentions mode, Store.mentions, Bool.or_eq_false_iff,
      Declaration.isPast_iff, Declaration.not_teaches_iff_of_skips mode]
    constructor
    · rintro ⟨stands, required, past, unbound, unrecorded, undecided, _⟩
      exact ⟨stands, required, past, ⟨unbound, unrecorded mode⟩, undecided mode⟩
    · rintro ⟨stands, required, past, ⟨unbound, unrecorded⟩, undecided⟩
      refine ⟨stands, required, past, unbound, fun _ => unrecorded, fun _ => undecided, ?_⟩
      intro keeps
      cases mode.symm.trans keeps
  | false =>
    simp only [Store.knows_eq_has mode, Declaration.isPast_iff,
      Declaration.not_teaches_iff_of_keeps mode]
    constructor
    · rintro ⟨stands, required, past, unbound, _, _, unsupplied⟩
      exact ⟨stands, required, past, unbound, unsupplied mode⟩
    · rintro ⟨stands, required, past, unbound, unsupplied⟩
      refine ⟨stands, required, past, unbound, ?_, ?_, fun _ => unsupplied⟩
      · intro skips
        cases mode.symm.trans skips
      · intro skips
        cases mode.symm.trans skips

theorem declare_eq_error_iff_exhausts {left : Store} {exhaustion : Exhaustion}
    (stands : places[index]?.bind Place.declaration? = some declaration)
    (returned : store.follow options route (declared (places.take index)) = ⟨left, none⟩) :
    left.declare options route declaration = .error exhaustion ↔
      Exhausts options route store places index declaration ∧
        exhaustion = declaration.exhaustion route := by
  have knows := Store.knows_follow options route (declared (places.take index)) store
    (by rw [returned]) declaration.name
  have unknown : left.knows options declaration.name = false ↔
      store.knows options declaration.name = false ∧
        ∀ earlier ∈ declared (places.take index), earlier.name = declaration.name →
          earlier.teaches options route = false := by
    rw [returned] at knows
    rw [knows, Bool.or_eq_false_iff, List.any_eq_false]
    simp
  rw [Store.declare_eq_error_iff, exhausts_iff, unknown]
  constructor
  · rintro ⟨⟨unknown, silent⟩, required, past, same⟩
    exact ⟨⟨stands, required, past, unknown, silent⟩, same⟩
  · rintro ⟨⟨_, required, past, unknown, silent⟩, same⟩
    exact ⟨⟨unknown, silent⟩, required, past, same⟩

theorem not_exhausts_of_returns
    (returns : (store.follow options route (declared places)).exhaustion? = none) :
    ¬Exhausts options route store places index declaration := by
  intro exhausts
  obtain ⟨left, next, returned, met⟩ := Store.follow_reaches places store returns exhausts.stands
  have fails := (declare_eq_error_iff_exhausts exhausts.stands returned).2 ⟨exhausts, rfl⟩
  cases met.symm.trans fails

/-- A run that is stopped is stopped by the first node that exhausts the path, and leaves what the
nodes before this one produce. -/
theorem first_exhausts_of_stopped {exhaustion : Exhaustion}
    (stopped : (store.follow options route (declared places)).exhaustion? = some exhaustion) :
    ∃ index declaration, Exhausts options route store places index declaration ∧
      (∀ earlier < index, ∀ other, ¬Exhausts options route store places earlier other) ∧
      exhaustion = declaration.exhaustion route ∧
      store.follow options route (declared (places.take index)) =
        ⟨(store.follow options route (declared places)).store, none⟩ := by
  obtain ⟨index, declaration, left, stands, returned, fails, same⟩ :=
    Store.follow_stopped places store stopped
  obtain ⟨exhausts, cause⟩ := (declare_eq_error_iff_exhausts stands returned).1 fails
  refine ⟨index, declaration, exhausts, ?_, cause, by rw [returned, same]⟩
  intro earlier before other early
  have kept : (places.take index).take earlier = places.take earlier := by
    rw [List.take_take, Nat.min_eq_left (Nat.le_of_lt before)]
  have among : Exhausts options route store (places.take index) earlier other := by
    obtain ⟨stands, required, past, unknown, silent⟩ := exhausts_iff.1 early
    refine exhausts_iff.2 ⟨?_, required, past, unknown, by rwa [kept]⟩
    rw [List.getElem?_take_of_lt before]
    exact stands
  exact not_exhausts_of_returns (by rw [returned]) among

theorem Resolution.ofRaw_before {tree : LayoutTree} {left : Store}
    (returned : store.follow options route (declared (tree.places.take index)) = ⟨left, none⟩) :
    match tree.before index with
    | none => left = store
    | some pruned =>
      (ofRaw options route (.tree pruned) store).failure? = none ∧
        (ofRaw options route (.tree pruned) store).store = left := by
  cases kept : tree.before index with
  | none =>
    match index, kept with
    | 0, _ => exact (congrArg Ending.store returned).symm
  | some pruned =>
    have read : LayoutTree.ofRaw (.tree pruned) = .ok pruned := rfl
    have declarations : pruned.declarations = declared (tree.places.take index) := by
      rw [LayoutTree.declarations, LayoutTree.places_of_before kept]
    dsimp only
    rw [failure_ofRaw read, store_ofRaw read, declarations, returned]
    exact ⟨rfl, rfl⟩

/-- When a resolution fails, and how it leaves the store. A raw tree that cannot be read fails at once, for
the shape of a node unless an integer in it is too long to be written. Otherwise a resolution fails exactly
if some node exhausts the path; the failure names the first such node, and the store is left as the nodes
before it, taken as a tree of their own, leave it. -/
theorem Resolution.failure_iff_exhausts (options : Options) (route : Route) (limit : DigitLimit) (raw : Raw)
    (store : Store) :
    let resolution := ofReading options route (LayoutTree.readRaw limit raw) store
    (∀ error, LayoutTree.readRaw limit raw = .error error →
      resolution.failure? = some (.tree error) ∧ resolution.store = store ∧
        (error.isInvalid = true ↔ ¬raw.MeetsTooLong limit)) ∧
    ∀ tree, LayoutTree.readRaw limit raw = .ok tree →
      ((∃ exhaustion, resolution.failure? = some (.exhausted exhaustion)) ↔
        ∃ index declaration, Exhausts options route store tree.places index declaration) ∧
      ∀ failure, resolution.failure? = some failure →
        ∃ index declaration, Exhausts options route store tree.places index declaration ∧
          (∀ earlier < index, ∀ other,
            ¬Exhausts options route store tree.places earlier other) ∧
          failure = .exhausted ⟨declaration.name, route.pathname, declaration.position⟩ ∧
          match tree.before index with
          | none => resolution.store = store
          | some pruned =>
            (ofRaw options route (.tree pruned) store).failure? = none ∧
              (ofRaw options route (.tree pruned) store).store = resolution.store := by
  intro resolution
  constructor
  · intro error unread
    refine ⟨?_, ?_, LayoutTree.isInvalid_iff_of_readRaw unread⟩
    · simp only [resolution, unread, ofReading]
    · simp only [resolution, unread, ofReading]
      rfl
  · intro tree read
    simp only [resolution, read, failure_ofReading_ok, store_ofReading_ok]
    cases ended : (store.follow options route tree.declarations).exhaustion? with
    | none =>
      refine ⟨⟨?_, ?_⟩, ?_⟩
      · rintro ⟨_, fails⟩
        cases fails
      · rintro ⟨index, declaration, exhausts⟩
        exact absurd exhausts (not_exhausts_of_returns ended)
      · intro failure fails
        cases fails
    | some exhaustion =>
      obtain ⟨index, declaration, exhausts, first, cause, returned⟩ :=
        first_exhausts_of_stopped ended
      refine ⟨⟨fun _ => ⟨index, declaration, exhausts⟩, fun _ => ⟨exhaustion, rfl⟩⟩, ?_⟩
      intro failure fails
      obtain rfl := Option.some.inj fails
      exact ⟨index, declaration, exhausts, first, congrArg Failure.exhausted cause,
        ofRaw_before returned⟩

/-- A catch-all beneath a parameter that takes the whole path exhausts it, and is reported though the
slot after it could still be resolved. -/
theorem Resolution.failure_beneath_param :
    let route : Route := .plain "/a" true [⟨"a", none, .literal⟩]
    let tree : LayoutTree := .node ""
      [("modal", .node "[x]" [("children", .node "[...y]" [])]), ("children", .node "[z]" [])]
    Exhausts {} route .empty tree.places 2 ⟨.catchAll, "y", 1⟩ ∧
      ∃ exhaustion,
        (ofRaw {} route (.tree tree) .empty).failure? = some (.exhausted exhaustion) := by
  intro route tree
  have exhausts : Exhausts {} route .empty tree.places 2 ⟨.catchAll, "y", 1⟩ :=
    ⟨by decide +kernel, rfl, by decide, rfl, fun _ => rfl, by decide +kernel, by decide⟩
  have fails := (failure_iff_exhausts {} route .standard (.tree tree) .empty).2 tree (LayoutTree.ofRaw_tree tree)
  exact ⟨exhausts, fails.1.2 ⟨2, _, exhausts⟩⟩

end RouteParams
