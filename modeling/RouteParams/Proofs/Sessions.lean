import RouteParams.Proofs.Fallback.KeyTables
import RouteParams.Proofs.Resolution.Calls
import RouteParams.Session

/-!
Sessions as sequences of calls. A request of a session asks for keys, resolves a tree or does neither, so the keys of
a session are those of its calls for keys, and the store that it leaves is that of its resolutions as long as it is
not edited between them. What is known of calls one after another is known of sessions thereby.
-/
namespace RouteParams.Session

variable {session : Session} {request : Request}

/-- The session that requests leave one after the other. -/
def after (session : Session) (requests : List Request) : Session :=
  ((session.run requests).map Prod.snd).getLastD session

theorem after_cons (session : Session) (request : Request) (later : List Request) :
    session.after (request :: later) = (session.handle request).2.after later := by
  rw [after, run, List.map_cons, List.getLastD_cons, after]

/-! ## Keys -/

def Reply.tables : Reply → List (NameTable SearchKey)
  | .keys (some table) => [table]
  | _ => []

def keyCall? (session : Session) : Request → Option KeyCall
  | .searchKeys => some (.ofFallbacks session.store.fallbacks)
  | .page pathname tree => some (.ofPage session.options pathname tree)
  | _ => none

/-- The calls for keys that requests make one after the other. -/
def keyCalls (session : Session) : List Request → List KeyCall
  | [] => []
  | request :: later => (session.keyCall? request).toList ++ (session.handle request).2.keyCalls later

/-- A request that asks for keys gives those of its call, and changes nothing but the supply of ids. -/
theorem handle_of_keyCall? {call : KeyCall} (asks : session.keyCall? request = some call) :
    (session.handle request).1.tables = KeyCall.returned (call.answer session.supply).1 ∧
      (session.handle request).2 = { session with supply := (call.answer session.supply).2 } := by
  cases request with
  | searchKeys =>
    cases asks
    rw [handle, KeyCall.answer]
    cases SearchKey.assign session.store.fallbacks session.supply with
    | mk keys? supply => cases keys? <;> exact ⟨rfl, rfl⟩
  | page pathname tree =>
    cases asks
    rw [handle, KeyCall.answer]
    cases Page.searchKeys session.options pathname tree session.supply with
    | mk answer supply =>
      cases answer with
      | error failure => exact ⟨rfl, rfl⟩
      | ok keys? => cases keys? <;> exact ⟨rfl, rfl⟩
  | _ => cases asks

/-- Any other request gives no keys and leaves the supply of ids. -/
theorem handle_of_keyCall?_eq_none (asks : session.keyCall? request = none) :
    (session.handle request).1.tables = [] ∧ (session.handle request).2.supply = session.supply := by
  cases request with
  | searchKeys => cases asks
  | page pathname tree => cases asks
  | route normalized pathname =>
    rw [handle]
    cases Route.read normalized pathname <;> exact ⟨rfl, rfl⟩
  | seed name kind =>
    rw [handle]
    cases ParamKind.read kind <;> exact ⟨rfl, rfl⟩
  | resolve tree =>
    rw [handle]
    cases session.route? with
    | none => exact ⟨rfl, rfl⟩
    | some route =>
      dsimp only
      cases (Resolution.ofRaw session.options route tree session.store).failure? <;> exact ⟨rfl, rfl⟩
  | _ => exact ⟨rfl, rfl⟩

/-- The keys that a session gives, and the supply that it leaves, are those of its calls for keys. -/
theorem keys_run (requests : List Request) (session : Session) :
    ((session.run requests).flatMap fun answer => answer.1.tables, (session.after requests).supply) =
      KeyCall.run (session.keyCalls requests) session.supply := by
  induction requests generalizing session with
  | nil => rfl
  | cons request later ih =>
    have rest := ih (session.handle request).2
    rw [run, keyCalls, after_cons, List.flatMap_cons]
    cases asks : session.keyCall? request with
    | none =>
      obtain ⟨tables, supply⟩ := handle_of_keyCall?_eq_none asks
      rw [supply] at rest
      rw [tables, Option.toList_none, List.nil_append, List.nil_append]
      exact rest
    | some call =>
      obtain ⟨tables, left⟩ := handle_of_keyCall? asks
      rw [Option.toList_some, List.singleton_append, KeyCall.run]
      have supply : (session.handle request).2.supply = (call.answer session.supply).2 := by rw [left]
      rw [supply] at rest
      dsimp only
      rw [← rest, tables]

/-- No key comes twice in a session while the ids that it draws are hexadecimal and different. -/
theorem nodup_texts_run (requests : List Request) (session : Session)
    (hex : ∀ id ∈ session.supply.between (session.after requests).supply, IsId id)
    (distinct : (session.supply.between (session.after requests).supply).Nodup) :
    (((session.run requests).flatMap fun answer => answer.1.tables).flatMap SearchKey.texts).Nodup := by
  have keys := keys_run requests session
  have tables := congrArg Prod.fst keys
  have supply := congrArg Prod.snd keys
  dsimp only at tables supply
  rw [supply] at hex distinct
  rw [tables]
  exact KeyCall.nodup_texts (KeyCall.tables_run _ _).2 hex distinct

/-! ## The store -/

/-- The request edits nothing in the store, and recorded names count as known after it. -/
def Request.LeavesStore : Request → Prop
  | .bind _ _ => False
  | .unbind _ => False
  | .seed _ _ => False
  | .clearFallbacks => False
  | .configure options => options.recordedAreKnown = true
  | _ => True

/-- The resolution that a request calls for. -/
def call? (session : Session) : Request → Option Call
  | .resolve raw =>
    session.route?.bind fun route =>
      if skips : session.options.recordedAreKnown = true then some ⟨session.options, skips, route, raw⟩ else none
  | _ => none

/-- The resolutions that requests call for one after the other. -/
def calls (session : Session) : List Request → List Call
  | [] => []
  | request :: later => (session.call? request).toList ++ (session.handle request).2.calls later

theorem handle_of_leavesStore (leaves : request.LeavesStore)
    (skips : session.options.recordedAreKnown = true) :
    (session.handle request).2.store = session.store.afterCalls (session.call? request).toList ∧
      (session.handle request).2.options.recordedAreKnown = true := by
  cases request with
  | route normalized pathname =>
    rw [handle]
    cases Route.read normalized pathname <;> exact ⟨rfl, skips⟩
  | configure options => exact ⟨rfl, leaves⟩
  | resolve raw =>
    rw [handle, call?]
    cases session.route? with
    | none => exact ⟨rfl, skips⟩
    | some route =>
      rw [Option.bind_some, dif_pos skips]
      exact ⟨rfl, skips⟩
  | page pathname raw =>
    have asks : session.keyCall? (.page pathname raw) = some (.ofPage session.options pathname raw) := rfl
    have left := (handle_of_keyCall? asks).2
    rw [left]
    exact ⟨rfl, skips⟩
  | searchKeys => exact ⟨rfl, skips⟩
  | placeholder index => exact ⟨rfl, skips⟩
  | _ => exact leaves.elim

/-- The store that a session leaves is that of its resolutions, and recorded names still count as known. -/
theorem store_after (requests : List Request) (session : Session)
    (leaves : ∀ request ∈ requests, request.LeavesStore) (skips : session.options.recordedAreKnown = true) :
    (session.after requests).store = session.store.afterCalls (session.calls requests) := by
  induction requests generalizing session with
  | nil => rfl
  | cons request later ih =>
    obtain ⟨first, others⟩ := List.forall_mem_cons.1 leaves
    obtain ⟨store, known⟩ := handle_of_leavesStore first skips
    rw [after_cons, ih _ others known, store, calls, Store.afterCalls, Store.afterCalls, Store.afterCalls,
      List.foldl_append]

/-- A session whose store no request edits keeps the names that are bound and those that are recorded apart. -/
theorem consistent_after (requests : List Request) (session : Session) (consistent : session.store.IsConsistent)
    (leaves : ∀ request ∈ requests, request.LeavesStore) (skips : session.options.recordedAreKnown = true) :
    (session.after requests).store.IsConsistent := by
  rw [store_after requests session leaves skips]
  exact consistent.afterCalls _

/-! ## Requests that fail -/

/-- A resolution that fails leaves what it had done before it was stopped, if it came to run at all. -/
theorem handle_resolve_of_failed {raw : Raw} {failure : Failure}
    (fails : (session.handle (.resolve raw)).1 = .failed failure) :
    (session.handle (.resolve raw)).2 = session ∨
      ∃ route exhaustion, session.route? = some route ∧ failure = .exhausted exhaustion ∧
        (session.handle (.resolve raw)).2 =
          { session with store := (Resolution.ofRaw session.options route raw session.store).store } := by
  rw [handle] at fails ⊢
  cases routed : session.route? with
  | none =>
    rw [routed] at fails
    cases fails
  | some route =>
    rw [routed] at fails
    dsimp only at fails ⊢
    cases read : LayoutTree.ofRaw raw with
    | error error =>
      rw [Resolution.ofRaw_of_error read, ← routed]
      exact .inl rfl
    | ok tree =>
      rw [Resolution.failure_ofRaw read] at fails
      cases stopped : (session.store.follow session.options route tree.declarations).exhaustion? with
      | none =>
        rw [stopped] at fails
        cases fails
      | some exhaustion =>
        rw [stopped] at fails
        exact .inr ⟨route, exhaustion, rfl, (Reply.failed.inj fails).symm, rfl⟩

/-- A request that fails changes nothing, save that a resolution that is stopped leaves in the store what it had
done before. -/
theorem handle_of_failed {failure : Failure} (fails : (session.handle request).1 = .failed failure) :
    (session.handle request).2 = session ∨
      ∃ raw route exhaustion, request = .resolve raw ∧ session.route? = some route ∧
        failure = .exhausted exhaustion ∧ (session.handle request).2 =
          { session with store := (Resolution.ofRaw session.options route raw session.store).store } := by
  cases request with
  | route normalized pathname =>
    rw [handle] at fails ⊢
    cases read : Route.read normalized pathname with
    | error error => exact .inl rfl
    | ok route =>
      rw [read] at fails
      cases fails
  | seed name kind =>
    rw [handle] at fails
    cases read : ParamKind.read kind <;> rw [read] at fails <;> cases fails
  | resolve raw =>
    rcases handle_resolve_of_failed fails with same | ⟨route, exhaustion, routed, stopped, left⟩
    · exact .inl same
    · exact .inr ⟨raw, route, exhaustion, rfl, routed, stopped, left⟩
  | page pathname raw =>
    have asks : session.keyCall? (.page pathname raw) = some (.ofPage session.options pathname raw) := rfl
    have left := (handle_of_keyCall? asks).2
    rcases KeyCall.answer_eq (.ofPage session.options pathname raw) session.supply with ⟨error, same⟩ | ⟨keys, same⟩
    · rw [left, same]
      exact .inl rfl
    · rw [KeyCall.answer] at same
      rw [handle, same] at fails
      cases fails
  | searchKeys => cases fails
  | _ => cases fails

end RouteParams.Session
