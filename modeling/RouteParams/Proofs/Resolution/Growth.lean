import RouteParams.Proofs.Resolution.Ending
import RouteParams.Proofs.Resolution.Knowledge

/-!
What a run adds to a store and what it leaves out. Params and fallbacks are added at the end, each for a
declaration that was met; a name that the store mentions stays mentioned; and when a run returns, a
declaration whose name is not mentioned then is an optional catch-all at or past the end of the path.
-/
namespace RouteParams.Store

variable {options : Options} {route : Route} {store next : Store} {declaration : Declaration}

theorem mentions_of_knows {name : String} (known : store.knows options name = true) :
    store.mentions name = true := by
  rw [knows, Bool.or_eq_true, Bool.and_eq_true] at known
  rw [mentions, Bool.or_eq_true]
  rcases known with bound | ⟨_, recorded⟩
  · exact .inl bound
  · exact .inr recorded

theorem mentions_of_declares (declares : Declares options route store declaration next)
    {name : String} (mentioned : store.mentions name = true) : next.mentions name = true := by
  cases declares with
  | known _ => exact mentioned
  | left _ _ _ => exact mentioned
  | recorded _ _ => rw [mentions_record, mentioned, Bool.true_or]
  | bound _ _ _ => rw [mentions_bind, mentioned, Bool.true_or]

theorem mentions_or_past_of_declares (declares : Declares options route store declaration next) :
    next.mentions declaration.name = true ∨
      declaration.kind = .optionalCatchAll ∧ declaration.isPast route = true := by
  cases declares with
  | known known => exact .inl (mentions_of_knows known)
  | left _ optional past => exact .inr ⟨optional, past⟩
  | recorded _ _ => exact .inl (by rw [mentions_record, beq_self_eq_true, Bool.or_true])
  | bound _ _ _ => exact .inl (by rw [mentions_bind, beq_self_eq_true, Bool.or_true])

theorem fallbacks_of_declares (declares : Declares options route store declaration next) :
    next.fallbacks = store.fallbacks ∨
      next.fallbacks = store.fallbacks ++ [⟨declaration.name, declaration.kind.recorded⟩] := by
  cases declares with
  | known _ => exact .inl rfl
  | left _ _ _ => exact .inl rfl
  | recorded _ _ => exact .inr rfl
  | bound _ _ _ => exact .inl rfl

theorem params_of_declares (declares : Declares options route store declaration next) :
    next.params = store.params ∨
      declaration.isPast route = false ∧ declaration.isBlocked route = false ∧
        next.params = store.params ++ [(declaration.name, declaration.value route)] := by
  cases declares with
  | known _ => exact .inl rfl
  | left _ _ _ => exact .inl rfl
  | recorded _ _ => exact .inl rfl
  | bound unknown inside free => exact .inr ⟨inside, free, params_bind (has_of_not_knows unknown) _⟩

/-! ## Runs -/

/-- What every declaration keeps, a run keeps, also one that is stopped. -/
theorem follow_preserves (holds : Store → Prop) (declarations : List Declaration)
    (kept : ∀ declaration ∈ declarations, ∀ store next,
      Declares options route store declaration next → holds store → holds next)
    (store : Store) (start : holds store) : holds (store.follow options route declarations).store := by
  induction declarations generalizing store with
  | nil => exact start
  | cons declaration rest ih =>
    obtain ⟨first, others⟩ := List.forall_mem_cons.1 kept
    cases met : store.declare options route declaration with
    | error exhaustion =>
      rw [follow_of_error met]
      exact start
    | ok next =>
      rw [follow_of_ok met]
      exact ih others next (first store next (declares_of_ok met) start)

/-- A part of the store to which a declaration adds at most one item at the end is only extended by a
run, and each item that is added has a declaration it comes from. -/
theorem follow_extends {α : Type} (part : Store → List α) (comes : Declaration → α → Prop)
    (grows : ∀ store declaration next, Declares options route store declaration next →
      part next = part store ∨
        ∃ item, comes declaration item ∧ part next = part store ++ [item])
    (declarations : List Declaration) (store : Store) :
    ∃ added, part (store.follow options route declarations).store = part store ++ added ∧
      ∀ item ∈ added, ∃ declaration ∈ declarations, comes declaration item := by
  refine follow_preserves
    (fun reached => ∃ added, part reached = part store ++ added ∧
      ∀ item ∈ added, ∃ declaration ∈ declarations, comes declaration item)
    declarations ?_ store
    ⟨[], (List.append_nil _).symm, fun _ member => absurd member List.not_mem_nil⟩
  rintro declaration among reached next declares ⟨added, whole, origins⟩
  rcases grows reached declaration next declares with same | ⟨item, origin, more⟩
  · exact ⟨added, same.trans whole, origins⟩
  · refine ⟨added ++ [item], ?_, ?_⟩
    · rw [more, whole, List.append_assoc]
    · intro other member
      rcases List.mem_append.1 member with earlier | last
      · exact origins other earlier
      · rw [List.mem_singleton.1 last]
        exact ⟨declaration, among, origin⟩

/-- A run without required catch-alls at or past the end of the path comes to its end. -/
theorem returns_of_safe (declarations : List Declaration)
    (safe : ∀ declaration ∈ declarations,
      declaration.kind ≠ .catchAll ∨ declaration.isPast route = false)
    (store : Store) : (store.follow options route declarations).exhaustion? = none := by
  induction declarations generalizing store with
  | nil => rfl
  | cons declaration rest ih =>
    obtain ⟨first, others⟩ := List.forall_mem_cons.1 safe
    cases met : store.declare options route declaration with
    | error exhaustion =>
      obtain ⟨_, required, past, _⟩ := declare_eq_error_iff.1 met
      rcases first with other | inside
      · exact absurd required other
      · cases inside.symm.trans past
    | ok next =>
      rw [follow_of_ok met]
      exact ih others next

/-- Blocked declarations are recorded or known: a run of them binds nothing and comes to its end. -/
theorem follow_of_blocked (options : Options) (declarations : List Declaration)
    (blocked : ∀ declaration ∈ declarations, declaration.isBlocked route = true) (store : Store) :
    (store.follow options route declarations).exhaustion? = none ∧
      (store.follow options route declarations).store.params = store.params := by
  constructor
  · apply returns_of_safe
    exact fun declaration member =>
      .inr (Declaration.not_isPast_of_isBlocked (blocked declaration member))
  · refine follow_preserves (fun reached => reached.params = store.params) declarations ?_ store rfl
    intro declaration among reached next declares same
    rcases params_of_declares declares with kept | ⟨_, free, _⟩
    · exact kept.trans same
    · cases free.symm.trans (blocked declaration among)

theorem mentions_follow (declarations : List Declaration) (store : Store) {name : String}
    (mentioned : store.mentions name = true) :
    (store.follow options route declarations).store.mentions name = true :=
  follow_preserves (fun reached => reached.mentions name = true) declarations
    (fun _ _ _ _ declares => mentions_of_declares declares) store mentioned

theorem fallbacks_follow (options : Options) (route : Route) (declarations : List Declaration)
    (store : Store) :
    ∃ recorded, (store.follow options route declarations).store.fallbacks =
        store.fallbacks ++ recorded ∧
      ∀ fallback ∈ recorded, ∃ declaration ∈ declarations,
        fallback = ⟨declaration.name, declaration.kind.recorded⟩ := by
  refine follow_extends Store.fallbacks _ ?_ declarations store
  intro store declaration next declares
  rcases fallbacks_of_declares declares with same | added
  · exact .inl same
  · exact .inr ⟨_, rfl, added⟩

theorem params_follow (options : Options) (route : Route) (declarations : List Declaration)
    (store : Store) :
    ∃ bound, (store.follow options route declarations).store.params = store.params ++ bound ∧
      ∀ entry ∈ bound, ∃ declaration ∈ declarations,
        declaration.isPast route = false ∧ declaration.isBlocked route = false ∧
          entry = (declaration.name, declaration.value route) := by
  refine follow_extends Store.params _ ?_ declarations store
  intro store declaration next declares
  rcases params_of_declares declares with same | ⟨inside, free, added⟩
  · exact .inl same
  · exact .inr ⟨_, ⟨inside, free, rfl⟩, added⟩

theorem past_of_not_mentions (declarations : List Declaration) (store : Store)
    (returns : (store.follow options route declarations).exhaustion? = none) :
    ∀ declaration ∈ declarations,
      (store.follow options route declarations).store.mentions declaration.name = false →
        declaration.kind = .optionalCatchAll ∧ declaration.isPast route = true := by
  induction declarations generalizing store with
  | nil => exact fun _ member => absurd member List.not_mem_nil
  | cons first rest ih =>
    obtain ⟨next, met, same, returns⟩ := follow_cons_returns returns
    rw [same, List.forall_mem_cons]
    refine ⟨?_, ih next returns⟩
    intro unmentioned
    rcases mentions_or_past_of_declares (declares_of_ok met) with mentioned | past
    · rw [mentions_follow rest next mentioned] at unmentioned
      cases unmentioned
    · exact past

end RouteParams.Store
