import RouteParams.Proofs.Resolution.Declaration
import RouteParams.Proofs.Resolution.Knowledge
import RouteParams.Resolution.Run

/-!
Resolution without its journal. One declaration changes a store by the rule for it, unless its name is
known already, and a list of declarations is followed until one of them is exhausted. What happens to
the store at one declaration is said once, by `Declares`, and what a step of a resolution does with it
and with the journal is said once, by `Progress.step_tells`; later statements are read off from them.
-/
namespace RouteParams

/-- How a run ends: the store that it leaves and the exhaustion that stopped it, if one did. -/
structure Ending where
  store : Store
  exhaustion? : Option Exhaustion
  deriving DecidableEq

def Ending.of : Except Stopped Progress → Ending
  | .ok progress => ⟨progress.store, none⟩
  | .error stopped => ⟨stopped.progress.store, some stopped.cause⟩

namespace Declaration

def exhaustion (route : Route) (declaration : Declaration) : Exhaustion :=
  ⟨declaration.name, route.pathname, declaration.position⟩

end Declaration

namespace Store

def declare (options : Options) (route : Route) (store : Store) (declaration : Declaration) :
    Except Exhaustion Store :=
  if store.knows options declaration.name then .ok store
  else match declaration.rule route with
    | .bind value => .ok (store.bind declaration.name value)
    | .record kind => .ok (store.record declaration.name kind)
    | .leave => .ok store
    | .exhausted => .error (declaration.exhaustion route)

def meet (options : Options) (route : Route) (store : Store) (visit : Visit) :
    Except Exhaustion Store :=
  match visit.declaration? with
  | none => .ok store
  | some declaration => store.declare options route declaration

def follow (options : Options) (route : Route) : List Declaration → Store → Ending
  | [], store => ⟨store, none⟩
  | declaration :: rest, store =>
    match store.declare options route declaration with
    | .error exhaustion => ⟨store, some exhaustion⟩
    | .ok next => follow options route rest next

/-- What a declaration that is not exhausted makes of a store. -/
inductive Declares (options : Options) (route : Route) (store : Store) (declaration : Declaration) :
    Store → Prop
  | known (known : store.knows options declaration.name = true) :
      Declares options route store declaration store
  | left (unknown : store.knows options declaration.name = false)
      (optional : declaration.kind = .optionalCatchAll) (past : declaration.isPast route = true) :
      Declares options route store declaration store
  | recorded (unknown : store.knows options declaration.name = false)
      (unsupplied : declaration.kind = .dynamic ∧ declaration.isPast route = true ∨
        declaration.isBlocked route = true) :
      Declares options route store declaration
        (store.record declaration.name declaration.kind.recorded)
  | bound (unknown : store.knows options declaration.name = false)
      (inside : declaration.isPast route = false) (free : declaration.isBlocked route = false) :
      Declares options route store declaration
        (store.bind declaration.name (declaration.value route))

variable {options : Options} {route : Route} {store next : Store} {declaration : Declaration}

theorem declare_of_known (known : store.knows options declaration.name = true) :
    store.declare options route declaration = .ok store :=
  if_pos known

theorem declare_of_unknown (unknown : store.knows options declaration.name = false) :
    store.declare options route declaration =
      match declaration.rule route with
      | .bind value => .ok (store.bind declaration.name value)
      | .record kind => .ok (store.record declaration.name kind)
      | .leave => .ok store
      | .exhausted => .error (declaration.exhaustion route) :=
  if_neg (by simp [unknown])

private theorem declare_cases (options : Options) (route : Route) (store : Store)
    (declaration : Declaration) :
    (∃ next, store.declare options route declaration = .ok next ∧
      Declares options route store declaration next) ∨
    (store.declare options route declaration = .error (declaration.exhaustion route) ∧
      store.knows options declaration.name = false ∧ declaration.kind = .catchAll ∧
      declaration.isPast route = true) := by
  cases known : store.knows options declaration.name with
  | true => exact .inl ⟨store, declare_of_known known, .known known⟩
  | false =>
    rw [declare_of_unknown known, Declaration.rule]
    by_cases past : declaration.isPast route = true
    · rw [if_pos past]
      obtain ⟨kind, name, position⟩ := declaration
      cases kind with
      | dynamic => exact .inl ⟨_, rfl, .recorded known (.inl ⟨rfl, past⟩)⟩
      | catchAll => exact .inr ⟨rfl, rfl, rfl, past⟩
      | optionalCatchAll => exact .inl ⟨_, rfl, .left known rfl past⟩
    · rw [if_neg past]
      by_cases blocked : declaration.isBlocked route = true
      · rw [if_pos blocked]
        exact .inl ⟨_, rfl, .recorded known (.inr blocked)⟩
      · rw [if_neg blocked]
        exact .inl ⟨_, rfl, .bound known (by simpa using past) (by simpa using blocked)⟩

theorem declares_of_ok (ok : store.declare options route declaration = .ok next) :
    Declares options route store declaration next := by
  rcases declare_cases options route store declaration with ⟨_, same, declares⟩ | ⟨fails, _⟩
  · cases same.symm.trans ok
    exact declares
  · cases fails.symm.trans ok

theorem declare_eq_error_iff {exhaustion : Exhaustion} :
    store.declare options route declaration = .error exhaustion ↔
      store.knows options declaration.name = false ∧ declaration.kind = .catchAll ∧
        declaration.isPast route = true ∧ exhaustion = declaration.exhaustion route := by
  constructor
  · intro fails
    rcases declare_cases options route store declaration with ⟨_, ok, _⟩ | ⟨same, rest⟩
    · cases ok.symm.trans fails
    · cases same.symm.trans fails
      exact ⟨rest.1, rest.2.1, rest.2.2, rfl⟩
  · rintro ⟨unknown, kind, past, rfl⟩
    rw [declare_of_unknown unknown, Declaration.rule, if_pos past, kind]

/-! ## Runs -/

theorem follow_of_ok {rest : List Declaration}
    (ok : store.declare options route declaration = .ok next) :
    follow options route (declaration :: rest) store = follow options route rest next := by
  rw [follow, ok]

theorem follow_of_error {rest : List Declaration} {exhaustion : Exhaustion}
    (fails : store.declare options route declaration = .error exhaustion) :
    follow options route (declaration :: rest) store = ⟨store, some exhaustion⟩ := by
  rw [follow, fails]

theorem follow_cons_returns {rest : List Declaration}
    (returns : (follow options route (declaration :: rest) store).exhaustion? = none) :
    ∃ next, store.declare options route declaration = .ok next ∧
      follow options route (declaration :: rest) store = follow options route rest next ∧
      (follow options route rest next).exhaustion? = none := by
  cases met : store.declare options route declaration with
  | error exhaustion =>
    rw [follow_of_error met] at returns
    cases returns
  | ok next =>
    rw [follow_of_ok met] at returns
    exact ⟨next, rfl, follow_of_ok met, returns⟩

end Store

/-! ## Steps of a resolution -/

namespace Event

def depth : Event → Nat
  | .bound _ _ depth => depth
  | .recorded _ _ depth => depth
  | .exhausted _ depth _ => depth

/-- The event tells the one change that makes a store of another. -/
inductive Tells (store : Store) : Event → Store → Prop
  | bound (name : String) (value : BoundValue) (depth : Nat) (fresh : store.params.has name = false) :
      Tells store (.bound name value depth) (store.bind name value)
  | recorded (name : String) (kind : ParamKind) (depth : Nat) :
      Tells store (.recorded name kind depth) (store.record name kind)

end Event

namespace Progress

/-- A step of a resolution leaves all as it is, tells the one change that the visit makes, or tells the exhaustion that
the visit meets. -/
theorem step_tells (options : Options) (route : Route) (progress : Progress) (visit : Visit) :
    (progress.store.meet options route visit = .ok progress.store ∧
      step options route progress visit = .ok progress) ∨
    (∃ event next, progress.store.meet options route visit = .ok next ∧ event.Tells progress.store next ∧
      event.depth = visit.depth ∧
      step options route progress visit = .ok ⟨next, progress.journal ++ [event]⟩) ∨
    (∃ name, progress.store.meet options route visit = .error ⟨name, route.pathname, visit.depth⟩ ∧
      step options route progress visit = .error ⟨⟨name, route.pathname, visit.depth⟩,
        ⟨progress.store, progress.journal ++ [.exhausted name visit.depth route.pathname]⟩⟩) := by
  obtain ⟨form, depth⟩ := visit
  cases form with
  | param kind name =>
    rw [Store.meet, step, Visit.declaration?]
    dsimp only
    rw [Store.declare]
    cases known : progress.store.knows options name with
    | true => exact .inl ⟨rfl, rfl⟩
    | false =>
      rw [if_neg Bool.false_ne_true, if_neg Bool.false_ne_true, settle, ← Route.ruling_eq_rule]
      cases ruling : route.ruling kind depth with
      | bind value => exact .inr (.inl ⟨_, _, rfl, .bound name value depth (Store.has_of_not_knows known), rfl, rfl⟩)
      | record recorded => exact .inr (.inl ⟨_, _, rfl, .recorded name recorded depth, rfl, rfl⟩)
      | leave => exact .inl ⟨rfl, rfl⟩
      | exhausted => exact .inr (.inr ⟨name, rfl, rfl⟩)
  | root => exact .inl ⟨rfl, rfl⟩
  | group name => exact .inl ⟨rfl, rfl⟩
  | interception marker name => exact .inl ⟨rfl, rfl⟩
  | literal text => exact .inl ⟨rfl, rfl⟩

/-- A step of a resolution changes the store as the visit does, and fails where the visit fails. -/
theorem step_cases (options : Options) (route : Route) (progress : Progress)
    (visit : Visit) :
    (∃ next journal, progress.store.meet options route visit = .ok next ∧
      step options route progress visit = .ok ⟨next, journal⟩) ∨
    (∃ exhaustion journal, progress.store.meet options route visit = .error exhaustion ∧
      step options route progress visit = .error ⟨exhaustion, ⟨progress.store, journal⟩⟩) := by
  rcases step_tells options route progress visit with
    ⟨met, goes⟩ | ⟨event, next, met, _, _, goes⟩ | ⟨name, met, fails⟩
  · exact .inl ⟨progress.store, progress.journal, met, goes⟩
  · exact .inl ⟨next, progress.journal ++ [event], met, goes⟩
  · exact .inr ⟨_, _, met, fails⟩

end Progress
end RouteParams
