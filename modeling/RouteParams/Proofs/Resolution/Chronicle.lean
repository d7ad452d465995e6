import Mathlib.Data.List.Basic
import RouteParams.Proofs.Resolution.Messages
import RouteParams.Proofs.Resolution.Recursion

/-!
The journal of a resolution. The nodes of a tree are met in preorder: a node that leaves the store as it is adds no
event, a node that changes the store adds the event of this change with its own position, and a node that exhausts the
path adds the last event. What the journal tells is therefore all that has happened, and it can be replayed.
-/
namespace RouteParams

namespace Event

def binding? : Event → Option (String × BoundValue)
  | .bound name value _ => some (name, value)
  | _ => none

def record? : Event → Option Fallback
  | .recorded name kind _ => some ⟨name, kind⟩
  | _ => none

def exhaustion? : Event → Option Exhaustion
  | .exhausted name depth pathname => some ⟨name, pathname, depth⟩
  | _ => none

end Event

def Store.replay (store : Store) : Event → Store
  | .bound name value _ => store.bind name value
  | .recorded name kind _ => store.record name kind
  | .exhausted _ _ _ => store

/-- The events tell what becomes of a store at these places, met one after another. -/
inductive Chronicles (options : Options) (route : Route) : Store → List Place → List Event → Ending → Prop
  | finished (store : Store) : Chronicles options route store [] [] ⟨store, none⟩
  | unchanged {store : Store} {place : Place} {rest : List Place} {events : List Event} {ending : Ending}
      (met : store.meet options route place.visit = .ok store)
      (others : Chronicles options route store rest events ending) :
      Chronicles options route store (place :: rest) events ending
  | changed {store next : Store} {place : Place} {event : Event} {rest : List Place} {events : List Event}
      {ending : Ending} (met : store.meet options route place.visit = .ok next)
      (tells : event.Tells store next) (stands : event.depth = place.position)
      (others : Chronicles options route next rest events ending) :
      Chronicles options route store (place :: rest) (event :: events) ending
  | exhausted {store : Store} {place : Place} {name : String} {rest : List Place}
      (met : store.meet options route place.visit = .error ⟨name, route.pathname, place.position⟩) :
      Chronicles options route store (place :: rest) [.exhausted name place.position route.pathname]
        ⟨store, some ⟨name, route.pathname, place.position⟩⟩

/-! ## A run and its chronicle -/

namespace Progress

/-- The progress that a run has made when it ends. -/
def reached : Except Stopped Progress → Progress
  | .ok progress => progress
  | .error stopped => stopped.progress

theorem store_reached (run : Except Stopped Progress) : (reached run).store = (Ending.of run).store := by
  cases run <;> rfl

theorem chronicles_foldlM (options : Options) (route : Route) (places : List Place) (progress : Progress) :
    ∃ events, Chronicles options route progress.store places events
        (.of ((places.map Place.visit).foldlM (step options route) progress)) ∧
      (reached ((places.map Place.visit).foldlM (step options route) progress)).journal =
        progress.journal ++ events := by
  induction places generalizing progress with
  | nil => exact ⟨[], .finished _, (List.append_nil _).symm⟩
  | cons place rest ih =>
    rw [List.map_cons, List.foldlM_cons]
    rcases step_tells options route progress place.visit with
      ⟨met, goes⟩ | ⟨event, next, met, tells, stands, goes⟩ | ⟨name, met, fails⟩
    · obtain ⟨events, others, told⟩ := ih progress
      rw [goes]
      exact ⟨events, .unchanged met others, told⟩
    · obtain ⟨events, others, told⟩ := ih ⟨next, progress.journal ++ [event]⟩
      rw [goes]
      refine ⟨event :: events, .changed met tells stands others, ?_⟩
      exact told.trans (List.append_assoc _ _ _)
    · rw [fails]
      exact ⟨_, .exhausted met, rfl⟩

end Progress

theorem LayoutTree.resolve_eq_foldlM (options : Options) (route : Route) (tree : LayoutTree) (store : Store) :
    tree.resolve options route store =
      (tree.places.map Place.visit).foldlM (Progress.step options route) (.start store) := by
  rw [resolve, resolveFrom, walk_eq_foldlM, pending_singleton, ← visits_eq_places, ← map_visitOf_nodes,
    List.foldlM_map]

/-! ## What a chronicle tells -/

namespace Chronicles

variable {options : Options} {route : Route} {store : Store} {places : List Place} {events : List Event}
  {ending : Ending}

theorem params_eq (told : Chronicles options route store places events ending) :
    ending.store.params = store.params ++ events.filterMap Event.binding? := by
  induction told with
  | finished => exact (List.append_nil _).symm
  | unchanged _ _ ih => exact ih
  | changed _ tells _ _ ih =>
    cases tells with
    | bound name value depth fresh =>
      rw [ih, Store.params_bind fresh, List.append_assoc]
      rfl
    | recorded name kind depth => exact ih
  | exhausted => exact (List.append_nil _).symm

theorem fallbacks_eq (told : Chronicles options route store places events ending) :
    ending.store.fallbacks = store.fallbacks ++ events.filterMap Event.record? := by
  induction told with
  | finished => exact (List.append_nil _).symm
  | unchanged _ _ ih => exact ih
  | changed _ tells _ _ ih =>
    cases tells with
    | bound name value depth fresh => exact ih
    | recorded name kind depth =>
      rw [ih, Store.record, List.append_assoc]
      rfl
  | exhausted => exact (List.append_nil _).symm

theorem replayed (told : Chronicles options route store places events ending) :
    events.foldl Store.replay store = ending.store := by
  induction told with
  | finished => rfl
  | unchanged _ _ ih => exact ih
  | changed _ tells _ _ ih => cases tells <;> exact ih
  | exhausted => rfl

theorem exhaustion_eq (told : Chronicles options route store places events ending) :
    events.filterMap Event.exhaustion? = ending.exhaustion?.toList := by
  induction told with
  | finished => rfl
  | unchanged _ _ ih => exact ih
  | changed _ tells _ _ ih => cases tells <;> exact ih
  | exhausted => rfl

theorem last (told : Chronicles options route store places events ending) :
    ∀ event ∈ events.dropLast, event.exhaustion? = none := by
  induction told with
  | finished => simp
  | unchanged _ _ ih => exact ih
  | @changed _ _ _ event _ events _ _ tells _ _ ih =>
    cases events with
    | nil => simp
    | cons next events =>
      rw [List.dropLast_cons_cons]
      refine List.forall_mem_cons.2 ⟨?_, ih⟩
      cases tells <;> rfl
  | exhausted => simp

end Chronicles

namespace Resolution

/-- What the journal of a resolution tells of it. The resolution went through the places of a tree from the store
`before`. -/
structure IsTold (options : Options) (route : Route) (tree : LayoutTree) (before : Store)
    (resolution : Resolution) : Prop where
  chronicle : ∃ ending, Chronicles options route before tree.places resolution.progress.journal ending ∧
    resolution.store = ending.store ∧ resolution.failure? = ending.exhaustion?.map .exhausted
  params : resolution.store.params = before.params ++ resolution.progress.journal.filterMap Event.binding?
  fallbacks : resolution.store.fallbacks = before.fallbacks ++ resolution.progress.journal.filterMap Event.record?
  failure : resolution.failure?.toList =
    (resolution.progress.journal.filterMap Event.exhaustion?).map .exhausted
  last : ∀ event ∈ resolution.progress.journal.dropLast, event.exhaustion? = none
  replayed : resolution.progress.journal.foldl Store.replay before = resolution.store
  texts : ∀ events, events.map Event.message = resolution.progress.journal.map Event.message →
    events = resolution.progress.journal

variable {options : Options} {route : Route} {raw : Raw} {tree : LayoutTree}

theorem ofRaw_eq_ending (read : LayoutTree.ofRaw raw = .ok tree) (store : Store) :
    ofRaw options route raw store =
      ⟨.reached (tree.resolve options route store),
        (Ending.of (tree.resolve options route store)).exhaustion?.map .exhausted⟩ := by
  rw [ofRaw, read, ofReading]
  cases tree.resolve options route store <;> rfl

theorem chronicles_ofRaw (options : Options) (route : Route) (read : LayoutTree.ofRaw raw = .ok tree)
    (store : Store) :
    ∃ ending, Chronicles options route store tree.places (ofRaw options route raw store).progress.journal ending ∧
      (ofRaw options route raw store).store = ending.store ∧
      (ofRaw options route raw store).failure? = ending.exhaustion?.map .exhausted := by
  obtain ⟨events, told, journal⟩ :=
    Progress.chronicles_foldlM options route tree.places (.start store)
  rw [← LayoutTree.resolve_eq_foldlM] at told journal
  rw [ofRaw_eq_ending read]
  refine ⟨_, ?_, Progress.store_reached _, rfl⟩
  rw [journal]
  exact told

theorem journal_faithful (options : Options) (route : Route) (read : LayoutTree.ofRaw raw = .ok tree)
    (store : Store) : (ofRaw options route raw store).IsTold options route tree store := by
  obtain ⟨ending, told, left, failure⟩ := chronicles_ofRaw options route read store
  refine ⟨⟨ending, told, left, failure⟩, ?_, ?_, ?_, told.last, told.replayed.trans left.symm, ?_⟩
  · rw [left, told.params_eq]
  · rw [left, told.fallbacks_eq]
  · rw [failure, told.exhaustion_eq]
    cases ending.exhaustion? <;> rfl
  · exact fun events same => List.map_injective_iff.2 (fun _ _ => Event.message_inj) same

/-- The first catch-all is bound beside the parameter that is recorded, the name `lang` is known when it is met again,
and the second catch-all is exhausted three positions down, beneath a group. -/
theorem journal_of_stopped_resolution :
    let route : Route := .plain "/[lang]/docs/a" true
      [⟨"[lang]", none, .placeholder .dynamic "lang"⟩, ⟨"docs", none, .literal⟩, ⟨"a", none, .literal⟩]
    let tree : LayoutTree := .node ""
      [("children", .node "[lang]"
        [("side", .node "[...rest]" []),
         ("children", .node "(shop)"
          [("modal", .node "[lang]" []),
           ("children", .node "docs" [("children", .node "[id]" [("children", .node "[...more]" [])])])])]),
       ("modal", .node "[...all]" [])]
    let store : Store := ⟨[("tab", .one "x")], [⟨"user", .dynamic⟩]⟩
    let resolution := ofRaw {} route (.tree tree) store
    let journal : List Event :=
      [.recorded "lang" .dynamic 0, .bound "rest" (.many ["docs", "a"]) 1, .bound "id" (.one "a") 2,
        .exhausted "more" 3 "/[lang]/docs/a"]
    LayoutTree.ofRaw (.tree tree) = .ok tree ∧ resolution.IsTold {} route tree store ∧
      resolution.progress.journal = journal ∧
      resolution.store.params = [("tab", .one "x"), ("rest", .many ["docs", "a"]), ("id", .one "a")] ∧
      resolution.store.fallbacks = [⟨"user", .dynamic⟩, ⟨"lang", .dynamic⟩] ∧
      resolution.failure?.toList = [.exhausted ⟨"more", "/[lang]/docs/a", 3⟩] := by
  intro route tree store resolution journal
  have told : resolution.IsTold {} route tree store := journal_faithful {} route rfl store
  have events : resolution.progress.journal = journal := by decide +kernel
  refine ⟨rfl, told, events, ?_, ?_, ?_⟩
  · rw [told.params, events]
    rfl
  · rw [told.fallbacks, events]
    rfl
  · rw [told.failure, events]
    rfl

end Resolution
end RouteParams
