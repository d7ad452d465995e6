import RouteParams.Proofs.Resolution.Growth
import RouteParams.Proofs.Resolution.Recursion
import RouteParams.Proofs.Segment.Form

/-!
Optional catch-alls in place of required ones. The two kinds take the same positions and are recorded alike;
only at or past the end of the path, where a required catch-all stops a run, an optional one is passed over.
So a tree in which every required catch-all is made optional is always resolved to its end: to the end of the
tree itself if that returns, and otherwise beyond the node that stops it.
-/
namespace RouteParams

/-! ## Relaxed trees -/

namespace ParamKind

def relaxed : ParamKind → ParamKind
  | .catchAll => .optionalCatchAll
  | kind => kind

theorem relaxed_ne_catchAll (kind : ParamKind) : kind.relaxed ≠ .catchAll := by
  cases kind <;> decide

end ParamKind

namespace SegmentForm

def relaxed : SegmentForm → SegmentForm
  | .param kind name => .param kind.relaxed name
  | form => form

theorem contribution_relaxed (form : SegmentForm) :
    form.relaxed.contribution = form.contribution := by
  cases form <;> rfl

end SegmentForm

def Visit.relaxed (visit : Visit) : Visit :=
  ⟨visit.form.relaxed, visit.depth⟩

def Declaration.relaxed (declaration : Declaration) : Declaration :=
  ⟨declaration.kind.relaxed, declaration.name, declaration.position⟩

theorem Visit.declaration?_relaxed (visit : Visit) :
    visit.relaxed.declaration? = visit.declaration?.map Declaration.relaxed := by
  obtain ⟨form, depth⟩ := visit
  cases form <;> rfl

namespace LayoutTree

/-- The segment, but for a required catch-all the optional one of the same name. -/
def relaxedSegment (segment : String) : String :=
  match SegmentForm.ofText segment with
  | .param .catchAll name => "[[..." ++ name ++ "]]"
  | _ => segment

mutual

/-- The tree with every required catch-all made optional. -/
def relaxed : LayoutTree → LayoutTree
  | .node segment slots => .node (relaxedSegment segment) (slotsRelaxed slots)

def slotsRelaxed : List (String × LayoutTree) → List (String × LayoutTree)
  | [] => []
  | (name, child) :: rest => (name, child.relaxed) :: slotsRelaxed rest

end

theorem ofText_relaxedSegment (segment : String) :
    SegmentForm.ofText (relaxedSegment segment) = (SegmentForm.ofText segment).relaxed := by
  rw [relaxedSegment]
  split
  · rename_i name form
    obtain ⟨chars, rfl, valid⟩ := SegmentForm.isParamName_of_ofChars form
    have inner : (String.ofList chars).toList = chars := String.toList_ofList
    have written : ("[[..." ++ String.ofList chars ++ "]]").toList =
        SegmentForm.opening .optionalCatchAll ++ chars ++ SegmentForm.closing .optionalCatchAll := by
      rw [String.toList_append, String.toList_append, inner]
      rfl
    rw [form, SegmentForm.ofText, written, SegmentForm.ofChars_of_optionalCatchAll valid]
    rfl
  · rename_i other
    cases form : SegmentForm.ofText segment with
    | param kind name =>
      cases kind with
      | catchAll => exact absurd form (other name)
      | dynamic => rfl
      | optionalCatchAll => rfl
    | root => rfl
    | group name => rfl
    | interception marker name => rfl
    | literal text => rfl

mutual

theorem visits_relaxed (depth : Nat) (tree : LayoutTree) :
    visits depth tree.relaxed = (visits depth tree).map Visit.relaxed := by
  match tree with
  | .node segment slots =>
    rw [relaxed, visits, visits, List.map_cons, ofText_relaxedSegment,
      SegmentForm.contribution_relaxed, slotsVisits_relaxed]
    rfl

theorem slotsVisits_relaxed (depth : Nat) (slots : List (String × LayoutTree)) :
    slotsVisits depth (slotsRelaxed slots) = (slotsVisits depth slots).map Visit.relaxed := by
  match slots with
  | [] => rfl
  | (_, child) :: rest =>
    rw [slotsRelaxed, slotsVisits, slotsVisits, List.map_append, visits_relaxed,
      slotsVisits_relaxed]

end

theorem declarations_relaxed (tree : LayoutTree) :
    tree.relaxed.declarations = tree.declarations.map Declaration.relaxed := by
  have relax : Visit.declaration? ∘ Visit.relaxed =
      fun visit => visit.declaration?.map Declaration.relaxed :=
    funext Visit.declaration?_relaxed
  rw [declarations_eq_visits, declarations_eq_visits, visits_relaxed, List.filterMap_map,
    List.map_filterMap, relax]

end LayoutTree

/-! ## Runs -/

def Ruling.relaxed : Ruling → Ruling
  | .exhausted => .leave
  | ruling => ruling

theorem Ruling.ofTokens_relaxed (kind : ParamKind) (tokens : List PathToken) :
    ofTokens kind.relaxed tokens = (ofTokens kind tokens).relaxed := by
  have rest : (ofRest tokens).relaxed = ofRest tokens := by
    rw [ofRest]
    split <;> rfl
  cases tokens with
  | nil => cases kind <;> rfl
  | cons token later =>
    cases kind with
    | dynamic =>
      cases placeholder : token.isPlaceholder <;>
        simp [ParamKind.relaxed, ofTokens, placeholder, relaxed]
    | catchAll => exact rest.symm
    | optionalCatchAll => exact rest.symm

theorem Declaration.rule_relaxed (route : Route) (declaration : Declaration) :
    declaration.relaxed.rule route = (declaration.rule route).relaxed := by
  rw [← Route.ruling_eq_rule, ← Route.ruling_eq_rule]
  exact Ruling.ofTokens_relaxed declaration.kind _

namespace Store

variable (options : Options) (route : Route)

/-- Where a declaration stops a run, the relaxed one leaves the store as it is. -/
theorem declare_relaxed (store : Store) (declaration : Declaration) :
    store.declare options route declaration.relaxed =
      match store.declare options route declaration with
      | .ok next => .ok next
      | .error _ => .ok store := by
  have rule := declaration.rule_relaxed route
  cases known : store.knows options declaration.name with
  | true =>
    have known' : store.knows options declaration.relaxed.name = true := known
    rw [declare_of_known known, declare_of_known known']
  | false =>
    have unknown : store.knows options declaration.relaxed.name = false := known
    rw [declare_of_unknown known, declare_of_unknown unknown, rule]
    cases declaration.rule route <;> rfl

theorem follow_relaxed_returns (declarations : List Declaration) (store : Store) :
    (store.follow options route (declarations.map Declaration.relaxed)).exhaustion? = none := by
  apply returns_of_safe
  intro relaxed member
  obtain ⟨declaration, _, rfl⟩ := List.mem_map.1 member
  exact .inl declaration.kind.relaxed_ne_catchAll

/-- The relaxed run goes on from the store that the run itself leaves, with nothing to do if this one
returns. -/
theorem follow_relaxed (declarations : List Declaration) (store : Store) :
    ∃ later, store.follow options route (declarations.map Declaration.relaxed) =
        (store.follow options route declarations).store.follow options route later ∧
      ((store.follow options route declarations).exhaustion? = none → later = []) := by
  induction declarations generalizing store with
  | nil => exact ⟨[], rfl, fun _ => rfl⟩
  | cons declaration rest ih =>
    have step := store.declare_relaxed options route declaration
    rw [List.map_cons]
    cases met : store.declare options route declaration with
    | error exhaustion =>
      rw [met] at step
      rw [follow_of_error met, follow_of_ok step]
      refine ⟨rest.map Declaration.relaxed, rfl, ?_⟩
      intro returns
      cases returns
    | ok next =>
      rw [met] at step
      rw [follow_of_ok met, follow_of_ok step]
      exact ih next

end Store

namespace Resolution

/-- With every required catch-all made optional, a tree is always resolved to its end. The store is that of
the tree itself if this is resolved to its end too; otherwise params and fallbacks begin with what the
tree itself leaves of them. -/
theorem relaxed_returns (options : Options) (route : Route) (tree : LayoutTree) (store : Store) :
    let strict := ofRaw options route (.tree tree) store
    let relaxed := ofRaw options route (.tree tree.relaxed) store
    relaxed.failure? = none ∧
      match strict.failure? with
      | none => relaxed.store = strict.store
      | some _ => strict.store.params <+: relaxed.store.params ∧
          strict.store.fallbacks <+: relaxed.store.fallbacks := by
  have read (other : LayoutTree) : LayoutTree.ofRaw (.tree other) = .ok other := rfl
  have returns := Store.follow_relaxed_returns options route tree.declarations store
  obtain ⟨later, run, nothing⟩ := Store.follow_relaxed options route tree.declarations store
  simp only [failure_ofRaw (read _), store_ofRaw (read _), LayoutTree.declarations_relaxed]
  refine ⟨by rw [returns]; rfl, ?_⟩
  rw [run]
  cases ended : (store.follow options route tree.declarations).exhaustion? with
  | none =>
    rw [nothing ended]
    rfl
  | some exhaustion =>
    obtain ⟨bound, params, _⟩ := Store.params_follow options route later
      (store.follow options route tree.declarations).store
    obtain ⟨recorded, fallbacks, _⟩ := Store.fallbacks_follow options route later
      (store.follow options route tree.declarations).store
    exact ⟨⟨bound, params.symm⟩, ⟨recorded, fallbacks.symm⟩⟩

end Resolution
end RouteParams
