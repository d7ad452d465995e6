import RouteParams.Proofs.Resolution.Knowledge
import RouteParams.Proofs.Resolution.Recursion

/-!
What it changes that recorded names count as known. Two runs of the same declarations from the same
store are compared, one that looks only at bound names and one that also looks at recorded ones. The
second leaves out records of names that are recorded already, and bindings of such names.
-/
namespace RouteParams

namespace Fallback

/-- The first record of each name, in order. -/
def firsts (fallbacks : List Fallback) : List Fallback :=
  fallbacks.eraseDupsBy fun later earlier => later.name == earlier.name

theorem firsts_cons (fallback : Fallback) (rest : List Fallback) :
    firsts (fallback :: rest) =
      fallback :: firsts (rest.filter fun later => !(later.name == fallback.name)) := by
  have same : (fun later : Fallback => decide ((later.name == fallback.name) = false)) =
      fun later => !(later.name == fallback.name) := by
    funext later
    cases later.name == fallback.name <;> rfl
  rw [firsts, List.eraseDupsBy_cons, same]
  rfl

theorem firsts_append (fallbacks : List Fallback) (fallback : Fallback) :
    firsts (fallbacks ++ [fallback]) =
      if fallbacks.any fun earlier => earlier.name == fallback.name then firsts fallbacks
      else firsts fallbacks ++ [fallback] := by
  match fallbacks with
  | [] => rfl
  | first :: rest =>
    have shorter := List.length_filter_le (fun later => !(later.name == first.name)) rest
    rw [List.cons_append, firsts_cons, firsts_cons, List.filter_append, List.any_cons]
    by_cases same : first.name = fallback.name
    · simp [same]
    · have others : (rest.filter fun later => !(later.name == first.name)).any
          (fun earlier => earlier.name == fallback.name) =
          rest.any fun earlier => earlier.name == fallback.name := by
        rw [List.any_filter]
        congr 1
        funext earlier
        by_cases equal : earlier.name = fallback.name
        · simp [equal, Ne.symm same]
        · simp [equal]
      rw [List.filter_cons_of_pos (by simp [Ne.symm same]), List.filter_nil, firsts_append,
        others, beq_false_of_ne same, Bool.false_or]
      split <;> rfl
-- The records of other names are not a tail of the list, only shorter.
termination_by fallbacks.length

end Fallback

/-- Two stores that runs from the same store have reached, the one by keeping every record and the
other by skipping the names that are recorded. -/
structure Agrees (start kept skipped : Store) : Prop where
  records : ∀ name, kept.records name = skipped.records name
  firsts : Fallback.firsts kept.fallbacks = Fallback.firsts skipped.fallbacks
  params : ∃ bound, kept.params = start.params ++ bound ∧
    skipped.params = start.params ++ bound.filter fun entry => !kept.records entry.1

namespace Agrees

variable {start kept skipped : Store}

theorem refl (start : Store) : Agrees start start start :=
  ⟨fun _ => rfl, rfl, [], (List.append_nil _).symm, (List.append_nil _).symm⟩

theorem has_eq (agrees : Agrees start kept skipped) {name : String}
    (unrecorded : kept.records name = false) :
    skipped.params.has name = kept.params.has name := by
  obtain ⟨bound, keptParams, skippedParams⟩ := agrees.params
  rw [keptParams, skippedParams, NameTable.has, NameTable.has, List.any_append, List.any_append,
    List.any_filter]
  congr 2
  funext entry
  by_cases same : entry.1 = name
  · rw [same, unrecorded, Bool.not_false, Bool.true_and]
  · rw [beq_false_of_ne same, Bool.and_false]

theorem mentions_eq (agrees : Agrees start kept skipped) (name : String) :
    skipped.mentions name = kept.mentions name := by
  rw [Store.mentions, Store.mentions, ← agrees.records]
  cases recorded : kept.records name with
  | true => rw [Bool.or_true, Bool.or_true]
  | false => rw [agrees.has_eq recorded]

theorem bind (agrees : Agrees start kept skipped) {name : String} (value : BoundValue)
    (unmentioned : kept.mentions name = false) :
    Agrees start (kept.bind name value) (skipped.bind name value) := by
  obtain ⟨unbound, unrecorded⟩ := Bool.or_eq_false_iff.1 unmentioned
  obtain ⟨bound, keptParams, skippedParams⟩ := agrees.params
  refine ⟨agrees.records, agrees.firsts, bound ++ [(name, value)], ?_, ?_⟩
  · rw [Store.params_bind unbound, keptParams, List.append_assoc]
  · have last : [(name, value)].filter (fun entry => !kept.records entry.1) = [(name, value)] := by
      simp [unrecorded]
    rw [Store.params_bind ((agrees.has_eq unrecorded).trans unbound), skippedParams,
      List.append_assoc, List.filter_append]
    exact congrArg _ (congrArg _ last.symm)

theorem bind_recorded (agrees : Agrees start kept skipped) {name : String} (value : BoundValue)
    (unbound : kept.params.has name = false) (recorded : kept.records name = true) :
    Agrees start (kept.bind name value) skipped := by
  obtain ⟨bound, keptParams, skippedParams⟩ := agrees.params
  refine ⟨agrees.records, agrees.firsts, bound ++ [(name, value)], ?_, ?_⟩
  · rw [Store.params_bind unbound, keptParams, List.append_assoc]
  · have last : [(name, value)].filter (fun entry => !kept.records entry.1) = [] := by
      simp [recorded]
    rw [skippedParams, List.filter_append]
    exact congrArg _ ((congrArg _ last).trans (List.append_nil _)).symm

theorem record (agrees : Agrees start kept skipped) {name : String} (kind : ParamKind)
    (unmentioned : kept.mentions name = false) :
    Agrees start (kept.record name kind) (skipped.record name kind) := by
  obtain ⟨unbound, unrecorded⟩ := Bool.or_eq_false_iff.1 unmentioned
  obtain ⟨bound, keptParams, skippedParams⟩ := agrees.params
  refine ⟨?_, ?_, bound, keptParams, ?_⟩
  · intro other
    rw [Store.records_record, Store.records_record, agrees.records]
  · have absent := (agrees.records name).symm.trans unrecorded
    rw [Store.records] at unrecorded absent
    rw [Store.record, Store.record, Fallback.firsts_append, Fallback.firsts_append]
    dsimp only
    rw [unrecorded, absent, agrees.firsts]
  · rw [keptParams, NameTable.has, List.any_append, Bool.or_eq_false_iff] at unbound
    refine skippedParams.trans (congrArg _ (List.filter_congr ?_))
    intro entry member
    have other : entry.1 ≠ name := by simpa using List.any_eq_false.1 unbound.2 entry member
    rw [Store.records_record, beq_false_of_ne (Ne.symm other), Bool.or_false]

theorem record_again (agrees : Agrees start kept skipped) {name : String} (kind : ParamKind)
    (recorded : kept.records name = true) : Agrees start (kept.record name kind) skipped := by
  have same : ∀ other, (kept.record name kind).records other = kept.records other := by
    intro other
    rw [Store.records_record]
    by_cases equal : name = other
    · rw [← equal, recorded, Bool.true_or]
    · rw [beq_false_of_ne equal, Bool.or_false]
  obtain ⟨bound, keptParams, skippedParams⟩ := agrees.params
  refine ⟨fun other => (same other).trans (agrees.records other), ?_, bound, keptParams, ?_⟩
  · rw [Store.records] at recorded
    rw [Store.record, Fallback.firsts_append]
    dsimp only
    rw [recorded, agrees.firsts]
    rfl
  · rw [skippedParams]
    simp only [same]

variable {keeping skipping : Options}

theorem declare (agrees : Agrees start kept skipped) (keeps : keeping.recordedAreKnown = false)
    (skips : skipping.recordedAreKnown = true) (route : Route) (declaration : Declaration) :
    match kept.declare keeping route declaration with
    | .error exhaustion => kept.records exhaustion.name = true ∨
        skipped.declare skipping route declaration = .error exhaustion
    | .ok next => ∃ other, skipped.declare skipping route declaration = .ok other ∧
        Agrees start next other := by
  have known := Store.knows_eq_has keeps kept declaration.name
  have mentions := (Store.knows_eq_mentions skips skipped declaration.name).trans
    (agrees.mentions_eq declaration.name)
  cases bound : kept.params.has declaration.name with
  | true =>
    have mentioned : kept.mentions declaration.name = true := by
      rw [Store.mentions, bound, Bool.true_or]
    rw [Store.declare_of_known (known.trans bound)]
    exact ⟨skipped, Store.declare_of_known (mentions.trans mentioned), agrees⟩
  | false =>
    rw [Store.declare_of_unknown (known.trans bound)]
    cases recorded : kept.records declaration.name with
    | true =>
      -- Only the first run goes on with a name that is recorded but not bound.
      have mentioned : kept.mentions declaration.name = true := by
        rw [Store.mentions, recorded, Bool.or_true]
      have skips : skipped.declare skipping route declaration = .ok skipped :=
        Store.declare_of_known (mentions.trans mentioned)
      cases declaration.rule route with
      | bind value => exact ⟨skipped, skips, agrees.bind_recorded value bound recorded⟩
      | record kind => exact ⟨skipped, skips, agrees.record_again kind recorded⟩
      | leave => exact ⟨skipped, skips, agrees⟩
      | exhausted => exact .inl recorded
    | false =>
      have unmentioned : kept.mentions declaration.name = false := by
        rw [Store.mentions, bound, recorded, Bool.false_or]
      rw [Store.declare_of_unknown (mentions.trans unmentioned)]
      cases declaration.rule route with
      | bind value => exact ⟨_, rfl, agrees.bind value unmentioned⟩
      | record kind => exact ⟨_, rfl, agrees.record kind unmentioned⟩
      | leave => exact ⟨_, rfl, agrees⟩
      | exhausted => exact .inr rfl

/-- Runs from stores in agreement: where the first run returns the second returns in agreement, and
where only the first is stopped, the name that stopped it was recorded. -/
theorem follow (agrees : Agrees start kept skipped) (keeps : keeping.recordedAreKnown = false)
    (skips : skipping.recordedAreKnown = true) (route : Route)
    (declarations : List Declaration) :
    match (kept.follow keeping route declarations).exhaustion? with
    | none => (skipped.follow skipping route declarations).exhaustion? = none ∧
        Agrees start (kept.follow keeping route declarations).store
          (skipped.follow skipping route declarations).store
    | some exhaustion => (skipped.follow skipping route declarations).exhaustion? = none →
        (kept.follow keeping route declarations).store.records exhaustion.name = true := by
  induction declarations generalizing kept skipped with
  | nil => exact ⟨rfl, agrees⟩
  | cons declaration rest ih =>
    have step := agrees.declare keeps skips route declaration
    cases met : kept.declare keeping route declaration with
    | error exhaustion =>
      rw [met] at step
      rw [Store.follow_of_error met]
      intro returns
      rcases step with recorded | fails
      · exact recorded
      · rw [Store.follow_of_error fails] at returns
        cases returns
    | ok next =>
      rw [met] at step
      obtain ⟨other, ok, agrees⟩ := step
      rw [Store.follow_of_ok met, Store.follow_of_ok ok]
      exact ih agrees

end Agrees

/-- What skipping recorded names takes away from a resolution: the repeated records of a name and the
bindings of recorded names. It lets a resolution return that keeps them and returns, and one that
returns only with skipping is stopped without it at a name that is recorded already. -/
theorem Resolution.skipping_removes_repetition (options : Options) (route : Route) (raw : Raw)
    (store : Store) :
    let kept := ofRaw { options with recordedAreKnown := false } route raw store
    let skipped := ofRaw { options with recordedAreKnown := true } route raw store
    (kept.failure? = none →
      skipped.failure? = none ∧
      Fallback.firsts kept.store.fallbacks = Fallback.firsts skipped.store.fallbacks ∧
      ∃ bound, kept.store.params = store.params ++ bound ∧
        skipped.store.params =
          store.params ++ bound.filter fun entry => !kept.store.records entry.1) ∧
    (skipped.failure? = none → ∀ failure, kept.failure? = some failure →
      ∃ exhaustion, failure = .exhausted exhaustion ∧
        kept.store.records exhaustion.name = true) := by
  intro kept skipped
  cases read : LayoutTree.ofRaw raw with
  | error error =>
    have fails : kept.failure? = some (.tree error) := by simp only [kept, ofRaw_of_error read]
    have fails' : skipped.failure? = some (.tree error) := by simp only [skipped, ofRaw_of_error read]
    constructor
    · intro returns
      cases fails.symm.trans returns
    · intro returns
      cases fails'.symm.trans returns
  | ok tree =>
    have keeps : { options with recordedAreKnown := false }.recordedAreKnown = false := rfl
    have skips : { options with recordedAreKnown := true }.recordedAreKnown = true := rfl
    have runs := (Agrees.refl store).follow keeps skips route tree.declarations
    simp only [kept, skipped, failure_ofRaw read, store_ofRaw read, Option.map_eq_none_iff,
      Option.map_eq_some_iff]
    constructor
    · intro returns
      rw [returns] at runs
      obtain ⟨returned, agrees⟩ := runs
      exact ⟨returned, agrees.firsts, agrees.params⟩
    · rintro returned failure ⟨exhaustion, stopped, rfl⟩
      rw [stopped] at runs
      exact ⟨exhaustion, rfl, runs returned⟩

end RouteParams
