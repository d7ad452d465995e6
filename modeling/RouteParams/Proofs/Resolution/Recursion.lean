import RouteParams.Proofs.Resolution.Ending
import RouteParams.Proofs.Tree.Turns

/-!
Resolution by recursion. A node is met before its slots and the slots are resolved in order, each at
the depth that the node leaves; nothing is met after an exhaustion. The walk with a stack takes the
same nodes in the same order and ends in the same way, and both follow the declarations of the tree.
-/
namespace RouteParams

/-- What a recursive resolution has done: the nodes it has met, with their depths, and how it ended. -/
structure Descent where
  met : List (LayoutTree × Nat)
  ending : Ending

namespace Descent

/-- Goes on from the store that a descent leaves, unless an exhaustion stopped it. -/
def followedBy (first : Descent) (others : Store → Descent) : Descent :=
  match first.ending.exhaustion? with
  | some _ => first
  | none =>
    let rest := others first.ending.store
    ⟨first.met ++ rest.met, rest.ending⟩

def ofNode (options : Options) (route : Route) (entry : LayoutTree × Nat) (store : Store) :
    Descent :=
  match store.meet options route (LayoutTree.visitOf entry) with
  | .error exhaustion => ⟨[entry], store, some exhaustion⟩
  | .ok next => ⟨[entry], next, none⟩

def ofNodes (options : Options) (route : Route) : List (LayoutTree × Nat) → Store → Descent
  | [], store => ⟨[], store, none⟩
  | entry :: rest, store => (ofNode options route entry store).followedBy (ofNodes options route rest)

end Descent

namespace LayoutTree

mutual

/-- Resolves a tree that is entered at a depth: its node and then its slots in order, which are
entered past the positions that the node takes. -/
def descend (options : Options) (route : Route) (depth : Nat) : LayoutTree → Store → Descent
  | .node segment slots, store =>
    (Descent.ofNode options route (.node segment slots, depth) store).followedBy fun next =>
      descendSlots options route (depth + (SegmentForm.ofText segment).contribution) slots next

def descendSlots (options : Options) (route : Route) (depth : Nat) :
    List (String × LayoutTree) → Store → Descent
  | [], store => ⟨[], store, none⟩
  | (_, child) :: rest, store =>
    (descend options route depth child store).followedBy fun next =>
      descendSlots options route depth rest next

end

end LayoutTree

namespace Descent

variable {options : Options} {route : Route}

theorem followedBy_assoc (first : Descent) (second third : Store → Descent) :
    (first.followedBy second).followedBy third =
      first.followedBy fun store => (second store).followedBy third := by
  obtain ⟨met, store, exhaustion?⟩ := first
  cases exhaustion? with
  | some exhaustion => rfl
  | none =>
    change followedBy ⟨met ++ (second store).met, (second store).ending⟩ third =
      ⟨met ++ ((second store).followedBy third).met, ((second store).followedBy third).ending⟩
    obtain ⟨met', store', exhaustion?⟩ := second store
    cases exhaustion? with
    | some exhaustion => rfl
    | none => exact congrArg (mk · _) (List.append_assoc _ _ _)

theorem ofNodes_append (first second : List (LayoutTree × Nat)) (store : Store) :
    ofNodes options route (first ++ second) store =
      (ofNodes options route first store).followedBy (ofNodes options route second) := by
  induction first generalizing store with
  | nil => rfl
  | cons entry rest ih =>
    rw [List.cons_append, ofNodes, ofNodes, followedBy_assoc]
    exact congrArg _ (funext ih)

theorem ofNodes_of_ok {entry : LayoutTree × Nat} {rest : List (LayoutTree × Nat)}
    {store next : Store} (ok : store.meet options route (LayoutTree.visitOf entry) = .ok next) :
    ofNodes options route (entry :: rest) store =
      ⟨entry :: (ofNodes options route rest next).met,
        (ofNodes options route rest next).ending⟩ := by
  rw [ofNodes, ofNode, ok]
  rfl

theorem ofNodes_of_error {entry : LayoutTree × Nat} {rest : List (LayoutTree × Nat)}
    {store : Store} {exhaustion : Exhaustion}
    (fails : store.meet options route (LayoutTree.visitOf entry) = .error exhaustion) :
    ofNodes options route (entry :: rest) store = ⟨[entry], store, some exhaustion⟩ := by
  rw [ofNodes, ofNode, fails]
  rfl

theorem met_ofNodes (options : Options) (route : Route) (entries : List (LayoutTree × Nat))
    (store : Store) :
    (ofNodes options route entries store).met <+: entries ∧
      ((ofNodes options route entries store).ending.exhaustion? = none →
        (ofNodes options route entries store).met = entries) := by
  induction entries generalizing store with
  | nil => exact ⟨List.prefix_rfl, fun _ => rfl⟩
  | cons entry rest ih =>
    cases met : store.meet options route (LayoutTree.visitOf entry) with
    | error exhaustion =>
      rw [ofNodes_of_error met]
      refine ⟨(List.prefix_cons_inj entry).2 List.nil_prefix, ?_⟩
      intro returns
      cases returns
    | ok next =>
      rw [ofNodes_of_ok met]
      obtain ⟨begins, complete⟩ := ih next
      refine ⟨(List.prefix_cons_inj entry).2 begins, ?_⟩
      intro returns
      exact congrArg (entry :: ·) (complete returns)

theorem ending_ofNodes (entries : List (LayoutTree × Nat)) (store : Store) :
    (ofNodes options route entries store).ending =
      store.follow options route
        ((entries.map LayoutTree.visitOf).filterMap Visit.declaration?) := by
  induction entries generalizing store with
  | nil => rfl
  | cons entry rest ih =>
    rw [List.map_cons, List.filterMap_cons]
    cases declared : (LayoutTree.visitOf entry).declaration? with
    | none =>
      have met : store.meet options route (LayoutTree.visitOf entry) = .ok store := by
        rw [Store.meet, declared]
      rw [ofNodes_of_ok met]
      exact ih store
    | some declaration =>
      have same : store.meet options route (LayoutTree.visitOf entry) =
          store.declare options route declaration := by
        rw [Store.meet, declared]
      cases met : store.declare options route declaration with
      | error exhaustion => rw [ofNodes_of_error (same.trans met), Store.follow_of_error met]
      | ok next =>
        rw [ofNodes_of_ok (same.trans met), Store.follow_of_ok met]
        exact ih next

end Descent

namespace LayoutTree

variable {options : Options} {route : Route}

mutual

theorem descend_eq_ofNodes (depth : Nat) (tree : LayoutTree) (store : Store) :
    tree.descend options route depth store =
      Descent.ofNodes options route (tree.nodes depth) store := by
  match tree with
  | .node segment slots =>
    rw [descend, nodes, Descent.ofNodes]
    exact congrArg _ (funext (descendSlots_eq_ofNodes _ slots))

theorem descendSlots_eq_ofNodes (depth : Nat) (slots : List (String × LayoutTree))
    (store : Store) :
    descendSlots options route depth slots store =
      Descent.ofNodes options route (slotsNodes depth slots) store := by
  match slots with
  | [] => rfl
  | (_, child) :: rest =>
    rw [descendSlots, slotsNodes, Descent.ofNodes_append, descend_eq_ofNodes depth child]
    exact congrArg _ (funext (descendSlots_eq_ofNodes depth rest))

end

theorem handled_eq_met (entries : List (LayoutTree × Nat)) (progress : Progress) :
    handled (Progress.step options route) entries progress =
      (Descent.ofNodes options route entries progress.store).met := by
  induction entries generalizing progress with
  | nil => rfl
  | cons entry rest ih =>
    rcases Progress.step_cases options route progress (visitOf entry) with
      ⟨next, journal, met, step⟩ | ⟨exhaustion, journal, met, step⟩
    · rw [handled, step, Descent.ofNodes_of_ok met]
      exact congrArg (entry :: ·) (ih ⟨next, journal⟩)
    · rw [handled, step, Descent.ofNodes_of_error met]

theorem ending_foldlM (entries : List (LayoutTree × Nat)) (progress : Progress) :
    Ending.of (entries.foldlM
        (fun progress entry => Progress.step options route progress (visitOf entry)) progress) =
      (Descent.ofNodes options route entries progress.store).ending := by
  induction entries generalizing progress with
  | nil => rfl
  | cons entry rest ih =>
    rw [List.foldlM_cons]
    rcases Progress.step_cases options route progress (visitOf entry) with
      ⟨next, journal, met, step⟩ | ⟨exhaustion, journal, met, step⟩
    · rw [step, Descent.ofNodes_of_ok met]
      exact ih ⟨next, journal⟩
    · rw [step, Descent.ofNodes_of_error met]
      rfl

theorem ending_resolveFrom (depth : Nat) (tree : LayoutTree) (store : Store) :
    Ending.of (tree.resolveFrom options route depth store) =
      (tree.descend options route depth store).ending := by
  rw [resolveFrom, walk_eq_foldlM, pending_singleton, ending_foldlM, descend_eq_ofNodes]
  rfl

/-- The walk with a stack refines the recursion. It comes to its end, takes from its stack the nodes
that the recursion meets, in the same order and at the same depths, and leaves the same store with the
same exhaustion or none. These nodes are the first ones of the tree in preorder, and without an
exhaustion they are all of them. -/
theorem resolveFrom_refines_descend (options : Options) (route : Route) (depth : Nat)
    (tree : LayoutTree) (store : Store) :
    Turns (Progress.step options route) [(tree, depth)] (.start store)
        (tree.descend options route depth store).met
        (tree.resolveFrom options route depth store) ∧
      Ending.of (tree.resolveFrom options route depth store) =
        (tree.descend options route depth store).ending ∧
      (tree.descend options route depth store).met <+: tree.nodes depth ∧
      ((tree.descend options route depth store).ending.exhaustion? = none →
        (tree.descend options route depth store).met = tree.nodes depth) ∧
      (tree.nodes depth).length = tree.size := by
  have turns := turns_walk (Progress.step options route) [(tree, depth)] (.start store)
  rw [pending_singleton, handled_eq_met] at turns
  obtain ⟨begins, complete⟩ :=
    Descent.met_ofNodes options route (tree.nodes depth) store
  refine ⟨?_, ending_resolveFrom depth tree store, ?_, ?_, length_nodes depth tree⟩
  · rw [descend_eq_ofNodes]
    exact turns
  · rw [descend_eq_ofNodes]
    exact begins
  · rw [descend_eq_ofNodes]
    exact complete

theorem ending_resolve (tree : LayoutTree) (store : Store) :
    Ending.of (tree.resolve options route store) =
      store.follow options route tree.declarations := by
  rw [resolve, ending_resolveFrom, descend_eq_ofNodes, Descent.ending_ofNodes,
    map_visitOf_nodes, declarations_eq_visits]

end LayoutTree

namespace Resolution

variable {options : Options} {route : Route} {raw : Raw} {tree : LayoutTree}

theorem store_ofReading_ok (tree : LayoutTree) (store : Store) :
    (ofReading options route (.ok tree) store).store =
      (store.follow options route tree.declarations).store := by
  rw [← LayoutTree.ending_resolve, ofReading]
  cases tree.resolve options route store <;> rfl

theorem failure_ofReading_ok (tree : LayoutTree) (store : Store) :
    (ofReading options route (.ok tree) store).failure? =
      (store.follow options route tree.declarations).exhaustion?.map Failure.exhausted := by
  rw [← LayoutTree.ending_resolve, ofReading]
  cases tree.resolve options route store <;> rfl

theorem ofRaw_of_error {error : TreeError} (unread : LayoutTree.ofRaw raw = .error error)
    (store : Store) : ofRaw options route raw store = ⟨.start store, some (.tree error)⟩ := by
  rw [ofRaw, unread, ofReading]

theorem store_ofRaw (read : LayoutTree.ofRaw raw = .ok tree) (store : Store) :
    (ofRaw options route raw store).store =
      (store.follow options route tree.declarations).store := by
  rw [ofRaw, read, store_ofReading_ok]

theorem failure_ofRaw (read : LayoutTree.ofRaw raw = .ok tree) (store : Store) :
    (ofRaw options route raw store).failure? =
      (store.follow options route tree.declarations).exhaustion?.map Failure.exhausted := by
  rw [ofRaw, read, failure_ofReading_ok]

end Resolution
end RouteParams
