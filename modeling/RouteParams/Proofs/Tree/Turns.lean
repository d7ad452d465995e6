import RouteParams.Proofs.Tree.Preorder

/-!
The turns of a walk. Each turn takes one node from the stack, handles it at its depth and puts its
slots in its place. The trees on the stack hold the nodes that are still to come, in the order of
their turns, so a walk is a fold over the nodes of its stack in preorder.
-/
namespace RouteParams.LayoutTree

/-- The nodes that the trees on a stack hold, each tree in preorder and the top of the stack first. -/
def pending (stack : List (LayoutTree × Nat)) : List (LayoutTree × Nat) :=
  stack.flatMap fun entry => nodes entry.2 entry.1

theorem pending_append (first second : List (LayoutTree × Nat)) :
    pending (first ++ second) = pending first ++ pending second :=
  List.flatMap_append

theorem pending_singleton (tree : LayoutTree) (depth : Nat) :
    pending [(tree, depth)] = nodes depth tree :=
  List.flatMap_singleton _ _

theorem pending_entries (depth : Nat) (slots : List (String × LayoutTree)) :
    pending (entries depth slots) = slotsNodes depth slots := by
  induction slots with
  | nil => rfl
  | cons slot rest ih =>
    change nodes depth slot.2 ++ pending (entries depth rest) = _
    rw [ih, slotsNodes]

theorem pending_node (segment : String) (slots : List (String × LayoutTree)) (depth : Nat)
    (rest : List (LayoutTree × Nat)) :
    pending ((.node segment slots, depth) :: rest) = (.node segment slots, depth) ::
      pending (entries (depth + (SegmentForm.ofText segment).contribution) slots ++ rest) := by
  rw [pending_append, pending_entries, pending, List.flatMap_cons, nodes, List.cons_append]
  rfl

variable {State Failure : Type}

/-- The walk of a stack, turn by turn: from the state it takes these nodes in this order and ends so.
The last node taken is the one that fails, if one does. -/
inductive Turns (step : State → Visit → Except Failure State) :
    List (LayoutTree × Nat) → State → List (LayoutTree × Nat) → Except Failure State → Prop
  | finished (state : State) : Turns step [] state [] (.ok state)
  | failed (segment : String) (slots : List (String × LayoutTree)) (depth : Nat)
      (rest : List (LayoutTree × Nat)) (state : State) (failure : Failure)
      (fails : step state ⟨.ofText segment, depth⟩ = .error failure) :
      Turns step ((.node segment slots, depth) :: rest) state [(.node segment slots, depth)]
        (.error failure)
  | took (segment : String) (slots : List (String × LayoutTree)) (depth : Nat)
      (rest taken : List (LayoutTree × Nat)) (state next : State) (result : Except Failure State)
      (goes : step state ⟨.ofText segment, depth⟩ = .ok next)
      (others : Turns step
        (entries (depth + (SegmentForm.ofText segment).contribution) slots ++ rest) next taken
        result) :
      Turns step ((.node segment slots, depth) :: rest) state
        ((.node segment slots, depth) :: taken) result

def handled (step : State → Visit → Except Failure State) :
    List (LayoutTree × Nat) → State → List (LayoutTree × Nat)
  | [], _ => []
  | entry :: rest, state =>
    entry :: match step state (visitOf entry) with
      | .error _ => []
      | .ok next => handled step rest next

/-- Every walk comes to its end, and takes the nodes that its stack holds, in their order. -/
theorem turns_walk (step : State → Visit → Except Failure State)
    (stack : List (LayoutTree × Nat)) (state : State) :
    Turns step stack state (handled step (pending stack) state) (walk step stack state) := by
  induction stack, state using walk.induct step with
  | case1 state =>
    rw [walk]
    exact .finished state
  | case2 segment slots depth rest state failure fails =>
    rw [pending_node, handled, visitOf_node, walk, fails]
    exact .failed segment slots depth rest state failure fails
  | case3 segment slots depth rest state next goes ih =>
    rw [push_eq] at ih
    rw [pending_node, handled, visitOf_node, walk, goes]
    dsimp only
    rw [push_eq]
    exact .took segment slots depth rest _ state next _ goes ih

theorem walk_eq_foldlM (step : State → Visit → Except Failure State)
    (stack : List (LayoutTree × Nat)) (state : State) :
    walk step stack state =
      (pending stack).foldlM (fun state entry => step state (visitOf entry)) state := by
  induction stack, state using walk.induct step with
  | case1 state =>
    rw [walk]
    rfl
  | case2 segment slots depth rest state failure fails =>
    rw [pending_node, List.foldlM_cons, visitOf_node, walk, fails]
    rfl
  | case3 segment slots depth rest state next goes ih =>
    rw [pending_node, List.foldlM_cons, visitOf_node, walk, goes, ← push_eq]
    exact ih

end RouteParams.LayoutTree
