import RouteParams.Tree.Basic

/-!
Walking a tree in preorder. Each node is visited at the depth that its ancestors leave it: the sum of
the path positions that they take. The walk keeps the nodes still to be visited on a stack, so that
the height of a tree does not matter.
-/
namespace RouteParams

/-- The visit of one node: what its segment is and how many path positions its ancestors take. -/
structure Visit where
  form : SegmentForm
  depth : Nat
  deriving DecidableEq

namespace LayoutTree

mutual

def visits (depth : Nat) : LayoutTree → List Visit
  | .node segment slots =>
    ⟨.ofText segment, depth⟩ ::
      slotsVisits (depth + (SegmentForm.ofText segment).contribution) slots

def slotsVisits (depth : Nat) : List (String × LayoutTree) → List Visit
  | [] => []
  | (_, child) :: rest => visits depth child ++ slotsVisits depth rest

end

def entries (depth : Nat) (slots : NameTable LayoutTree) : List (LayoutTree × Nat) :=
  slots.map fun slot => (slot.2, depth)

/-- Puts slots on a stack. The last goes first, so that the first is taken first. -/
def push (depth : Nat) (slots : NameTable LayoutTree) (stack : List (LayoutTree × Nat)) :
    List (LayoutTree × Nat) :=
  slots.reverse.foldl (fun stack slot => (slot.2, depth) :: stack) stack

theorem push_eq (depth : Nat) (slots : NameTable LayoutTree) (stack : List (LayoutTree × Nat)) :
    push depth slots stack = entries depth slots ++ stack := by
  rw [push, List.foldl_reverse]
  induction slots with
  | nil => rfl
  | cons slot others ih => exact congrArg ((slot.2, depth) :: ·) ih

def stackSize : List (LayoutTree × Nat) → Nat
  | [] => 0
  | (tree, _) :: rest => tree.size + stackSize rest

theorem stackSize_push (depth : Nat) (slots : NameTable LayoutTree) (rest : List (LayoutTree × Nat)) :
    stackSize (push depth slots rest) = slotsSize slots + stackSize rest := by
  rw [push_eq]
  induction slots with
  | nil => exact (Nat.zero_add _).symm
  | cons slot others ih =>
    change slot.2.size + stackSize (entries depth others ++ rest) = _
    rw [ih, slotsSize, Nat.add_assoc]

/-- Carries a state through the visits of the trees on a stack and stops at the first failure. -/
def walk {State Failure : Type} (step : State → Visit → Except Failure State) :
    List (LayoutTree × Nat) → State → Except Failure State
  | [], state => .ok state
  | (.node segment slots, depth) :: rest, state =>
    match step state ⟨.ofText segment, depth⟩ with
    | .error failure => .error failure
    | .ok next =>
      walk step (push (depth + (SegmentForm.ofText segment).contribution) slots rest) next
termination_by stack => stackSize stack
decreasing_by
  rw [stackSize_push, stackSize, size]
  omega

end LayoutTree
end RouteParams
