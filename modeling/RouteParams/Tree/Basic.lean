import RouteParams.NameTable
import RouteParams.Segment.OfText

/-!
Layout trees. A node has a segment and named slots in order; the primary content of a page and its
parallel routes are slots alike.
-/
namespace RouteParams

inductive LayoutTree where
  | node (segment : String) (slots : List (String × LayoutTree))

namespace LayoutTree

def segment : LayoutTree → String
  | .node segment _ => segment

def slots : LayoutTree → NameTable LayoutTree
  | .node _ slots => slots

def form (tree : LayoutTree) : SegmentForm :=
  SegmentForm.ofText tree.segment

def primarySlot : String := "children"

/-- A node over the parallel slots and the primary content, which is written after them. -/
def create (segment : String) (slots : NameTable LayoutTree) (children? : Option LayoutTree)
    (primary : String) : LayoutTree :=
  match children? with
  | none => .node segment slots
  | some children => .node segment (slots.put primary children)

mutual

def size : LayoutTree → Nat
  | .node _ slots => 1 + slotsSize slots

def slotsSize : List (String × LayoutTree) → Nat
  | [] => 0
  | (_, child) :: rest => child.size + slotsSize rest

end

/-- A node as it stands in the outline of a tree: the root has level zero and stands in no slot. -/
structure OutlineRow where
  level : Nat
  slot? : Option String
  segment : String

mutual

def outlineAt (level : Nat) (slot? : Option String) : LayoutTree → List OutlineRow
  | .node segment slots => ⟨level, slot?, segment⟩ :: slotsOutline (level + 1) slots

def slotsOutline (level : Nat) : List (String × LayoutTree) → List OutlineRow
  | [] => []
  | (name, child) :: rest => outlineAt level (some name) child ++ slotsOutline level rest

end

def outline (tree : LayoutTree) : List OutlineRow :=
  outlineAt 0 none tree

mutual

/-- Whether two trees have the same segments and, under the same names in any order, the same
children. -/
def same : LayoutTree → LayoutTree → Bool
  | .node segment slots, .node other others =>
    segment == other && slots.length == others.length && slotsSame slots others

def slotsSame : List (String × LayoutTree) → List (String × LayoutTree) → Bool
  | [], _ => true
  | (name, child) :: rest, others =>
    (match others.lookup name with
      | some other => same child other
      | none => false) && slotsSame rest others

end

instance : BEq LayoutTree := ⟨same⟩

/-- Trees that are the same agree in their root segment, and nothing else of them is hashed. -/
instance : Hashable LayoutTree := ⟨fun tree => hash tree.segment⟩

end LayoutTree
end RouteParams
