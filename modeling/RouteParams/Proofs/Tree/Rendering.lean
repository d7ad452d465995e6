import RouteParams.Proofs.Tree.Shape
import RouteParams.Proofs.Tree.SlotOrder

/-!
The raw values that write a given tree. Each node of the tree may be written in a form of its own, and a node
may stand in a raw value as the tree that it is read as; neither changes what is read.
-/
namespace RouteParams.LayoutTree

mutual

/-- The raw value writes the tree, each of its nodes in any of the forms of a node. -/
inductive Renders : LayoutTree → Raw → Prop
  | built (tree : LayoutTree) : Renders tree (.tree tree)
  | written {segment : String} {slots : List (String × LayoutTree)} {raw : Raw}
      {entries : List (Raw × Raw)} (describes : raw.Describes (.written segment entries))
      (below : SlotsRender slots entries) : Renders (.node segment slots) raw

inductive SlotsRender : List (String × LayoutTree) → List (Raw × Raw) → Prop
  | nil : SlotsRender [] []
  | cons {name : String} {child : LayoutTree} {rest : List (String × LayoutTree)} {key value : Raw}
      {entries : List (Raw × Raw)} (named : key.Names .standard name) (first : Renders child value)
      (later : SlotsRender rest entries) : SlotsRender ((name, child) :: rest) ((key, value) :: entries)

end

mutual

/-- The second value is the first with nodes in it replaced by the trees that they are read as. The nodes around
those may be written in other forms. -/
inductive Replaces : Raw → Raw → Prop
  | kept (raw : Raw) : Replaces raw raw
  | read {raw : Raw} {tree : LayoutTree} (read : ofRaw raw = .ok tree) : Replaces raw (.tree tree)
  | within {raw raw' : Raw} {segment : String} {entries entries' : List (Raw × Raw)}
      (before : raw.Describes (.written segment entries))
      (after : raw'.Describes (.written segment entries')) (below : SlotsReplace entries entries') :
      Replaces raw raw'

inductive SlotsReplace : List (Raw × Raw) → List (Raw × Raw) → Prop
  | nil : SlotsReplace [] []
  | cons (key : Raw) {value value' : Raw} {rest rest' : List (Raw × Raw)} (first : Replaces value value')
      (later : SlotsReplace rest rest') : SlotsReplace ((key, value) :: rest) ((key, value') :: rest')

end

mutual

theorem Renders.ofRaw_eq {tree : LayoutTree} {raw : Raw} (renders : Renders tree raw)
    (distinct : tree.isDistinct = true) : ofRaw raw = .ok tree := by
  match renders with
  | .built tree => rfl
  | .written describes below =>
    obtain ⟨apart, each⟩ := isDistinct_iff.1 distinct
    have children := below.forall₂_readsSlot each
    refine (readRaw_eq_ok_iff_of_describes describes).2 ⟨_, children, ?_⟩
    rw [assemble, NameTable.ofEntries_of_nodup apart]

theorem SlotsRender.forall₂_readsSlot {slots : List (String × LayoutTree)} {entries : List (Raw × Raw)}
    (render : SlotsRender slots entries) (distinct : ∀ slot ∈ slots, slot.2.isDistinct = true) :
    List.Forall₂ (ReadsSlot .standard) entries slots := by
  match render with
  | .nil => exact .nil
  | .cons named first later =>
    obtain ⟨here, others⟩ := List.forall_mem_cons.1 distinct
    exact .cons ⟨named, first.ofRaw_eq here⟩ (later.forall₂_readsSlot others)

end

mutual

theorem Replaces.ofRaw_eq {raw raw' : Raw} (replaces : Replaces raw raw') :
    ofRaw raw' = ofRaw raw := by
  match replaces with
  | .kept raw => rfl
  | .read read =>
    rw [read]
    rfl
  | .within before after below =>
    rw [ofRaw, ofRaw, readRaw_of_describes before, readRaw_of_describes after, below.readChildren_eq]

theorem SlotsReplace.readChildren_eq {entries entries' : List (Raw × Raw)}
    (replace : SlotsReplace entries entries') :
    readChildren .standard entries' = readChildren .standard entries := by
  match replace with
  | .nil => rfl
  | .cons key first later =>
    rw [readChildren, readChildren, ← ofRaw, ← ofRaw, first.ofRaw_eq, later.readChildren_eq]

end

/-- Every way of writing a tree is read as that tree, with its slots in their order, and a value in which nodes
are replaced by what they are read as is read as before. -/
theorem ofRaw_reads_renderings :
    (∀ tree raw, tree.isDistinct = true → Renders tree raw → ofRaw raw = .ok tree) ∧
      ∀ raw raw', Replaces raw raw' → ofRaw raw' = ofRaw raw :=
  ⟨fun _ _ distinct renders => renders.ofRaw_eq distinct, fun _ _ replaces => replaces.ofRaw_eq⟩

def sideNode : LayoutTree := .node "[id]" []

def blogNode : LayoutTree := .node "blog" [("side", sideNode)]

def layout : LayoutTree := .node "" [("children", blogNode), ("modal", .node "(.)photo" [])]

def sideMapping : Raw :=
  .mapping [(.text "page", .null), (.text "segment", .text "[id]"), (.text "slots", .bool false)]

def blogTuple : Raw := .tuple [.text "blog", .mapping [(.text "side", sideMapping)], .null]

/-- The layout as a list over the given child and over a node that is built. -/
def layoutOver (children : Raw) : Raw :=
  .list [.text "", .mapping [(.text "children", children), (.text "modal", .tree (.node "(.)photo" []))]]

theorem layout_rendered : Renders layout (layoutOver blogTuple) := by
  have side : Renders sideNode sideMapping :=
    .written (.mapping (Raw.find?_eq_some_iff.1 rfl) (.empty (Raw.find?_eq_some_iff.1 rfl) .no)) .nil
  have blog : Renders blogNode blogTuple := .written (.sequence rfl) (.cons (.text _) side .nil)
  exact .written (.sequence rfl) (.cons (.text _) blog (.cons (.text _) (.built _) .nil))

theorem blog_replaced : Replaces (layoutOver blogTuple) (layoutOver (.tree blogNode)) :=
  .within (.sequence rfl) (.sequence rfl) (.cons _ (.read rfl) (.cons _ (.kept _) .nil))

theorem layout_read_with_blog_replaced :
    layout.isDistinct = true ∧ Renders layout (layoutOver blogTuple) ∧
      Replaces (layoutOver blogTuple) (layoutOver (.tree blogNode)) ∧
      ofRaw (layoutOver blogTuple) = .ok layout ∧ ofRaw (layoutOver (.tree blogNode)) = .ok layout := by
  have distinct : layout.isDistinct = true := by decide
  have read := ofRaw_reads_renderings.1 layout (layoutOver blogTuple) distinct layout_rendered
  have again := ofRaw_reads_renderings.2 _ _ blog_replaced
  exact ⟨distinct, layout_rendered, blog_replaced, read, again.trans read⟩

end RouteParams.LayoutTree
