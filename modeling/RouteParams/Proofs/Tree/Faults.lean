import RouteParams.Proofs.Tree.Checks
import RouteParams.Proofs.Tree.SlotOrder

/-!
Which raw values are trees, and what is wrong with the others. The reader reports the first node whose shape is
not that of a node, so a child that another child of the same name replaces is still read. Should an integer that
is too long to be written come first, then its length is reported.
-/
namespace RouteParams

namespace Raw

theorem isInvalid_of_fault? {raw : Raw} {error : TreeError} (faulty : raw.fault? = some error) :
    error.isInvalid = true := by
  rcases fault?_cases faulty with ⟨_, _, rfl⟩ | ⟨first, second, _, faulty⟩
  · unfold partless
    split
    · rfl
    · split <;> rfl
  · rcases partsFault?_cases faulty with ⟨segment, rfl⟩ | rfl <;> rfl

end Raw

namespace LayoutTree

open Raw

variable {limit : DigitLimit} {entries : List (Raw × Raw)} {error : TreeError}

theorem readChildren_eq_error_iff
    (each : ∀ entry ∈ entries, ∀ error,
      readRaw limit entry.2 = .error error ↔ entry.2.checks.findSome? (Check.fault? limit) = some error) :
    readChildren limit entries = .error error ↔
      (entries.flatMap fun entry => .name entry.1 :: entry.2.checks).findSome? (Check.fault? limit) =
        some error := by
  induction entries with
  | nil =>
    rw [readChildren]
    constructor <;> rintro ⟨⟩
  | cons entry rest ih =>
    obtain ⟨key, value⟩ := entry
    obtain ⟨here, later⟩ := List.forall_mem_cons.1 each
    rw [List.flatMap_cons, List.cons_append, List.findSome?_cons, List.findSome?_append, readChildren]
    cases named : key.named limit with
    | error first =>
      have long : Check.fault? limit (.name key) = some first := named_eq_error_iff.1 named
      rw [long, Option.some.injEq]
      exact iff_of_eq (Except.error.injEq first error)
    | ok name =>
      have passes : Check.fault? limit (.name key) = none :=
        Check.fault?_eq_none_iff.2 ⟨name, named_eq_ok_iff.1 named⟩
      rw [passes]
      cases read : readRaw limit value with
      | error first =>
        dsimp only
        rw [(here first).1 read, Option.some_or, Option.some.injEq]
        exact iff_of_eq (Except.error.injEq first error)
      | ok child =>
        -- the first child is read, so what is wrong stands in the others
        have faultless : value.checks.findSome? (Check.fault? limit) = none := by
          refine Option.eq_none_iff_forall_ne_some.2 fun error faulty => ?_
          have refused := (here error).2 faulty
          rw [read] at refused
          cases refused
        dsimp only
        rw [faultless, Option.none_or, ← ih later]
        cases readChildren limit rest with
        | error found => exact Iff.rfl
        | ok children => constructor <;> rintro ⟨⟩

/-- The reader stops at the first check that does not pass, with the error of that check. -/
theorem readRaw_eq_error_iff (raw : Raw) :
    ∀ error, readRaw limit raw = .error error ↔ raw.checks.findSome? (Check.fault? limit) = some error := by
  induction raw using Raw.induct_slots with
  | step raw ih =>
    intro error
    rw [checks_eq, List.findSome?_cons, Check.fault?]
    cases fault : raw.fault? with
    | some found =>
      rw [readRaw_of_fault? fault, Option.map_some]
      exact (iff_of_eq (Except.error.injEq _ _)).trans (iff_of_eq (Option.some.injEq _ _)).symm
    | none =>
      obtain ⟨node, describes⟩ := fault?_eq_none_iff.1 fault
      rw [Option.map_none]
      dsimp only
      rw [← readChildren_eq_error_iff ih, describes.slots_eq]
      cases node with
      | built tree =>
        cases describes
        rw [readRaw]
        constructor <;> rintro ⟨⟩
      | written segment slots =>
        rw [readRaw_of_describes describes, RawNode.slots]
        cases readChildren limit slots with
        | error found =>
          rw [Except.error.injEq]
          exact iff_of_eq (Except.error.injEq found error)
        | ok children => constructor <;> rintro ⟨⟩

theorem readRaw_of_meetsTooLong {raw : Raw} (meets : raw.MeetsTooLong limit) :
    ∃ digits, limit = some digits ∧ readRaw limit raw = .error (.integerTooLong digits) := by
  obtain ⟨digits, bound, faulty⟩ := Check.findSome?_of_stopTooLong meets
  exact ⟨digits, bound, (readRaw_eq_error_iff raw _).2 faulty⟩

theorem readRaw_eq_error_iff_of_not_meetsTooLong {raw : Raw} (onward : ¬raw.MeetsTooLong limit) :
    readRaw limit raw = .error error ↔ raw.nodes.findSome? fault? = some error := by
  rw [readRaw_eq_error_iff, Check.findSome?_of_not_stopTooLong onward, filterMap_checks]

theorem exists_readRaw_iff {raw : Raw} (onward : ¬raw.MeetsTooLong limit) :
    (∃ tree, readRaw limit raw = .ok tree) ↔ ∀ node ∈ raw.nodes, node.IsNode := by
  have clean : (∃ tree, readRaw limit raw = .ok tree) ↔ raw.nodes.findSome? fault? = none := by
    rw [Option.eq_none_iff_forall_ne_some]
    simp only [ne_eq, ← readRaw_eq_error_iff_of_not_meetsTooLong onward]
    cases readRaw limit raw <;> simp
  rw [clean, List.findSome?_eq_none_iff]
  exact forall₂_congr fun node _ => fault?_eq_none_iff

/-- The reader raises no error whose message cannot be written. -/
theorem exists_shows_of_readRaw {raw value : Raw} (unread : readRaw limit raw = .error error)
    (shown : error.value? = some value) : ∃ part, value.Shows limit part := by
  rw [readRaw_eq_error_iff] at unread
  obtain ⟨check, _, faulty⟩ := List.exists_of_findSome?_eq_some unread
  cases check with
  | shape node =>
    obtain ⟨fault, _, rfl⟩ := Option.map_eq_some_iff.1 faulty
    exact TreeError.exists_shows_of_raised shown
  | name key =>
    obtain ⟨digits, _, rfl⟩ := TreeError.eq_of_ofLength?_eq_some faulty
    cases shown

/-- An error is about the shape of a node unless the length of an integer came first. -/
theorem isInvalid_iff_of_readRaw {raw : Raw} (unread : readRaw limit raw = .error error) :
    error.isInvalid = true ↔ ¬raw.MeetsTooLong limit := by
  constructor
  · intro invalid meets
    obtain ⟨digits, _, long⟩ := readRaw_of_meetsTooLong meets
    cases unread.symm.trans long
    cases invalid
  · intro onward
    rw [readRaw_eq_error_iff_of_not_meetsTooLong onward] at unread
    obtain ⟨node, _, faulty⟩ := List.exists_of_findSome?_eq_some unread
    exact isInvalid_of_fault? faulty

theorem isNode_of_readRaw {raw : Raw} {tree : LayoutTree} (read : readRaw limit raw = .ok tree) : raw.IsNode := by
  refine fault?_eq_none_iff.1 (Option.eq_none_iff_forall_ne_some.2 fun error faulty => ?_)
  rw [readRaw_of_fault? faulty] at read
  cases read

/-- What a node is read as. The slots of a node that is written are named by the keys, and of the children of
one name the last stands at the place of the first. -/
inductive ReadAs (limit : DigitLimit) : RawNode → LayoutTree → Prop
  | built (tree : LayoutTree) : ReadAs limit (.built tree) tree
  | written (segment : String) {entries : List (Raw × Raw)} {children : List (String × LayoutTree)}
      {slots : NameTable LayoutTree} (read : List.Forall₂ (ReadsSlot limit) entries children)
      (gathers : NameTable.Gathers children slots) :
      ReadAs limit (.written segment entries) (.node segment slots)

theorem readRaw_eq_ok_iff_readAs {raw : Raw} {node : RawNode} {tree : LayoutTree}
    (describes : raw.Describes node) :
    readRaw limit raw = .ok tree ↔ ReadAs limit node tree := by
  cases node with
  | built given =>
    cases describes
    rw [readRaw]
    constructor
    · intro read
      cases read
      exact .built tree
    · intro read
      cases read
      rfl
  | written segment entries =>
    rw [readRaw_eq_ok_iff_of_describes describes]
    constructor
    · rintro ⟨children, read, rfl⟩
      exact .written segment read (NameTable.gathers_ofEntries children)
    · intro read
      cases read with
      | written _ read gathers => exact ⟨_, read, congrArg (LayoutTree.node segment) gathers.eq_ofEntries⟩

theorem exists_readsSlot_of_mem {children : List (String × LayoutTree)} {child : String × LayoutTree}
    (related : List.Forall₂ (ReadsSlot limit) entries children) (among : child ∈ children) :
    ∃ entry ∈ entries, ReadsSlot limit entry child := by
  induction related with
  | nil => cases among
  | cons here _ ih =>
    rcases List.mem_cons.1 among with rfl | later
    · exact ⟨_, List.mem_cons_self, here⟩
    · obtain ⟨entry, member, reads⟩ := ih later
      exact ⟨entry, List.mem_cons_of_mem _ member, reads⟩

/-- The slots of every node that is read have different names, if those of the trees that were built beforehand
have. -/
theorem isDistinct_of_readRaw {raw : Raw} (built : ∀ tree, .tree tree ∈ raw.nodes → tree.isDistinct = true)
    {tree : LayoutTree} (read : readRaw limit raw = .ok tree) : tree.isDistinct = true := by
  induction raw using Raw.induct_slots generalizing tree with
  | step raw ih =>
    obtain ⟨node, describes⟩ := isNode_of_readRaw read
    rw [nodes_eq] at built
    cases node with
    | built given =>
      cases describes
      rw [readRaw] at read
      cases read
      exact built tree List.mem_cons_self
    | written segment entries =>
      obtain ⟨children, related, rfl⟩ := (readRaw_eq_ok_iff_of_describes describes).1 read
      have slots : raw.slots = entries := describes.slots_eq
      refine isDistinct_assemble segment fun child among => ?_
      obtain ⟨entry, member, here⟩ := exists_readsSlot_of_mem related among
      refine ih entry (slots ▸ member) (fun tree inside => built tree ?_) here.read
      exact List.mem_cons_of_mem raw (List.mem_flatMap.2 ⟨entry, slots ▸ member, inside⟩)

/-- A raw value is a tree if and only if every node in it has the shape of one; otherwise the first that has
not is reported, and no other. Should an integer that is too long to be written come before that, then its
length is reported. -/
theorem readRaw_decides_nodes (limit : DigitLimit) (raw : Raw) :
    (¬raw.MeetsTooLong limit →
      ((∃ tree, readRaw limit raw = .ok tree) ↔ ∀ node ∈ raw.nodes, node.IsNode) ∧
      ∀ error, readRaw limit raw = .error error ↔ ∃ earlier bad later, raw.nodes = earlier ++ bad :: later ∧
        bad.fault? = some error ∧ ∀ node ∈ earlier, node.IsNode) ∧
    (raw.MeetsTooLong limit →
      ∃ digits, limit = some digits ∧ readRaw limit raw = .error (.integerTooLong digits)) ∧
    ∀ tree, readRaw limit raw = .ok tree ↔ ∃ node, raw.Describes node ∧ ReadAs limit node tree := by
  refine ⟨fun onward => ⟨exists_readRaw_iff onward, fun error => ?_⟩, readRaw_of_meetsTooLong,
    fun tree => ⟨fun read => ?_, ?_⟩⟩
  · rw [readRaw_eq_error_iff_of_not_meetsTooLong onward, List.findSome?_eq_some_iff]
    simp only [fault?_eq_none_iff]
  · obtain ⟨node, describes⟩ := isNode_of_readRaw read
    exact ⟨node, describes, (readRaw_eq_ok_iff_readAs describes).1 read⟩
  · rintro ⟨node, describes, read⟩
    exact (readRaw_eq_ok_iff_readAs describes).2 read

/-- The length of an integer comes before the shape of the node that the message would show, and before the
shape of a child that its name would stand over. -/
example : readRaw (some 3) (.list [.integer 1000]) = .error (.integerTooLong 3) ∧
    readRaw (some 3) (.list [.text "", .mapping [(.integer 1000, .null)]]) = .error (.integerTooLong 3) ∧
    readRaw none (.list [.integer 1000]) = .error (.tooShort (.list [.integer 1000])) :=
  ⟨rfl, rfl, rfl⟩

/-- Keys that are no texts, with the names that they stand for. -/
def oddKeys : List (Raw × String) :=
  [(.integer (-1), "-1"), (.null, "None"), (.bool true, "True"), (.real (.ofFraction false 3 2), "1.5"),
    (.octets [97, 39], "b\"a'\""), (.tuple [.integer 1], "(1,)"), (.tuple [.text "a", .bool false], "('a', False)"),
    (.tree (.node "a" []), "LoaderTree(segment='a', slots=mappingproxy(\x7b\x7d))")]

/-- Each odd key stands over the first child and the text that it stands for over the second. -/
def collidingSlots (first second : Raw) : List (Raw × Raw) :=
  oddKeys.map (fun key => (key.1, first)) ++ oddKeys.map fun key => (.text key.2, second)

theorem names_oddKeys : ∀ key ∈ oddKeys, key.1.Names .standard key.2 := by
  have odd : ∀ key ∈ oddKeys, key.1.typeName ≠ "str" ∧ key.1.isWritable Text.integerDigits = true ∧
      key.2 = key.1.shown := by
    decide +kernel
  intro key inside
  obtain ⟨kind, writable, shown⟩ := odd key inside
  have other : ∀ value, key.1 ≠ .text value := by
    intro value same
    rw [same] at kind
    exact kind rfl
  refine .shown other (shows_iff.2 ⟨fun digits bound => ?_, shown⟩)
  rwa [← Option.some.inj bound]

/-- Of the children of one name the second stands at the place of the first, which is read all the same. -/
theorem decided_with_colliding_keys :
    let leaf (segment : String) : LayoutTree := .node segment []
    let raw (child : Raw) : Raw := .list [.text "blog", .mapping (collidingSlots child (.tree (leaf "b")))]
    (∀ key ∈ oddKeys, key.1.Names .standard key.2) ∧
      readRaw .standard (raw (.tree (leaf "a"))) =
        .ok (.node "blog" (oddKeys.map fun key => (key.2, leaf "b"))) ∧
      ¬(raw .null).MeetsTooLong .standard ∧ readRaw .standard (raw .null) = .error (.notANode .null) := by
  intro leaf raw
  have read : List.Forall₂ (ReadsSlot .standard) (collidingSlots (.tree (leaf "a")) (.tree (leaf "b")))
      (oddKeys.map (fun key => (key.2, leaf "a")) ++ oddKeys.map fun key => (key.2, leaf "b")) := by
    refine List.rel_append ?_ ?_
    · exact List.forall₂_map_left_iff.2 (List.forall₂_map_right_iff.2 (List.forall₂_same.2 fun key inside =>
        ⟨names_oddKeys key inside, ofRaw_tree (leaf "a")⟩))
    · exact List.forall₂_map_left_iff.2 (List.forall₂_map_right_iff.2 (List.forall₂_same.2 fun key _ =>
        ⟨.text key.2, ofRaw_tree (leaf "b")⟩))
  have gathers : NameTable.Gathers
      (oddKeys.map (fun key => (key.2, leaf "a")) ++ oddKeys.map fun key => (key.2, leaf "b"))
      (oddKeys.map fun key => (key.2, leaf "b")) := by
    have table := NameTable.gathers_ofEntries
      (oddKeys.map (fun key => (key.2, leaf "a")) ++ oddKeys.map fun key => (key.2, leaf "b"))
    simpa [oddKeys, NameTable.ofEntries, NameTable.put] using table
  have short : ¬(raw .null).MeetsTooLong .standard := by
    refine not_meetsTooLong fun digits bound => ?_
    rw [← Option.some.inj bound]
    decide +kernel
  have reached : (raw .null).nodes = [raw .null] ++ .null ::
      (collidingSlots .null (.tree (leaf "b"))).tail.flatMap fun entry => entry.2.nodes := by
    have alone : Raw.null.nodes = [.null] := nodes_eq .null
    rw [nodes_eq]
    exact congrArg (fun nodes => raw .null :: (nodes ++ _)) alone
  refine ⟨names_oddKeys, ?_, short, ?_⟩
  · exact ((readRaw_decides_nodes .standard _).2.2 _).2 ⟨_, .sequence rfl, .written "blog" read gathers⟩
  · refine (((readRaw_decides_nodes .standard _).1 short).2 _).2 ⟨_, _, _, reached, rfl, fun node among => ?_⟩
    rw [List.mem_singleton.1 among]
    exact ⟨_, .sequence rfl⟩

end LayoutTree

end RouteParams
