import RouteParams.Tree.Raw

/-!
Reading a raw value as a layout tree. A node is a tree already read, a sequence of a segment, slots
and anything more, or a mapping with a segment and perhaps slots. A node is checked before its
children and the children in order, each after the name of its slot. An integer that is too long to be
written ends the reading where it stands in the name of a slot or would stand in a message.
-/
namespace RouteParams

inductive TreeError where
  | segmentMissing (value : Raw)
  | tooShort (value : Raw)
  | notANode (value : Raw)
  | segmentNotText (segment : Raw)
  | slotsNotMapping (segment : String)
  | integerTooLong (digits : Nat)

namespace TreeError

def message : TreeError → String
  | .segmentMissing value => "Tree node mapping has no 'segment' key: " ++ value.shown
  | .tooShort value => "Tree node needs [segment, slots, ...], got " ++ value.shown
  | .notANode value => "Unsupported tree node type: " ++ value.typeName
  | .segmentNotText segment => "Tree segment must be a string, got " ++ segment.shown
  | .slotsNotMapping segment =>
    "Slots of segment " ++ Text.quoted segment ++ " must be a mapping"
  | .integerTooLong digits => Text.tooManyDigits digits ++ Text.raiseTheLimit

/-- The error is about the shape of the tree and not about the length of an integer. -/
def isInvalid : TreeError → Bool
  | .integerTooLong _ => false
  | _ => true

/-- The value that the message shows. -/
def value? : TreeError → Option Raw
  | .segmentMissing value => some value
  | .tooShort value => some value
  | .segmentNotText segment => some segment
  | _ => none

def ofLength? (limit : DigitLimit) (value : Raw) : Option TreeError :=
  limit.bind fun digits => if value.isWritable digits then none else some (.integerTooLong digits)

/-- What is raised for an error: the length of an integer comes first if the message cannot be written. -/
def raised (limit : DigitLimit) (error : TreeError) : TreeError :=
  (error.value?.bind (ofLength? limit)).getD error

end TreeError

def Raw.named (limit : DigitLimit) (key : Raw) : Except TreeError String :=
  (TreeError.ofLength? limit key).elim (.ok key.slotName) .error

namespace LayoutTree

def segmentText (limit : DigitLimit) : Raw → Except TreeError String
  | .text segment => .ok segment
  | value => .error (.raised limit (.segmentNotText value))

/-- A node over its children. Children whose slots have the same name are all read; the last of them
stays, at the place of the first. -/
def assemble (segment : String) (children : List (String × LayoutTree)) : LayoutTree :=
  .node segment (NameTable.ofEntries children)

mutual

def readRaw (limit : DigitLimit) : Raw → Except TreeError LayoutTree
  | .tree value => .ok value
  | .list (first :: second :: _) => do
    let segment ← segmentText limit first
    assemble segment <$> readSlots limit segment second
  | .tuple (first :: second :: _) => do
    let segment ← segmentText limit first
    assemble segment <$> readSlots limit segment second
  | .list items => .error (.raised limit (.tooShort (.list items)))
  | .tuple items => .error (.raised limit (.tooShort (.tuple items)))
  | .buffer (first :: _ :: _) => .error (.raised limit (.segmentNotText (.integer first.toNat)))
  | .buffer value => .error (.raised limit (.tooShort (.buffer value)))
  | .mapping entries =>
    match Raw.find? "segment" entries with
    | none => .error (.raised limit (.segmentMissing (.mapping entries)))
    | some first => do
      let segment ← segmentText limit first
      assemble segment <$> readSlotsEntry limit segment entries
  | value => .error (.notANode value)

/-- The children under the `slots` of a mapping. Slots that are missing or empty hold none. -/
def readSlotsEntry (limit : DigitLimit) (segment : String) :
    List (Raw × Raw) → Except TreeError (List (String × LayoutTree))
  | [] => .ok []
  | (key, value) :: rest =>
    if key.isText "slots" then
      if value.isEmpty then .ok [] else readSlots limit segment value
    else readSlotsEntry limit segment rest

def readSlots (limit : DigitLimit) (segment : String) :
    Raw → Except TreeError (List (String × LayoutTree))
  | .mapping entries => readChildren limit entries
  | _ => .error (.slotsNotMapping segment)

def readChildren (limit : DigitLimit) :
    List (Raw × Raw) → Except TreeError (List (String × LayoutTree))
  | [] => .ok []
  | (key, value) :: rest => do
    let name ← key.named limit
    let child ← readRaw limit value
    let others ← readChildren limit rest
    pure ((name, child) :: others)

end

def ofRaw (raw : Raw) : Except TreeError LayoutTree :=
  readRaw .standard raw

/-- A tree that is read already stands for itself. -/
@[simp]
theorem ofRaw_tree (tree : LayoutTree) : ofRaw (.tree tree) = .ok tree := by
  rw [ofRaw, readRaw]

end LayoutTree
end RouteParams
