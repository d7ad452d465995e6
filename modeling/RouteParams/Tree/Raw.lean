import RouteParams.Numeric.Shortest
import RouteParams.Text.Quoted
import RouteParams.Tree.Basic

/-!
Raw values, of which raw layout trees are made, and the text that messages show for each. Lists,
tuples and buffers of octets are sequences; texts and fixed strings of octets are not. A value can be
shown only if none of the integers in it has too many digits.
-/
namespace RouteParams

/-- The most digits with which an integer is written, if there is a bound. -/
abbrev DigitLimit := Option Nat

def DigitLimit.standard : DigitLimit := some Text.integerDigits

inductive Raw where
  | null
  | bool (value : Bool)
  | integer (value : Int)
  | real (value : Binary64)
  | text (value : String)
  | octets (value : List UInt8)
  | buffer (value : List UInt8)
  | list (items : List Raw)
  | tuple (items : List Raw)
  | mapping (entries : List (Raw × Raw))
  | tree (value : LayoutTree)

namespace Raw

/-- Values that stand for nothing: no value, false, any zero and everything empty. -/
def isEmpty : Raw → Bool
  | .null => true
  | .bool value => !value
  | .integer value => value == 0
  | .real value => value.isZero
  | .text value => value == ""
  | .octets value => value.isEmpty
  | .buffer value => value.isEmpty
  | .list items => items.isEmpty
  | .tuple items => items.isEmpty
  | .mapping entries => entries.isEmpty
  | .tree _ => false

def isText (expected : String) : Raw → Bool
  | .text value => value == expected
  | _ => false

def find? (key : String) (entries : List (Raw × Raw)) : Option Raw :=
  (entries.find? fun entry => entry.1.isText key).map Prod.snd

def typeName : Raw → String
  | .null => "NoneType"
  | .bool _ => "bool"
  | .integer _ => "int"
  | .real _ => "float"
  | .text _ => "str"
  | .octets _ => "bytes"
  | .buffer _ => "bytearray"
  | .list _ => "list"
  | .tuple _ => "tuple"
  | .mapping _ => "dict"
  | .tree _ => "LoaderTree"

def commaSeparated (parts : List String) : String :=
  String.intercalate ", " parts

def bracketed (parts : List String) : String :=
  "[" ++ commaSeparated parts ++ "]"

def braced (parts : List String) : String :=
  "\x7b" ++ commaSeparated parts ++ "\x7d"

/-- A tuple of one item has a comma after it. -/
def parenthesized : List String → String
  | [part] => "(" ++ part ++ ",)"
  | parts => "(" ++ commaSeparated parts ++ ")"

mutual

def shownTree : LayoutTree → String
  | .node segment slots =>
    "LoaderTree(segment=" ++ Text.quoted segment ++ ", slots=mappingproxy("
      ++ braced (shownSlots slots) ++ "))"

def shownSlots : List (String × LayoutTree) → List String
  | [] => []
  | (name, child) :: rest => (Text.quoted name ++ ": " ++ shownTree child) :: shownSlots rest

end

mutual

/-- Every integer that is shown with the value has at most so many digits. -/
def isWritable (digits : Nat) : Raw → Bool
  | .integer value => decide (value.natAbs < Nat.pow 10 digits)
  | .list items => itemsWritable digits items
  | .tuple items => itemsWritable digits items
  | .mapping entries => entriesWritable digits entries
  | _ => true

def itemsWritable (digits : Nat) : List Raw → Bool
  | [] => true
  | item :: rest => isWritable digits item && itemsWritable digits rest

def entriesWritable (digits : Nat) : List (Raw × Raw) → Bool
  | [] => true
  | (key, value) :: rest =>
    isWritable digits key && isWritable digits value && entriesWritable digits rest

end

mutual

/-- The text of a value, however long the integers in it are. -/
def shown : Raw → String
  | .null => "None"
  | .bool value => if value then "True" else "False"
  | .integer value => toString value
  | .real value => value.text
  | .text value => Text.quoted value
  | .octets value => Text.quotedOctets value
  | .buffer value => "bytearray(" ++ Text.quotedBuffer value ++ ")"
  | .list items => bracketed (shownItems items)
  | .tuple items => parenthesized (shownItems items)
  | .mapping entries => braced (shownEntries entries)
  | .tree value => shownTree value

def shownItems : List Raw → List String
  | [] => []
  | item :: rest => shown item :: shownItems rest

def shownEntries : List (Raw × Raw) → List String
  | [] => []
  | (key, value) :: rest => (shown key ++ ": " ++ shown value) :: shownEntries rest

end

/-- The slot name that a key of a mapping stands for: a text for itself, anything else as shown. -/
def slotName : Raw → String
  | .text value => value
  | key => shown key

end Raw
end RouteParams
