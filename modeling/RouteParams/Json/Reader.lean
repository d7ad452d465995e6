import RouteParams.Json.Token

/-!
Reading a JSON text. The tokens are taken one after the other; what has been opened and not yet closed
is kept as frames, the innermost first. A name that a mapping repeats keeps its place and takes its
last value.
-/
namespace RouteParams.Json

/-- What a value that is being read will be part of. -/
inductive Frame where
  /-- An item of an array, after the items before it, the last of them first. -/
  | item (before : List Json)
  /-- The value of a name in an object, after the members before it. -/
  | member (before : NameTable Json) (name : String)

inductive State where
  | awaitValue (frames : List Frame)
  | awaitItem (frames : List Frame)
  | awaitMember (frames : List Frame)
  | awaitName (before : NameTable Json) (frames : List Frame)
  | awaitColon (before : NameTable Json) (name : String) (frames : List Frame)
  | afterItem (items : List Json) (frames : List Frame)
  | afterMember (members : NameTable Json) (frames : List Frame)
  | complete (value : Json)

namespace State

def close (value : Json) : List Frame → State
  | [] => .complete value
  | .item before :: frames => .afterItem (value :: before) frames
  | .member before name :: frames => .afterMember (before.put name value) frames

def fault (problem : Problem) (token : Token) : Except Fault State :=
  .error ⟨problem, token.place⟩

def beginValue (token : Token) (frames : List Frame) : Except Fault State :=
  match token.lexeme with
  | .text content => content.map fun content => close (.text content) frames
  | .scalar value => value.map fun value => close value frames
  | .mark c =>
    if c = '[' then .ok (.awaitItem frames)
    else if c = '{' then .ok (.awaitMember frames)
    else fault .valueExpected token

def takeName (before : NameTable Json) (token : Token) (frames : List Frame) :
    Except Fault State :=
  match token.lexeme with
  | .text content => content.map fun name => .awaitColon before name frames
  | _ => fault .nameExpected token

def isMark (c : Char) (token : Token) : Bool :=
  match token.lexeme with
  | .mark found => found == c
  | _ => false

def step (state : State) (token : Token) : Except Fault State :=
  match state with
  | .awaitValue frames => beginValue token frames
  | .awaitItem frames =>
    if isMark ']' token then .ok (close (.array []) frames)
    else beginValue token (.item [] :: frames)
  | .awaitMember frames =>
    if isMark '}' token then .ok (close (.object []) frames) else takeName [] token frames
  | .awaitName before frames => takeName before token frames
  | .awaitColon before name frames =>
    if isMark ':' token then .ok (.awaitValue (.member before name :: frames))
    else fault .colonExpected token
  | .afterItem items frames =>
    if isMark ',' token then .ok (.awaitValue (.item items :: frames))
    else if isMark ']' token then .ok (close (.array items.reverse) frames)
    else fault .commaExpected token
  | .afterMember members frames =>
    if isMark ',' token then .ok (.awaitName members frames)
    else if isMark '}' token then .ok (close (.object members) frames)
    else fault .commaExpected token
  | .complete _ => fault .extraData token

def result : State → Except Fault Json
  | .awaitValue _ => .error ⟨.valueExpected, []⟩
  | .awaitItem _ => .error ⟨.valueExpected, []⟩
  | .awaitMember _ => .error ⟨.nameExpected, []⟩
  | .awaitName _ _ => .error ⟨.nameExpected, []⟩
  | .awaitColon _ _ _ => .error ⟨.colonExpected, []⟩
  | .afterItem _ _ => .error ⟨.commaExpected, []⟩
  | .afterMember _ _ => .error ⟨.commaExpected, []⟩
  | .complete value => .ok value

end State

/-- Reads a JSON text. A byte order mark at its front is refused. -/
def read (cs : List Char) : Except Fault Json :=
  if cs.head? = some '\ufeff' then .error ⟨.byteOrderMark, cs⟩
  else do
    let state ← (tokens cs).foldlM State.step (.awaitValue [])
    state.result

end RouteParams.Json
