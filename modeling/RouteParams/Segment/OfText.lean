import RouteParams.Segment.Basic
import RouteParams.Text.Lines

/-!
Reading the form of a segment from its text. Parameters come before markers and markers before
groups; what fits no form stands for itself.
-/
namespace RouteParams.SegmentForm

/-- What stands between an opening and a closing at the two ends of a segment. One newline at the end
of the segment does not count. -/
def inside? (opening closing text : List Char) : Option (List Char) :=
  (opening.isPrefixOf? (Text.dropFinalNewline text)).bind (closing.isSuffixOf? ·)

/-- A parameter's name is not empty and holds no bracket. -/
def isParamName (name : List Char) : Bool :=
  !name.isEmpty && name.all fun c => c != '[' && c != ']'

/-- A group's name is not empty, holds no parenthesis and does not begin with a dot. -/
def isGroupName (name : List Char) : Bool :=
  !name.isEmpty && name.head? != some '.' && name.all fun c => c != '(' && c != ')'

def opening : ParamKind → List Char
  | .optionalCatchAll => ['[', '[', '.', '.', '.']
  | .catchAll => ['[', '.', '.', '.']
  | .dynamic => ['[']

def closing : ParamKind → List Char
  | .optionalCatchAll => [']', ']']
  | .catchAll => [']']
  | .dynamic => [']']

def paramName? (kind : ParamKind) (text : List Char) : Option (List Char) :=
  (inside? (opening kind) (closing kind) text).filter isParamName

def groupName? (text : List Char) : Option (List Char) :=
  (inside? ['('] [')'] text).filter isGroupName

/-- The forms are tried in this order, so that three dots are not read as part of a name. -/
def paramKinds : List ParamKind := [.optionalCatchAll, .catchAll, .dynamic]

def param? (text : List Char) : Option (ParamKind × List Char) :=
  paramKinds.findSome? fun kind => (paramName? kind text).map (kind, ·)

def ofChars (text : List Char) : SegmentForm :=
  if text = [] then .root
  else match param? text with
    | some (kind, name) => .param kind (String.ofList name)
    | none =>
      match Marker.strip? text with
      | some (marker, name) => .interception marker (String.ofList name)
      | none =>
        match groupName? text with
        | some name => .group (String.ofList name)
        | none => .literal (String.ofList text)

def ofText (text : String) : SegmentForm :=
  ofChars text.toList

end RouteParams.SegmentForm
