/-!
What a segment of a layout tree can be. A parameter takes its value from the path, a root or a group
takes no position of the path, and every other segment takes one.
-/
namespace RouteParams

inductive ParamKind where
  | dynamic
  | catchAll
  | optionalCatchAll
  deriving DecidableEq

namespace ParamKind

def all : List ParamKind := [.dynamic, .catchAll, .optionalCatchAll]

def text : ParamKind → String
  | .dynamic => "dynamic"
  | .catchAll => "catchall"
  | .optionalCatchAll => "optional-catchall"

/-- The short form that stands beside a search key. -/
def code : ParamKind → String
  | .dynamic => "d"
  | .catchAll => "c"
  | .optionalCatchAll => "oc"

def ofText? (text : String) : Option ParamKind :=
  all.find? fun kind => kind.text == text

theorem ofText?_text (kind : ParamKind) : ofText? kind.text = some kind := by
  cases kind <;> decide

end ParamKind

/-- The mark in front of a segment that shows another route in place of the one it names. -/
inductive Marker where
  | sameLevel
  | oneUp
  | twoUp
  | fromRoot
  deriving DecidableEq

namespace Marker

def chars : Marker → List Char
  | .sameLevel => ['(', '.', ')']
  | .oneUp => ['(', '.', '.', ')']
  | .twoUp => ['(', '.', '.', ')', '(', '.', '.', ')']
  | .fromRoot => ['(', '.', '.', '.', ')']

def text (marker : Marker) : String :=
  String.ofList marker.chars

/-- Two steps up begin with the characters of one step up, so the longer marker is tried first. -/
def longestFirst : List Marker := [.twoUp, .fromRoot, .oneUp, .sameLevel]

def strip? (text : List Char) : Option (Marker × List Char) :=
  longestFirst.findSome? fun marker => (marker.chars.isPrefixOf? text).map (marker, ·)

theorem chars_ne_nil (marker : Marker) : marker.chars ≠ [] := by
  cases marker <;> decide

end Marker

inductive SegmentForm where
  | root
  | group (name : String)
  | interception (marker : Marker) (name : String)
  | param (kind : ParamKind) (name : String)
  | literal (text : String)
  deriving DecidableEq

namespace SegmentForm

def name : SegmentForm → String
  | .root => ""
  | .group name => name
  | .interception _ name => name
  | .param _ name => name
  | .literal text => text

def marker? : SegmentForm → Option Marker
  | .interception marker _ => some marker
  | _ => none

def isParam : SegmentForm → Bool
  | .param _ _ => true
  | _ => false

def label : SegmentForm → String
  | .root => "root"
  | .group _ => "route-group"
  | .interception _ _ => "interception"
  | .param kind _ => kind.text
  | .literal _ => "static"

/-- How many positions of the path the segment takes from the nodes beneath it. -/
def contribution : SegmentForm → Nat
  | .root => 0
  | .group _ => 0
  | _ => 1

end SegmentForm
end RouteParams
