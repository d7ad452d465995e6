import RouteParams.Segment.OfText

/-!
The tokens of a pathname. A token may carry a marker; what follows the marker says what it is.
-/
namespace RouteParams

inductive TokenKind where
  | literal
  | placeholder (kind : ParamKind) (name : String)
  | group
  | parallel
  deriving DecidableEq

namespace TokenKind

def label : TokenKind → String
  | .literal => "static"
  | .placeholder _ _ => "dynamic"
  | .group => "route-group"
  | .parallel => "parallel-route"

def ofChars (bare : List Char) : TokenKind :=
  match SegmentForm.ofChars bare with
  | .param kind name => .placeholder kind name
  | .group _ => .group
  | _ => if bare.head? = some '@' then .parallel else .literal

end TokenKind

structure PathToken where
  text : String
  marker? : Option Marker
  kind : TokenKind
  deriving DecidableEq

namespace PathToken

def ofChars (text : List Char) : PathToken :=
  match Marker.strip? text with
  | some (marker, bare) => ⟨String.ofList text, some marker, .ofChars bare⟩
  | none => ⟨String.ofList text, none, .ofChars text⟩

/-- The empty text between two slashes is no token. -/
def ofText? (text : String) : Option PathToken :=
  if text = "" then none else some (ofChars text.toList)

def isPlaceholder (token : PathToken) : Bool :=
  match token.kind with
  | .placeholder _ _ => true
  | _ => false

/-- Groups and parallel routes take no position of the path. -/
def inPath (token : PathToken) : Bool :=
  match token.kind with
  | .literal => true
  | .placeholder _ _ => true
  | .group => false
  | .parallel => false

def split (pathname : List Char) : List PathToken :=
  ((pathname.splitOn '/').filter fun text => !text.isEmpty).map ofChars

end PathToken
end RouteParams
