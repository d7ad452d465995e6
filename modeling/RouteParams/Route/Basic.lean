import RouteParams.Route.Token

/-!
A route is a pathname that has been read. A token with a marker makes it an interception, which holds
the routes before and after the marker.
-/
namespace RouteParams

inductive Route where
  | plain (pathname : String) (normalized : Bool) (tokens : List PathToken)
  | interception (pathname : String) (normalized : Bool) (tokens : List PathToken)
      (marker : Marker) (before after : Route)
  deriving DecidableEq

namespace Route

def pathname : Route → String
  | .plain pathname _ _ => pathname
  | .interception pathname _ _ _ _ _ => pathname

/-- Whether the route was read with groups and parallel routes refused. -/
def normalized : Route → Bool
  | .plain _ normalized _ => normalized
  | .interception _ normalized _ _ _ _ => normalized

def tokens : Route → List PathToken
  | .plain _ _ tokens => tokens
  | .interception _ _ tokens _ _ _ => tokens

def marker? : Route → Option Marker
  | .plain _ _ _ => none
  | .interception _ _ _ marker _ _ => some marker

def before? : Route → Option Route
  | .plain _ _ _ => none
  | .interception _ _ _ _ before _ => some before

def after? : Route → Option Route
  | .plain _ _ _ => none
  | .interception _ _ _ _ _ after => some after

/-- The tokens that take a position of the path. -/
def path (route : Route) : List PathToken :=
  route.tokens.filter PathToken.inPath

def pathTexts (route : Route) : List String :=
  route.path.map PathToken.text

def placeholders (route : Route) : List (String × ParamKind) :=
  route.tokens.filterMap fun token =>
    match token.kind with
    | .placeholder kind name => some (name, kind)
    | _ => none

/-- Whether the path has a placeholder at a position. There is none outside the path. -/
def isPlaceholder (route : Route) (index : Int) : Bool :=
  match index with
  | .ofNat index => route.path[index]?.any PathToken.isPlaceholder
  | .negSucc _ => false

end Route
end RouteParams
