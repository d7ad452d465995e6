import RouteParams.Resolution.Store
import RouteParams.Route.Basic

/-!
What the path says about a parameter that is met at a depth. A dynamic parameter takes the token at
its depth and a catch-all takes all tokens from there on. A placeholder among them, or for a dynamic
parameter a path that is too short, leaves the value to be supplied later.
-/
namespace RouteParams

inductive Ruling where
  | bind (value : BoundValue)
  | record (kind : ParamKind)
  | leave
  | exhausted
  deriving DecidableEq

namespace Ruling

def ofRest (rest : List PathToken) : Ruling :=
  if rest.any PathToken.isPlaceholder then .record .catchAll
  else .bind (.many (rest.map PathToken.text))

def ofTokens : ParamKind → List PathToken → Ruling
  | .dynamic, [] => .record .dynamic
  | .dynamic, token :: _ =>
    if token.isPlaceholder then .record .dynamic else .bind (.one token.text)
  | .catchAll, [] => .exhausted
  | .catchAll, rest => ofRest rest
  | .optionalCatchAll, [] => .leave
  | .optionalCatchAll, rest => ofRest rest

end Ruling

def Route.ruling (route : Route) (kind : ParamKind) (depth : Nat) : Ruling :=
  .ofTokens kind (route.path.drop depth)

end RouteParams
