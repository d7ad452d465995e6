import RouteParams.Resolution.Store

/-!
The journal of a resolution: one event for every change of the store, and a last one when a required
catch-all has nothing left to take.
-/
namespace RouteParams

/-- A required catch-all stands at or past the end of the path. -/
structure Exhaustion where
  name : String
  pathname : String
  depth : Int
  deriving DecidableEq

namespace Exhaustion

def message (exhaustion : Exhaustion) : String :=
  "Unexpected empty path segments match for route " ++ Text.quoted exhaustion.pathname
    ++ " with catch-all param " ++ Text.quoted exhaustion.name
    ++ " at depth " ++ toString exhaustion.depth

end Exhaustion

inductive Event where
  | bound (name : String) (value : BoundValue) (depth : Nat)
  | recorded (name : String) (kind : ParamKind) (depth : Nat)
  | exhausted (name : String) (depth : Nat) (pathname : String)
  deriving DecidableEq

namespace Event

def message : Event → String
  | .bound name value depth =>
    (match value with
      | .one _ => "Bound param "
      | .many _ => "Bound catch-all ")
      ++ Text.quoted name ++ " = " ++ value.shown ++ " at depth " ++ toString depth
  | .recorded name kind depth =>
    "Param " ++ Text.quoted name ++ " recorded as " ++ kind.text ++ " fallback at depth "
      ++ toString depth
  | .exhausted name depth pathname =>
    "Catch-all " ++ Text.quoted name ++ " exhausted at depth " ++ toString depth ++ " of "
      ++ Text.quoted pathname

end Event
end RouteParams
