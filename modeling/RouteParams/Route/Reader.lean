import RouteParams.Route.Basic
import RouteParams.Text.Quoted
import RouteParams.Text.Search

/-!
Reading a pathname. The tokens are checked in order. A marker must occur exactly once in the pathname,
and both parts around it must be readable; when several tokens carry markers the last one counts.
-/
namespace RouteParams

inductive RouteError where
  | notInPath (pathname : String) (token : PathToken)
  | markerRepeated (pathname : String)
  deriving DecidableEq

namespace RouteError

def message : RouteError → String
  | .notInPath pathname token =>
    Text.quoted pathname ++ " is being parsed as a normalized route, but it has a "
      ++ token.kind.label ++ " segment " ++ Text.quoted token.text ++ "."
  | .markerRepeated pathname => "Invalid interception route: " ++ Text.quoted pathname

end RouteError

namespace Route

abbrev Halves := Marker × Route × Route

def assemble (pathname : List Char) (normalized : Bool) (tokens : List PathToken) :
    Option Halves → Route
  | none => .plain (String.ofList pathname) normalized tokens
  | some (marker, before, after) =>
    .interception (String.ofList pathname) normalized tokens marker before after

/-- Either part around a marker is shorter than the whole. -/
theorem cut?_shorter {marker : Marker} {pathname before after : List Char}
    (parts : Text.cut? marker.chars pathname = some (before, after)) :
    before.length < pathname.length ∧ after.length < pathname.length := by
  have whole := congrArg List.length (Text.cut?_eq_some parts)
  have nonempty := List.length_pos_iff.2 marker.chars_ne_nil
  simp only [List.length_append] at whole
  omega

/-- Checks the tokens in order, reading the parts around each marker, and answers with the halves at
the last marker. -/
def scan (normalized : Bool) (pathname : List Char)
    (readPart : (part : List Char) → part.length < pathname.length → Except RouteError Route) :
    List PathToken → Option Halves → Except RouteError (Option Halves)
  | [], found => .ok found
  | token :: rest, found =>
    if normalized && !token.inPath then .error (.notInPath (String.ofList pathname) token)
    else match token.marker? with
      | none => scan normalized pathname readPart rest found
      | some marker =>
        match parts : Text.cut? marker.chars pathname with
        | none => .error (.markerRepeated (String.ofList pathname))
        | some (before, after) => do
          let beforeRoute ← readPart before (cut?_shorter parts).1
          let afterRoute ← readPart after (cut?_shorter parts).2
          scan normalized pathname readPart rest (some (marker, beforeRoute, afterRoute))

def readChars (normalized : Bool) (pathname : List Char) : Except RouteError Route := do
  let tokens := PathToken.split pathname
  let halves ← scan normalized pathname (fun part _ => readChars normalized part) tokens none
  pure (assemble pathname normalized tokens halves)
termination_by pathname.length

/-- Reads a pathname; a normalized one may hold neither a group nor a parallel route. -/
def read (normalized : Bool) (pathname : String) : Except RouteError Route :=
  readChars normalized pathname.toList

end Route
end RouteParams
