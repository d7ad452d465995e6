import RouteParams.CommandLine.Files
import RouteParams.CommandLine.Seeds
import RouteParams.Json.Reader
import RouteParams.Resolution.Run
import RouteParams.Text.Lines
import RouteParams.Text.Utf8
import RouteParams.Tree.OfJson

/-!
The resolve command: a layout tree is read from a JSON file and resolved against a pathname, from the
parameters and fallbacks that are given. The first step that fails decides the answer.
-/
namespace RouteParams.CommandLine

structure ResolveRequest where
  file : String
  pathname : String
  params : List String
  fallbacks : List String
  options : Options
  deriving DecidableEq

inductive ResolveError where
  | file (error : FileError)
  | encoding (fault : Text.Utf8.Fault)
  | json (text : List Char) (fault : Json.Fault)
  | seeds (error : SeedError)
  | tree (error : TreeError)
  | route (error : RouteError)
  | exhausted (exhaustion : Exhaustion)

namespace ResolveError

def message : ResolveError → String
  | .file error => error.message
  | .encoding fault => fault.message
  | .json text fault => fault.message text
  | .seeds error => error.message
  | .tree error => error.message
  | .route error => error.message
  | .exhausted exhaustion => exhaustion.message

end ResolveError

def readDocument (octets : List UInt8) : Except ResolveError Json := do
  let chars ← (Text.Utf8.decode octets).mapError .encoding
  let text := Text.unifyNewlines chars
  (Json.read text).mapError (.json text)

namespace ResolveRequest

def run (request : ResolveRequest) (content : Except FileError (List UInt8)) :
    Except ResolveError Store := do
  let octets ← content.mapError .file
  let document ← readDocument octets
  let params ← (Seeds.params request.params).mapError .seeds
  let fallbacks ← (Seeds.fallbacks request.fallbacks).mapError .seeds
  let tree ← (LayoutTree.ofRaw (.ofJson document)).mapError .tree
  let route ← (Route.read request.options.normalizedPages request.pathname).mapError .route
  match tree.resolve request.options route ⟨params, fallbacks⟩ with
  | .error stopped => .error (.exhausted stopped.cause)
  | .ok progress => .ok progress.store

end ResolveRequest

def valueJson : BoundValue → Json
  | .one text => .text text
  | .many texts => .array (texts.map .text)

def fallbackJson (fallback : Fallback) : Json :=
  .object [("paramName", .text fallback.name), ("paramType", .text fallback.kind.text)]

def storeJson (store : Store) : Json :=
  .object
    [("params", .object (store.params.map fun entry => (entry.1, valueJson entry.2))),
     ("fallbacks", .array (store.fallbacks.map fallbackJson))]

end RouteParams.CommandLine
