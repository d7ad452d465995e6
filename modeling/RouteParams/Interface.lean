import RouteParams.Text.Quoted

/-!
The names under which the program's parts are offered to others, each with the module that holds it.
-/
namespace RouteParams.Interface

inductive Entry where
  | type (home : String)
  | function (home : String)
  | text (value : String)
  | names (values : List String)
  deriving DecidableEq

def program : String := "wren"

def version : String := "0.1.0"

/-- The offered types and functions in alphabetical order, types first. -/
def offered : List (String × Entry) :=
  [("AppRoute", .type "wren.routing.route"),
   ("FallbackRouteParam", .type "wren.routing.fallback"),
   ("InvalidRouteError", .type "wren.errors"),
   ("InvalidTreeError", .type "wren.errors"),
   ("LoaderTree", .type "wren.routing.tree"),
   ("ParamType", .type "wren.routing.fallback"),
   ("RequiredCatchallExhausted", .type "wren.errors"),
   ("ResolverConfig", .type "wren.config"),
   ("SegmentKind", .type "wren.routing.segments"),
   ("SegmentType", .type "wren.routing.segments"),
   ("WrenError", .type "wren.errors"),
   ("classify", .function "wren.routing.segments"),
   ("create_loader_tree", .function "wren.routing.tree"),
   ("get_fallback_route_params", .function "wren.routing.fallback"),
   ("parse_app_route", .function "wren.routing.route"),
   ("parse_loader_tree", .function "wren.routing.tree"),
   ("resolve_route_params", .function "wren.routing.resolver")]

/-- The list of offered names and the version stand beside the types and functions. -/
def find? (name : String) : Option Entry :=
  if name = "__all__" then some (.names (offered.map Prod.fst))
  else if name = "__version__" then some (.text version)
  else offered.lookup name

def unknownMessage (name : String) : String :=
  "module " ++ Text.quoted program ++ " has no attribute " ++ Text.quoted name

end RouteParams.Interface
