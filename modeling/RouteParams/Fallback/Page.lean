import RouteParams.Fallback.SearchKey
import RouteParams.Resolution.Run

/-!
The fallbacks of a page pattern: first the placeholders of the pattern with the kinds it declares,
then what a resolution of the page's tree records beside them.
-/
namespace RouteParams

namespace Page

/-- The placeholders of a route that have a name, with the kinds they declare. -/
def declared (route : Route) : List Fallback :=
  (route.placeholders.filter fun placeholder => placeholder.1 != "").map fun placeholder =>
    ⟨placeholder.1, placeholder.2⟩

def fallbacks (options : Options) (page : String) (reading : Except TreeError LayoutTree) :
    Except Failure (List Fallback) :=
  match Route.read options.normalizedPages page with
  | .error error => .error (.route error)
  | .ok route =>
    let resolution := Resolution.ofReading options route reading ⟨[], declared route⟩
    match resolution.failure? with
    | some failure => .error failure
    | none => .ok resolution.store.fallbacks

/-- The search keys of a page's fallbacks, on what the reading of its tree has given. A page that fails
draws no id. -/
def keysOfReading (options : Options) (page : String) (reading : Except TreeError LayoutTree)
    (supply : IdSupply) : Except Failure (Option (NameTable SearchKey)) × IdSupply :=
  match fallbacks options page reading with
  | .error failure => (.error failure, supply)
  | .ok fallbacks =>
    let (keys, rest) := SearchKey.assign fallbacks supply
    (.ok keys, rest)

def searchKeys (options : Options) (page : String) (raw : Raw) (supply : IdSupply) :
    Except Failure (Option (NameTable SearchKey)) × IdSupply :=
  keysOfReading options page (LayoutTree.ofRaw raw) supply

end Page
end RouteParams
