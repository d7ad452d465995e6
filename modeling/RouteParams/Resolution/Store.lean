import RouteParams.NameTable
import RouteParams.Segment.Basic
import RouteParams.Text.Quoted

/-!
What resolution fills: the parameters bound so far and the fallbacks, which are parameters whose
values must be supplied later.
-/
namespace RouteParams

/-- A parameter is bound to one text of the path or to the texts of the rest of the path. -/
inductive BoundValue where
  | one (text : String)
  | many (texts : List String)
  deriving DecidableEq

namespace BoundValue

def shown : BoundValue → String
  | .one text => Text.quoted text
  | .many texts => "[" ++ String.intercalate ", " (texts.map Text.quoted) ++ "]"

end BoundValue

structure Fallback where
  name : String
  kind : ParamKind
  deriving DecidableEq

structure Store where
  params : NameTable BoundValue
  fallbacks : List Fallback
  deriving DecidableEq

/-- By default a recorded parameter counts as known, and pathnames read on behalf of a page may hold
neither groups nor parallel routes. -/
structure Options where
  recordedAreKnown : Bool := true
  normalizedPages : Bool := true
  deriving DecidableEq

namespace Store

def empty : Store := ⟨[], []⟩

def records (store : Store) (name : String) : Bool :=
  store.fallbacks.any fun fallback => fallback.name == name

/-- A parameter is known once it is bound, and under the default options once it is recorded. -/
def knows (options : Options) (store : Store) (name : String) : Bool :=
  store.params.has name || (options.recordedAreKnown && store.records name)

def bind (store : Store) (name : String) (value : BoundValue) : Store :=
  { store with params := store.params.put name value }

def record (store : Store) (name : String) (kind : ParamKind) : Store :=
  { store with fallbacks := store.fallbacks ++ [⟨name, kind⟩] }

end Store
end RouteParams
