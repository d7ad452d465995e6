import RouteParams.Resolution.Store
import RouteParams.Text.Digits

/-!
Search keys. A fallback's key stands in for its value in a page that is built before the value is
known, and a key found in a finished page shows that the value was never supplied. One id, drawn for
each set of keys, keeps the keys of different sets apart.
-/
namespace RouteParams

/-- The ids in the order in which they are drawn, and how many of them have been drawn. -/
structure IdSupply where
  ids : Nat → String
  drawn : Nat

namespace IdSupply

/-- The numbers from zero on, written with sixteen hexadecimal digits. -/
def fresh : IdSupply :=
  ⟨fun index => String.ofList (Text.hexDigits 16 index), 0⟩

def draw (supply : IdSupply) : String × IdSupply :=
  (supply.ids supply.drawn, { supply with drawn := supply.drawn + 1 })

end IdSupply

structure SearchKey where
  text : String
  code : String
  deriving DecidableEq

namespace SearchKey

def ofFallback (id : String) (fallback : Fallback) : SearchKey :=
  ⟨"%%drp:" ++ fallback.name ++ ":" ++ id ++ "%%", fallback.kind.code⟩

def add (id : String) (keys : NameTable SearchKey) (fallback : Fallback) : NameTable SearchKey :=
  if keys.has fallback.name then keys else keys ++ [(fallback.name, ofFallback id fallback)]

/-- The keys of fallbacks under an id. A name recorded more than once keeps its first kind. -/
def table (id : String) (fallbacks : List Fallback) : NameTable SearchKey :=
  fallbacks.foldl (add id) []

/-- The keys of fallbacks under a newly drawn id. No fallbacks need no keys and draw no id. -/
def assign (fallbacks : List Fallback) (supply : IdSupply) :
    Option (NameTable SearchKey) × IdSupply :=
  if fallbacks.isEmpty then (none, supply)
  else
    let (id, rest) := supply.draw
    (some (table id fallbacks), rest)

end SearchKey
end RouteParams
