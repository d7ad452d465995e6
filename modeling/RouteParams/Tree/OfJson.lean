import RouteParams.Json.Basic
import RouteParams.Tree.Raw

/-!
JSON values as raw values.
-/
namespace RouteParams.Raw

mutual

def ofJson : Json → Raw
  | .null => .null
  | .bool value => .bool value
  | .integer value => .integer value
  | .real value => .real value
  | .text value => .text value
  | .array items => .list (ofItems items)
  | .object members => .mapping (ofMembers members)

def ofItems : List Json → List Raw
  | [] => []
  | item :: rest => ofJson item :: ofItems rest

def ofMembers : List (String × Json) → List (Raw × Raw)
  | [] => []
  | (name, value) :: rest => (.text name, ofJson value) :: ofMembers rest

end

end RouteParams.Raw
