import RouteParams.Proofs.Route.Placeholder

/-!
What the texts of a path tell. The tokens of a route that was read are what their own texts say, so two
such routes with the same text at a position have the same token there, and a text that would declare a
parameter in a tree is a placeholder in the path.
-/
namespace RouteParams

namespace PathToken

theorem isPlaceholder_of_isParam {text : List Char}
    (declares : (SegmentForm.ofChars text).isParam = true) :
    (ofChars text).isPlaceholder = true := by
  obtain ⟨kind, name, form⟩ := SegmentForm.isParam_iff.1 declares
  rw [isPlaceholder, kind_of_param form]

end PathToken

namespace Route

/-- The route is what some pathname is read as. -/
def IsRead (route : Route) : Prop :=
  ∃ normalized pathname, Route.read normalized pathname = .ok route

variable {route other : Route} {token : PathToken}

theorem token_of_mem_path (read : route.IsRead) (member : token ∈ route.path) :
    token = .ofChars token.text.toList := by
  obtain ⟨normalized, pathname, read⟩ := read
  have among : token ∈ route.tokens := List.mem_of_mem_filter member
  rw [tokens_of_readChars read] at among
  obtain ⟨piece, _, _, rfl⟩ := PathToken.mem_split_iff.1 among
  rw [PathToken.text_ofChars, String.toList_ofList]

/-- What stands at a position of a route that was read follows from the text there. -/
theorem getElem?_path (read : route.IsRead) (index : Nat) :
    route.path[index]? = route.pathTexts[index]?.map fun text => .ofChars text.toList := by
  rw [pathTexts, List.getElem?_map, Option.map_map]
  cases found : route.path[index]? with
  | none => rfl
  | some token => exact congrArg some (token_of_mem_path read (List.mem_of_getElem? found))

theorem path_eq_map (read : route.IsRead) :
    route.path = route.pathTexts.map fun text => .ofChars text.toList := by
  apply List.ext_getElem?
  intro index
  rw [getElem?_path read, List.getElem?_map]

theorem getElem?_path_eq (read : route.IsRead) (readOther : other.IsRead) {index : Nat}
    (same : route.pathTexts[index]? = other.pathTexts[index]?) :
    route.path[index]? = other.path[index]? := by
  rw [getElem?_path read, getElem?_path readOther, same]

theorem isParam_of_not_isPlaceholder (read : route.IsRead) {index : Nat} {text : String}
    (here : route.pathTexts[index]? = some text) (free : route.isPlaceholder index = false) :
    (SegmentForm.ofText text).isParam = false := by
  have token := getElem?_path read index
  rw [here] at token
  change route.path[index]?.any PathToken.isPlaceholder = false at free
  rw [token] at free
  apply Bool.eq_false_iff.2
  intro declares
  rw [Option.map_some, Option.any_some, PathToken.isPlaceholder_of_isParam declares] at free
  cases free

end Route
end RouteParams
