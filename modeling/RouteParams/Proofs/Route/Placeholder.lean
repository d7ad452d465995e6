import RouteParams.Proofs.Route.Halves
import RouteParams.Proofs.Segment.Form

/-!
The placeholders of a route that was read. The name of each is the name of a parameter: it is not empty
and holds no bracket.
-/
namespace RouteParams

open SegmentForm

theorem TokenKind.isParamName_of_ofChars {bare : List Char} {name : String} {kind : ParamKind}
    (placeholder : TokenKind.ofChars bare = .placeholder kind name) :
    ∃ chars, name = String.ofList chars ∧ isParamName chars = true := by
  rw [TokenKind.ofChars] at placeholder
  split at placeholder
  · rename_i form
    cases placeholder
    exact SegmentForm.isParamName_of_ofChars form
  · cases placeholder
  · split at placeholder
    · cases placeholder
    · cases placeholder

theorem PathToken.kind_ofChars (text : List Char) :
    (ofChars text).kind = TokenKind.ofChars (Marker.stripped text) := by
  rw [ofChars, Marker.stripped]
  cases Marker.strip? text <;> rfl

/-- A parameter carries no marker, so a token reads it as a segment of a tree does. -/
theorem PathToken.kind_of_param {text : List Char} {kind : ParamKind} {name : String}
    (form : SegmentForm.ofChars text = .param kind name) :
    (ofChars text).kind = .placeholder kind name := by
  have unmarked : Marker.strip? text = none := unmarked_of_isParam (by rw [form]; rfl)
  rw [kind_ofChars, Marker.stripped_of_unmarked unmarked, TokenKind.ofChars, form]

theorem Route.isParamName_of_mem_placeholders {normalized : Bool} {pathname : List Char}
    {route : Route} (read : readChars normalized pathname = .ok route)
    {placeholder : String × ParamKind} (member : placeholder ∈ route.placeholders) :
    ∃ chars, placeholder.1 = String.ofList chars ∧ isParamName chars = true := by
  obtain ⟨token, among, declares⟩ := List.mem_filterMap.1 member
  rw [tokens_of_readChars read] at among
  obtain ⟨piece, _, _, rfl⟩ := PathToken.mem_split_iff.1 among
  have kind := PathToken.kind_ofChars piece
  split at declares
  · rename_i placed
    cases declares
    exact TokenKind.isParamName_of_ofChars (kind.symm.trans placed)
  · cases declares

theorem Route.placeholder_named {normalized : Bool} {pathname : List Char} {route : Route}
    (read : readChars normalized pathname = .ok route) {placeholder : String × ParamKind}
    (member : placeholder ∈ route.placeholders) : placeholder.1 ≠ "" := by
  obtain ⟨chars, name, valid⟩ := isParamName_of_mem_placeholders read member
  intro empty
  have nothing : chars = [] := String.ofList_eq_empty_iff.1 (name.symm.trans empty)
  rw [nothing] at valid
  cases valid

end RouteParams
