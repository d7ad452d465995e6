import RouteParams.Proofs.Route.Agreement
import RouteParams.Proofs.Route.Spelling

/-!
The three views of a route that was read: all its tokens, those that take a position of the path, and the
placeholders. The tokens are the texts between the slashes of the pathname, and what a token is depends on its
text behind the marker that leads it. Positions are counted among the tokens of the path alone, so the
placeholders are found at the same positions of the path as the texts that declare them.
-/
namespace RouteParams

/-- What is left of a text without the longest marker that leads it, and that marker. A text that no marker
leads is left whole. -/
inductive Marker.Leaves : String → Option Marker → String → Prop
  | marked {text bare : String} {marker : Marker} (leads : marker.Leads text.toList)
      (whole : text = marker.text ++ bare) : Leaves text (some marker) bare
  | whole {text : String} (unmarked : ∀ marker : Marker, ¬marker.chars <+: text.toList) :
      Leaves text none text

namespace TokenKind

/-- Neither a parameter nor a group, so that only the first character matters. -/
def IsOther (bare : String) : Prop :=
  (SegmentForm.ofText bare).isParam = false ∧ (SegmentForm.ofText bare).isGroup = false

/-- The kind of a token whose text behind the marker is given. -/
inductive Fits (bare : String) : TokenKind → Prop
  | placeholder {kind : ParamKind} {name : String} (form : SegmentForm.ofText bare = .param kind name) :
      Fits bare (.placeholder kind name)
  | group {name : String} (form : SegmentForm.ofText bare = .group name) : Fits bare .group
  | parallel (other : IsOther bare) (slotted : bare.toList.head? = some '@') : Fits bare .parallel
  | literal (other : IsOther bare) (unslotted : bare.toList.head? ≠ some '@') : Fits bare .literal

end TokenKind

/-- The text would be a placeholder as a token of a path. -/
def DeclaresPlaceholder (text : String) : Prop :=
  ∃ marker? bare kind name, Marker.Leaves text marker? bare ∧ SegmentForm.ofText bare = .param kind name

namespace Marker

variable {text bare : String} {marker? : Option Marker}

theorem leaves_iff : Leaves text marker? bare ↔
    marker? = (strip? text.toList).map Prod.fst ∧ bare.toList = stripped text.toList := by
  constructor
  · rintro (⟨leads, whole⟩ | unmarked)
    · have strips := strip?_toList_eq_some_iff.2 ⟨leads, whole⟩
      rw [stripped, strips]
      exact ⟨rfl, rfl⟩
    · have unled := strip?_eq_none_iff.2 unmarked
      rw [stripped_of_unmarked unled, unled]
      exact ⟨rfl, rfl⟩
  · rintro ⟨rfl, rest⟩
    cases strips : strip? text.toList with
    | none =>
      rw [stripped_of_unmarked strips, String.toList_inj] at rest
      rw [rest]
      exact .whole (strip?_eq_none_iff.1 strips)
    | some found =>
      rw [stripped, strips] at rest
      obtain ⟨leads, whole⟩ := strip?_toList_eq_some_iff.1 (strips.trans (by rw [rest]))
      exact .marked leads whole

end Marker

namespace TokenKind

variable {bare : String} {kind : TokenKind}

theorem ofChars_of_isOther (other : IsOther bare) :
    ofChars bare.toList = if bare.toList.head? = some '@' then .parallel else .literal := by
  obtain ⟨unnamed, ungrouped⟩ := other
  rw [SegmentForm.ofText] at unnamed ungrouped
  rw [ofChars]
  cases form : SegmentForm.ofChars bare.toList with
  | param kind name =>
    rw [form] at unnamed
    cases unnamed
  | group name =>
    rw [form] at ungrouped
    cases ungrouped
  | root | interception | literal => rfl

theorem fits_iff : Fits bare kind ↔ ofChars bare.toList = kind := by
  constructor
  · rintro (form | form | ⟨other, slotted⟩ | ⟨other, unslotted⟩)
    · rw [SegmentForm.ofText] at form
      rw [ofChars, form]
    · rw [SegmentForm.ofText] at form
      rw [ofChars, form]
    · rw [ofChars_of_isOther other, if_pos slotted]
    · rw [ofChars_of_isOther other, if_neg unslotted]
  · rintro rfl
    rw [ofChars]
    cases form : SegmentForm.ofChars bare.toList with
    | param kind name => exact .placeholder form
    | group name => exact .group form
    | root | interception | literal =>
      have other : IsOther bare := by
        rw [IsOther, SegmentForm.ofText, form]
        exact ⟨rfl, rfl⟩
      dsimp only
      split
      · rename_i slotted
        exact .parallel other slotted
      · rename_i unslotted
        exact .literal other unslotted

end TokenKind

namespace PathToken

variable {token : PathToken}

theorem isPlaceholder_iff :
    token.isPlaceholder = true ↔ ∃ kind name, token.kind = .placeholder kind name := by
  rw [isPlaceholder]
  cases token.kind <;> simp

theorem inPath_of_isPlaceholder (placeholder : token.isPlaceholder = true) : token.inPath = true := by
  obtain ⟨kind, name, same⟩ := isPlaceholder_iff.1 placeholder
  rw [inPath, same]

theorem inPath_eq_label (token : PathToken) :
    token.inPath = (token.kind.label == "static" || token.kind.label == "dynamic") := by
  rw [inPath]
  cases token.kind <;> rfl

theorem isPlaceholder_ofChars_iff {text : String} :
    (ofChars text.toList).isPlaceholder = true ↔ DeclaresPlaceholder text := by
  rw [isPlaceholder_iff, kind_ofChars]
  constructor
  · rintro ⟨kind, name, placed⟩
    have rest : (String.ofList (Marker.stripped text.toList)).toList = Marker.stripped text.toList :=
      String.toList_ofList
    rw [← rest] at placed
    cases TokenKind.fits_iff.2 placed with
    | placeholder form => exact ⟨_, _, kind, name, Marker.leaves_iff.2 ⟨rfl, rest⟩, form⟩
  · rintro ⟨marker?, bare, kind, name, leaves, form⟩
    refine ⟨kind, name, ?_⟩
    rw [← (Marker.leaves_iff.1 leaves).2]
    exact TokenKind.fits_iff.1 (.placeholder form)

end PathToken

namespace Route

/-- The positions of the path that hold placeholders, in order. -/
def placeholderPositions (route : Route) : List Nat :=
  (List.range route.path.length).filter fun position => route.isPlaceholder position

/-- The route shows its pathname token by token, and its three views are aligned. -/
structure ShowsTokens (pathname : String) (route : Route) : Prop where
  texts : route.tokens.map PathToken.text =
    (Pathname.filled (Pathname.pieces pathname.toList)).map String.ofList
  kinds : ∀ token ∈ route.tokens, ∃ bare,
    (∀ marker? rest, Marker.Leaves token.text marker? rest ↔ token.marker? = marker? ∧ bare = rest) ∧
    ∀ kind, TokenKind.Fits bare kind ↔ token.kind = kind
  path : route.pathTexts = (route.tokens.filter fun token =>
    token.kind.label == "static" || token.kind.label == "dynamic").map PathToken.text
  positions : ∀ index : Int, route.isPlaceholder index = true ↔
    0 ≤ index ∧ index < route.pathTexts.length ∧
      ∃ text, route.pathTexts[index.toNat]? = some text ∧ DeclaresPlaceholder text
  dynamic : route.tokens.filter PathToken.isPlaceholder =
    route.placeholderPositions.filterMap fun position => route.path[position]?
  declared : List.Forall₂
    (fun token placeholder => token.kind = .placeholder placeholder.2 placeholder.1)
    (route.tokens.filter PathToken.isPlaceholder) route.placeholders
  named : ∀ placeholder ∈ route.placeholders, SegmentForm.NamesParam placeholder.1

variable {normalized : Bool} {pathname : List Char} {route : Route}

theorem kinds_of_readChars (read : readChars normalized pathname = .ok route) :
    ∀ token ∈ route.tokens, ∃ bare,
      (∀ marker? rest, Marker.Leaves token.text marker? rest ↔ token.marker? = marker? ∧ bare = rest) ∧
      ∀ kind, TokenKind.Fits bare kind ↔ token.kind = kind := by
  intro token member
  rw [tokens_of_readChars read] at member
  obtain ⟨piece, _, _, rfl⟩ := PathToken.mem_split_iff.1 member
  have bare : (String.ofList (Marker.stripped piece)).toList = Marker.stripped piece :=
    String.toList_ofList
  refine ⟨String.ofList (Marker.stripped piece), ?_, ?_⟩
  · intro marker? rest
    rw [Marker.leaves_iff, PathToken.text_ofChars, String.toList_ofList, PathToken.marker?_ofChars,
      ← String.toList_inj, bare, eq_comm (a := marker?), eq_comm (b := rest.toList)]
  · intro kind
    rw [TokenKind.fits_iff, bare, PathToken.kind_ofChars]

theorem isPlaceholder_iff_path (route : Route) (index : Int) : route.isPlaceholder index = true ↔
    0 ≤ index ∧ ∃ token, route.path[index.toNat]? = some token ∧ token.isPlaceholder = true := by
  cases index with
  | ofNat position =>
    rw [isPlaceholder, Option.any_eq_true]
    simp
  | negSucc position => simp [isPlaceholder]

theorem positions_of_readChars (read : readChars normalized pathname = .ok route) (index : Int) :
    route.isPlaceholder index = true ↔ 0 ≤ index ∧ index < route.pathTexts.length ∧
      ∃ text, route.pathTexts[index.toNat]? = some text ∧ DeclaresPlaceholder text := by
  have isRead : route.IsRead :=
    ⟨normalized, String.ofList pathname, by rwa [Route.read, String.toList_ofList]⟩
  rw [isPlaceholder_iff_path, getElem?_path isRead]
  constructor
  · rintro ⟨natural, token, here, placeholder⟩
    obtain ⟨text, found, rfl⟩ := Option.map_eq_some_iff.1 here
    obtain ⟨inside, _⟩ := List.getElem?_eq_some_iff.1 found
    exact ⟨natural, by omega, text, found, PathToken.isPlaceholder_ofChars_iff.1 placeholder⟩
  · rintro ⟨natural, _, text, here, declares⟩
    rw [here]
    exact ⟨natural, _, rfl, PathToken.isPlaceholder_ofChars_iff.2 declares⟩

theorem filterMap_getElem?_range {α : Type} (items : List α) :
    (List.range items.length).filterMap (fun index => items[index]?) = items := by
  induction items with
  | nil => rfl
  | cons item rest ih =>
    rw [List.length_cons, List.range_succ_eq_map, List.filterMap_cons, List.filterMap_map]
    exact congrArg (item :: ·) ih

theorem dynamic_eq (route : Route) : route.tokens.filter PathToken.isPlaceholder =
    route.placeholderPositions.filterMap fun position => route.path[position]? := by
  have within : route.tokens.filter PathToken.isPlaceholder = route.path.filter PathToken.isPlaceholder := by
    rw [path, List.filter_filter]
    apply List.filter_congr
    intro token _
    cases placeholder : token.isPlaceholder with
    | false => rfl
    | true => rw [PathToken.inPath_of_isPlaceholder placeholder, Bool.and_self]
  rw [within, placeholderPositions, List.filterMap_filter]
  conv_lhs => rw [← filterMap_getElem?_range route.path, List.filter_filterMap]
  apply List.filterMap_congr
  intro position _
  change (route.path[position]?).filter _ = if (route.path[position]?).any _ then _ else _
  cases route.path[position]? <;> rfl

theorem declared_eq_placeholders (route : Route) :
    List.Forall₂ (fun token placeholder => token.kind = .placeholder placeholder.2 placeholder.1)
      (route.tokens.filter PathToken.isPlaceholder) route.placeholders := by
  rw [placeholders]
  induction route.tokens with
  | nil => exact .nil
  | cons token rest ih =>
    rw [List.filter_cons, PathToken.isPlaceholder, List.filterMap_cons]
    cases kind : token.kind with
    | placeholder => exact .cons kind ih
    | literal | group | parallel => exact ih

/-- A route that was read shows its pathname token by token: the tokens are the texts between the slashes, each
of the kind that its text behind the marker says; the path holds the static and dynamic ones; a position holds a
placeholder if it lies in the path and the text there declares one; and the placeholders are the tokens of the
path at these positions, under names that are not empty and hold no bracket. -/
theorem shows_tokens {normalized : Bool} {pathname : String} {route : Route}
    (read : Route.read normalized pathname = .ok route) : route.ShowsTokens pathname := by
  refine ⟨texts_of_readChars read, kinds_of_readChars read, ?_, positions_of_readChars read,
    dynamic_eq route, declared_eq_placeholders route, ?_⟩
  · rw [pathTexts, path]
    exact congrArg _ (List.filter_congr fun token _ => token.inPath_eq_label)
  · intro placeholder member
    obtain ⟨chars, name, valid⟩ := isParamName_of_mem_placeholders read member
    rw [← String.toList_ofList (l := chars), ← name] at valid
    exact SegmentForm.isParamName_iff.1 valid

/-- Empty texts, a group, a parallel route behind a marker and a marker with nothing behind it stand between two
placeholders, the first of them behind a marker. -/
theorem shows_tokens_between_placeholders :
    let pathname := "/(.)[id]//(shop)/(..)@side/(...)/[[...rest]]\n/"
    ∃ route, Route.read false pathname = .ok route ∧ route.ShowsTokens pathname ∧
      route.pathTexts = ["(.)[id]", "(...)", "[[...rest]]\n"] ∧
      [-1, 0, 1, 2, 3].map route.isPlaceholder = [false, true, false, true, false] ∧
      route.placeholders = [("id", .dynamic), ("rest", .optionalCatchAll)] := by
  intro pathname
  obtain ⟨route, read⟩ : ∃ route, Route.read false pathname = .ok route :=
    exists_of_isOk (by decide +kernel)
  have tokens := tokens_of_readChars read
  refine ⟨route, read, shows_tokens read, ?_, ?_, ?_⟩
  · rw [pathTexts, path, tokens]
    decide +kernel
  · simp only [List.map_cons, List.map_nil, isPlaceholder, path, tokens]
    decide +kernel
  · rw [placeholders, tokens]
    decide +kernel

end Route
end RouteParams
