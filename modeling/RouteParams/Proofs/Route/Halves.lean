import RouteParams.Proofs.Route.Reading

/-!
The halves of an interception. The marker of a route is the one that leads the last of the marked pieces
of its pathname, and the halves are what is read from the two parts of the pathname around this marker:
the pieces before that piece, and the rest of the piece with the pieces after it.
-/
namespace RouteParams.Route

open Pathname

variable {normalized : Bool} {pathname token bare : List Char} {earlier later : List (List Char)}
  {marker : Marker} {route : Route}

theorem pathname_of_readChars (read : readChars normalized pathname = .ok route) :
    route.pathname = String.ofList pathname := by
  obtain ⟨halves, _, rfl⟩ := halves_of_readChars read
  cases halves <;> rfl

theorem tokens_of_readChars (read : readChars normalized pathname = .ok route) :
    route.tokens = PathToken.split pathname := by
  obtain ⟨halves, _, rfl⟩ := halves_of_readChars read
  cases halves <;> rfl

theorem texts_of_readChars (read : readChars normalized pathname = .ok route) :
    route.tokens.map PathToken.text = (filled (pieces pathname)).map String.ofList := by
  rw [tokens_of_readChars read, PathToken.split_eq, List.map_map]
  apply List.map_congr_left
  intro piece _
  exact PathToken.text_ofChars piece

theorem read_pathname_of_readChars (read : readChars normalized pathname = .ok route) :
    Route.read normalized route.pathname = .ok route := by
  rw [Route.read, pathname_of_readChars read, String.toList_ofList]
  exact read

/-- A route is halved at a marker that leads a piece of its pathname: the halves are read from the parts
around the marker, in which the marker does not occur again. -/
structure HalvedAt (normalized : Bool) (pathname : String) (route : Route)
    (earlier : List (List Char)) (marker : Marker) (bare : List Char)
    (later : List (List Char)) (before after : Route) : Prop where
  carries : route.marker? = some marker
  precedes : route.before? = some before
  follows : route.after? = some after
  whole : before.pathname ++ marker.text ++ after.pathname = pathname
  absentBefore : ¬marker.chars <:+: before.pathname.toList
  absentAfter : ¬marker.chars <:+: after.pathname.toList
  textsBefore : before.tokens.map PathToken.text = (filled earlier).map String.ofList
  textsAfter : after.tokens.map PathToken.text = (filled (bare :: later)).map String.ofList
  readsBefore : Route.read normalized before.pathname = .ok before
  readsAfter : Route.read normalized after.pathname = .ok after

theorem filled_before (earlier : List (List Char)) : filled (earlier ++ [[]]) = filled earlier := by
  rw [filled_append]
  exact List.append_nil _

theorem halvedAt_of_divides
    (divides : Divides pathname earlier token later marker bare)
    (last : ∀ piece ∈ later, Marker.strip? piece = none)
    (read : readChars normalized pathname = .ok route) :
    ∃ before after, HalvedAt normalized (String.ofList pathname) route earlier marker bare later
      before after := by
  obtain ⟨before, after, single, readsBefore, readsAfter, rfl⟩ := route_of_last divides last read
  have whole := divides.whole
  refine ⟨before, after, rfl, rfl, rfl, ?_, ?_, ?_, ?_, ?_,
    read_pathname_of_readChars readsBefore, read_pathname_of_readChars readsAfter⟩
  · rw [pathname_of_readChars readsBefore, pathname_of_readChars readsAfter, Marker.text,
      ← String.ofList_append, ← String.ofList_append, whole]
  · rw [pathname_of_readChars readsBefore, String.toList_ofList]
    intro inside
    rw [← whole] at single
    exact single (Text.repeats_of_infix_left inside)
  · rw [pathname_of_readChars readsAfter, String.toList_ofList]
    intro inside
    rw [← whole] at single
    exact single (Text.repeats_of_infix_right inside)
  · rw [texts_of_readChars readsBefore, divides.pieces_before, filled_before]
  · rw [texts_of_readChars readsAfter, divides.pieces_after]

/-- The route of a pathname without marked pieces has no halves; otherwise a route is halved at the
marker that leads the last marked piece. -/
theorem halved_at_last_marker {normalized : Bool} {pathname : String} {route : Route}
    (read : Route.read normalized pathname = .ok route) :
    ((∀ piece ∈ pieces pathname.toList, ∀ marker : Marker, ¬marker.chars <+: piece) →
      route.marker? = none ∧ route.before? = none ∧ route.after? = none) ∧
    ∀ earlier token later (marker : Marker) bare,
      pieces pathname.toList = earlier ++ token :: later →
      marker.Leads token → marker.chars ++ bare = token →
      (∀ piece ∈ later, ∀ other : Marker, ¬other.chars <+: piece) →
      ∃ before after, HalvedAt normalized pathname route earlier marker bare later before after := by
  constructor
  · intro unmarked
    have plain := route_of_unmarked
      (fun piece member => Marker.strip?_eq_none_iff.2 (unmarked piece member)) read
    rw [plain]
    exact ⟨rfl, rfl, rfl⟩
  · intro earlier token later marker bare stands leads whole last
    have divides : Divides pathname.toList earlier token later marker bare :=
      ⟨stands, Marker.strip?_eq_some_iff.2 ⟨leads, whole⟩⟩
    have halved := halvedAt_of_divides divides
      (fun piece member => Marker.strip?_eq_none_iff.2 (last piece member)) read
    rwa [String.ofList_toList] at halved

/-- Only the marker of the last marked piece cuts the pathname: not one inside a piece, not that of an
earlier piece, and not the one behind it. -/
theorem halved_among_other_markers :
    let pathname := "/x(.)/(...)a/(..)(..)(.)[id]//end"
    let earlier := [[], "x(.)".toList, "(...)a".toList]
    let later := [[], "end".toList]
    pieces pathname.toList = earlier ++ "(..)(..)(.)[id]".toList :: later ∧
      ∃ route, Route.read true pathname = .ok route ∧
        ∃ before after, HalvedAt true pathname route earlier .twoUp "(.)[id]".toList later
          before after := by
  intro pathname earlier later
  have stands : pieces pathname.toList = earlier ++ "(..)(..)(.)[id]".toList :: later := by
    decide +kernel
  obtain ⟨route, read⟩ : ∃ route, Route.read true pathname = .ok route :=
    exists_of_isOk (by decide +kernel)
  have leads : Marker.twoUp.Leads "(..)(..)(.)[id]".toList := by
    refine ⟨by decide, ?_⟩
    intro other _
    cases other <;> decide
  have last : ∀ piece ∈ later, ∀ other : Marker, ¬other.chars <+: piece := by
    intro piece member other
    cases other <;> revert piece <;> decide
  have halved := (halved_at_last_marker read).2 earlier _ later .twoUp "(.)[id]".toList stands leads
    (by decide) last
  exact ⟨stands, route, read, halved⟩

end RouteParams.Route
