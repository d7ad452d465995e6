import Mathlib.Data.List.Infix
import RouteParams.Proofs.Route.Acceptance
import RouteParams.Proofs.Route.Halves

/-!
Tokens that stand aside. A group or a parallel route in which no marker occurs takes no position of the path
and bears on no marker, and neither does the empty text between two slashes. The other pieces of a pathname
are its essential ones: they alone decide whether a reading accepts the pathname, and what its route and the
halves of its route show of the path.
-/
namespace RouteParams

/-- A group or a parallel route in which no marker occurs. -/
structure IsAside (token : List Char) : Prop where
  outside : (PathToken.ofChars token).kind = .group ∨ (PathToken.ofChars token).kind = .parallel
  unmarked : ∀ marker : Marker, ¬marker.chars <:+: token

instance (token : List Char) : Decidable (IsAside token) :=
  decidable_of_iff
    (((PathToken.ofChars token).kind = .group ∨ (PathToken.ofChars token).kind = .parallel) ∧
      ∀ marker ∈ Marker.longestFirst, ¬marker.chars <:+: token)
    ⟨fun aside => ⟨aside.1, fun marker => aside.2 marker marker.mem_longestFirst⟩,
      fun aside => ⟨aside.outside, fun marker _ => aside.unmarked marker⟩⟩

namespace Pathname

/-- The second list is what is left of the first when some tokens that stand aside are deleted. -/
inductive Thins : List (List Char) → List (List Char) → Prop
  | nil : Thins [] []
  | kept (token : List Char) {tokens others : List (List Char)} (thins : Thins tokens others) :
      Thins (token :: tokens) (token :: others)
  | deleted {token : List Char} {tokens others : List (List Char)} (aside : IsAside token)
      (thins : Thins tokens others) : Thins (token :: tokens) others

/-- The pieces that are neither empty nor stand aside. -/
def essential (parts : List (List Char)) : List (List Char) :=
  parts.filter fun piece => !decide (IsAside piece) && !piece.isEmpty

variable {piece : List Char} {parts parts' earlier later : List (List Char)} {marker : Marker}

theorem essential_eq_filter_filled (parts : List (List Char)) :
    essential parts = (filled parts).filter fun piece => !decide (IsAside piece) :=
  (List.filter_filter).symm

theorem mem_essential : piece ∈ essential parts ↔ piece ∈ parts ∧ ¬IsAside piece ∧ piece ≠ [] := by
  simp [essential]

theorem essential_append (first second : List (List Char)) :
    essential (first ++ second) = essential first ++ essential second :=
  List.filter_append first second

theorem essential_cons (aside : ¬IsAside piece) (nonempty : piece ≠ []) (rest : List (List Char)) :
    essential (piece :: rest) = piece :: essential rest :=
  List.filter_cons_of_pos (by simp [aside, nonempty])

theorem essential_cons_congr (same : essential parts = essential parts') (piece : List Char) :
    essential (piece :: parts) = essential (piece :: parts') := by
  have first := essential_append [piece] parts
  have second := essential_append [piece] parts'
  rw [← same] at second
  exact first.trans second.symm

theorem essential_of_thins (thins : Thins (filled parts) (filled parts')) :
    essential parts = essential parts' := by
  rw [essential_eq_filter_filled, essential_eq_filter_filled]
  generalize filled parts = tokens at thins ⊢
  generalize filled parts' = others at thins ⊢
  induction thins with
  | nil => rfl
  | kept token _ ih => rw [List.filter_cons, List.filter_cons, ih]
  | deleted aside _ ih => rw [List.filter_cons_of_neg (by simp [aside]), ih]

/-- An essential piece stands in every list with the same essential pieces, between the same others. -/
theorem split_of_essential (aside : ¬IsAside piece) (nonempty : piece ≠ [])
    (same : essential parts = essential (earlier ++ piece :: later)) :
    ∃ earlier' later', parts = earlier' ++ piece :: later' ∧
      essential earlier' = essential earlier ∧ essential later' = essential later := by
  rw [essential_append, essential_cons aside nonempty] at same
  obtain ⟨before, behind, rfl, sameBefore, sameBehind⟩ := List.filter_eq_append_iff.1 same
  obtain ⟨between, after, rfl, skipped, _, sameAfter⟩ := List.filter_eq_cons_iff.1 sameBehind
  have nothing : essential between = [] := List.filter_eq_nil_iff.2 skipped
  refine ⟨before ++ between, after, (List.append_assoc _ _ _).symm, ?_, sameAfter⟩
  rw [essential_append, nothing, List.append_nil]
  exact sameBefore

/-! ## Markers -/

theorem not_isAside_of_occurs (inside : marker.chars <:+: piece) : ¬IsAside piece ∧ piece ≠ [] := by
  constructor
  · intro aside
    exact aside.unmarked marker inside
  · rintro rfl
    exact marker.chars_ne_nil (List.infix_nil.1 inside)

theorem infix_of_strip? {bare : List Char} (strips : Marker.strip? piece = some (marker, bare)) :
    marker.chars <:+: piece :=
  (Marker.leads_of_strip? strips).1.begins.isInfix

theorem unmarked_of_essential (same : essential parts = essential parts')
    (unmarked : ∀ piece ∈ parts', Marker.strip? piece = none) :
    ∀ piece ∈ parts, Marker.strip? piece = none := by
  intro piece member
  cases strips : Marker.strip? piece with
  | none => rfl
  | some found =>
    have essential := mem_essential.2 ⟨member, not_isAside_of_occurs (infix_of_strip? strips)⟩
    rw [same] at essential
    have absent := unmarked piece (mem_essential.1 essential).1
    cases absent.symm.trans strips

theorem occurrences_join_cons (marker : Marker) (piece : List Char) (rest : List (List Char)) :
    Text.occurrences marker.chars (join (piece :: rest)) =
      Text.occurrences marker.chars piece + Text.occurrences marker.chars (join rest) := by
  cases rest with
  | nil =>
    have nothing : Text.occurrences marker.chars (join []) = 0 := by
      rw [join, List.intercalate_nil, Text.occurrences]
    rw [join_singleton, nothing]
    rfl
  | cons next rest =>
    rw [join_cons_cons]
    exact Text.occurrences_separated marker.slash_not_mem_chars marker.chars_ne_nil piece _

/-- The markers in a pathname occur in its essential pieces. -/
theorem occurrences_join_essential (marker : Marker) (parts : List (List Char)) :
    Text.occurrences marker.chars (join (essential parts)) =
      Text.occurrences marker.chars (join parts) := by
  induction parts with
  | nil => rfl
  | cons piece rest ih =>
    by_cases counts : ¬IsAside piece ∧ piece ≠ []
    · rw [essential_cons counts.1 counts.2, occurrences_join_cons, occurrences_join_cons, ih]
    · have skipped : essential (piece :: rest) = essential rest := by
        apply List.filter_cons_of_neg
        simpa using counts
      have absent : ¬marker.chars <:+: piece := fun inside => counts (not_isAside_of_occurs inside)
      have none : Text.occurrences marker.chars piece = 0 := by
        rw [← Text.occurrences_pos_iff marker.chars_ne_nil] at absent
        omega
      rw [skipped, ih, occurrences_join_cons, none, Nat.zero_add]

theorem repeats_join_congr (same : essential parts = essential parts') (marker : Marker) :
    Text.Repeats marker.chars (join parts) ↔ Text.Repeats marker.chars (join parts') := by
  rw [← Text.one_lt_occurrences_iff marker.chars_ne_nil,
    ← Text.one_lt_occurrences_iff marker.chars_ne_nil, ← occurrences_join_essential, same,
    occurrences_join_essential]

end Pathname

namespace Route

open Pathname

variable {pathname other : List Char} {route route' : Route}

theorem repeats_reach_congr {later later' : List (List Char)} {index : Nat} {stage : List Char}
    (same : essential (pieces pathname) = essential (pieces other))
    (sameLater : essential later = essential later') (marker : Marker) :
    Text.Repeats marker.chars (reach pathname later index stage) ↔
      Text.Repeats marker.chars (reach other later' index stage) := by
  cases index with
  | zero =>
    have whole := repeats_join_congr same marker
    rw [join_pieces, join_pieces] at whole
    exact whole
  | succ index => exact repeats_join_congr (essential_cons_congr sameLater stage) marker

theorem legible_of_essential (same : essential (pieces pathname) = essential (pieces other))
    (legible : Legible false pathname) : Legible false other := by
  rintro earlier' piece later' index stage ⟨stands, reached⟩
  refine ⟨Bool.noConfusion, ?_⟩
  intro marker leads repeats
  -- The marker that leads the stage makes its piece an essential one, which the first pathname has too.
  have inside : marker.chars <:+: piece :=
    leads.begins.isInfix.trans (Marker.suffix_of_mem_stages (List.mem_of_getElem? reached)).isInfix
  obtain ⟨aside, nonempty⟩ := not_isAside_of_occurs inside
  have split := same
  rw [stands] at split
  obtain ⟨earlier, later, standsToo, _, sameLater⟩ := split_of_essential aside nonempty split
  have fits := legible earlier piece later index stage ⟨standsToo, reached⟩
  exact fits.single marker leads ((repeats_reach_congr same sameLater marker).2 repeats)

/-! ## What a route shows -/

theorem filter_split_eq {p : PathToken → Bool}
    (silent : ∀ token, IsAside token → p (.ofChars token) = false) (pathname : List Char) :
    (PathToken.split pathname).filter p =
      ((essential (pieces pathname)).map PathToken.ofChars).filter p := by
  rw [PathToken.split_eq, essential_eq_filter_filled, List.filter_map, List.filter_map,
    List.filter_filter]
  congr 1
  apply List.filter_congr
  intro token _
  by_cases aside : IsAside token
  · simp [silent token aside]
  · simp [aside]

theorem filter_tokens_eq {p : PathToken → Bool}
    (silent : ∀ token, IsAside token → p (.ofChars token) = false)
    (same : essential (pieces pathname) = essential (pieces other))
    (read : readChars false pathname = .ok route) (read' : readChars false other = .ok route') :
    route'.tokens.filter p = route.tokens.filter p := by
  rw [tokens_of_readChars read, tokens_of_readChars read', filter_split_eq silent,
    filter_split_eq silent, same]

theorem path_eq_of_essential (same : essential (pieces pathname) = essential (pieces other))
    (read : readChars false pathname = .ok route) (read' : readChars false other = .ok route') :
    route'.path = route.path := by
  apply filter_tokens_eq _ same read read'
  intro token aside
  rcases aside.outside with group | parallel
  · rw [PathToken.inPath, group]
  · rw [PathToken.inPath, parallel]

theorem placeholders_eq_filterMap (route : Route) :
    route.placeholders = (route.tokens.filter PathToken.isPlaceholder).filterMap fun token =>
      match token.kind with
      | .placeholder kind name => some (name, kind)
      | _ => none := by
  rw [placeholders, List.filterMap_filter]
  apply List.filterMap_congr
  intro token _
  rw [PathToken.isPlaceholder]
  cases token.kind <;> rfl

/-- The second route shows the same path as the first, with the same placeholders and the same marker, and
so do the halves of the two routes. -/
structure ShowsAlike (route route' : Route) : Prop where
  pathTexts : route'.pathTexts = route.pathTexts
  dynamic : route'.tokens.filter PathToken.isPlaceholder = route.tokens.filter PathToken.isPlaceholder
  placeholders : route'.placeholders = route.placeholders
  isPlaceholder : ∀ index : Int, route'.isPlaceholder index = route.isPlaceholder index
  marker : route'.marker? = route.marker?
  before : route'.before?.map Route.pathTexts = route.before?.map Route.pathTexts
  after : route'.after?.map Route.pathTexts = route.after?.map Route.pathTexts

theorem halves_of_essential (same : essential (pieces pathname) = essential (pieces other))
    (read : readChars false pathname = .ok route) (read' : readChars false other = .ok route') :
    route'.marker? = route.marker? ∧
      route'.before?.map Route.pathTexts = route.before?.map Route.pathTexts ∧
      route'.after?.map Route.pathTexts = route.after?.map Route.pathTexts := by
  rcases exists_last_marked (pieces pathname) with
    unmarked | ⟨earlier, token, later, marker, bare, stands, strips, last⟩
  · have unmarked' := unmarked_of_essential same.symm unmarked
    rw [route_of_unmarked unmarked read, route_of_unmarked unmarked' read']
    exact ⟨rfl, rfl, rfl⟩
  · obtain ⟨aside, nonempty⟩ := not_isAside_of_occurs (infix_of_strip? strips)
    have split := same.symm
    rw [stands] at split
    obtain ⟨earlier', later', stands', sameEarlier, sameLater⟩ :=
      split_of_essential aside nonempty split
    have last' := unmarked_of_essential sameLater last
    have divides : Divides pathname earlier token later marker bare := ⟨stands, strips⟩
    have divides' : Divides other earlier' token later' marker bare := ⟨stands', strips⟩
    obtain ⟨before, after, _, readBefore, readAfter, rfl⟩ := route_of_last divides last read
    obtain ⟨before', after', _, readBefore', readAfter', rfl⟩ := route_of_last divides' last' read'
    have sameBefore : before'.path = before.path := by
      apply path_eq_of_essential _ readBefore readBefore'
      rw [divides.pieces_before, divides'.pieces_before, essential_append, essential_append,
        sameEarlier]
    have sameAfter : after'.path = after.path := by
      apply path_eq_of_essential _ readAfter readAfter'
      rw [divides.pieces_after, divides'.pieces_after]
      exact essential_cons_congr sameLater.symm bare
    have textsBefore : before'.pathTexts = before.pathTexts := congrArg (List.map _) sameBefore
    have textsAfter : after'.pathTexts = after.pathTexts := congrArg (List.map _) sameAfter
    exact ⟨rfl, congrArg some textsBefore, congrArg some textsAfter⟩

theorem showsAlike_of_essential (same : essential (pieces pathname) = essential (pieces other))
    (read : readChars false pathname = .ok route) (read' : readChars false other = .ok route') :
    ShowsAlike route route' := by
  have path := path_eq_of_essential same read read'
  have dynamic : route'.tokens.filter PathToken.isPlaceholder =
      route.tokens.filter PathToken.isPlaceholder := by
    apply filter_tokens_eq _ same read read'
    intro token aside
    rcases aside.outside with group | parallel
    · rw [PathToken.isPlaceholder, group]
    · rw [PathToken.isPlaceholder, parallel]
  obtain ⟨marker, before, after⟩ := halves_of_essential same read read'
  refine ⟨?_, dynamic, ?_, ?_, marker, before, after⟩
  · rw [pathTexts, pathTexts, path]
  · rw [placeholders_eq_filterMap, placeholders_eq_filterMap, dynamic]
  · intro index
    cases index with
    | ofNat index => rw [isPlaceholder, isPlaceholder, path]
    | negSucc index => rfl

/-- A reading accepts a pathname if it accepts one with the same essential pieces. -/
theorem readable_of_essential (same : essential (pieces pathname) = essential (pieces other))
    (readable : Readable false pathname) : Readable false other := by
  rw [readable_iff_legible] at readable ⊢
  exact legible_of_essential same readable

end Route
end RouteParams
