import RouteParams.Proofs.Route.Acceptance

/-!
Normalized reading. The tokens of a route and of the routes nested in it are the stages of the pieces of
its pathname, so no group that a reading meets in a part it throws away is missing from the route that it
returns. A normalized reading therefore accepts a pathname exactly if the other reading accepts it and
returns a route without groups and parallel routes at any depth, and the two routes differ in their flags
only.
-/
namespace RouteParams

open Pathname

theorem PathToken.inPath_iff {token : PathToken} :
    token.inPath = true ↔ token.kind ≠ .group ∧ token.kind ≠ .parallel := by
  rw [inPath]
  cases token.kind <;> simp

namespace Route

/-- A route and the routes nested in it, at any depth. -/
def nested : Route → List Route
  | .plain pathname normalized tokens => [.plain pathname normalized tokens]
  | .interception pathname normalized tokens marker before after =>
    .interception pathname normalized tokens marker before after :: (before.nested ++ after.nested)

/-- The route with another flag, at every depth. -/
def flagged (normalized : Bool) : Route → Route
  | .plain pathname _ tokens => .plain pathname normalized tokens
  | .interception pathname _ tokens marker before after =>
    .interception pathname normalized tokens marker (before.flagged normalized)
      (after.flagged normalized)

def Holds (route : Route) (token : PathToken) : Prop :=
  ∃ part ∈ route.nested, token ∈ part.tokens

theorem holds_plain_iff {pathname : String} {normalized : Bool} {tokens : List PathToken}
    {token : PathToken} : (plain pathname normalized tokens).Holds token ↔ token ∈ tokens := by
  simp [Holds, nested, Route.tokens]

theorem holds_interception_iff {pathname : String} {normalized : Bool} {tokens : List PathToken}
    {marker : Marker} {before after : Route} {token : PathToken} :
    (interception pathname normalized tokens marker before after).Holds token ↔
      token ∈ tokens ∨ before.Holds token ∨ after.Holds token := by
  simp [Holds, nested, Route.tokens, or_and_right, exists_or]

end Route

namespace Pathname

/-- A token is a stage of one of the pieces. -/
def Staged (parts : List (List Char)) (token : PathToken) : Prop :=
  ∃ piece ∈ parts, ∃ stage ∈ Marker.stages piece, stage ≠ [] ∧ PathToken.ofChars stage = token

variable {token : PathToken} {piece bare : List Char} {marker : Marker}

theorem staged_append (first second : List (List Char)) :
    Staged (first ++ second) token ↔ Staged first token ∨ Staged second token := by
  simp only [Staged, List.mem_append, or_and_right, exists_or]

theorem staged_cons (piece : List Char) (rest : List (List Char)) :
    Staged (piece :: rest) token ↔ Staged [piece] token ∨ Staged rest token :=
  staged_append [piece] rest

theorem staged_of_unmarked (unmarked : Marker.strip? piece = none) :
    Staged [piece] token ↔ piece ≠ [] ∧ PathToken.ofChars piece = token := by
  simp [Staged, Marker.stages_of_unmarked unmarked]

theorem staged_of_strip? (strips : Marker.strip? piece = some (marker, bare)) :
    Staged [piece] token ↔ PathToken.ofChars piece = token ∨ Staged [bare] token := by
  have nonempty : piece ≠ [] := by
    rintro rfl
    cases strips
  simp [Staged, Marker.stages_of_strip? strips, nonempty]

theorem not_staged_nil : ¬Staged [[]] token := by
  rw [staged_of_unmarked rfl]
  exact fun staged => staged.1 rfl

theorem staged_of_mem_split {pathname : List Char} (member : token ∈ PathToken.split pathname) :
    Staged (pieces pathname) token := by
  obtain ⟨piece, among, nonempty, same⟩ := PathToken.mem_split_iff.1 member
  have first : piece ∈ Marker.stages piece :=
    List.mem_of_getElem? (Marker.getElem?_stages_zero piece)
  exact ⟨piece, among, piece, first, nonempty, same⟩

end Pathname

namespace Route

variable {normalized : Bool} {pathname : List Char} {route : Route}

/-- The tokens that a route holds at any depth are the stages of the pieces of its pathname. -/
theorem holds_iff_staged (read : readChars normalized pathname = .ok route) (token : PathToken) :
    route.Holds token ↔ Staged (pieces pathname) token := by
  induction read using readChars_induct with
  | plain pathname _ unmarked =>
    rw [holds_plain_iff]
    constructor
    · exact staged_of_mem_split
    · rintro ⟨piece, among, stage, reached, nonempty, same⟩
      rw [Marker.stages_of_unmarked (unmarked piece among), List.mem_singleton] at reached
      subst reached
      exact PathToken.mem_split_iff.2 ⟨stage, among, nonempty, same⟩
  | @halved pathname earlier piece later _ bare _ _ _ _ _ divides _ inBefore inAfter =>
    rw [holds_interception_iff, inBefore, inAfter, divides.pieces_before, divides.pieces_after,
      staged_append, staged_cons bare]
    have whole : Staged (pieces pathname) token ↔
        Staged earlier token ∨ (PathToken.ofChars piece = token ∨ Staged [bare] token) ∨
          Staged later token := by
      rw [divides.stands, staged_append, staged_cons piece, staged_of_strip? divides.strips]
    constructor
    · rintro (member | (early | empty) | (rest | late))
      · exact staged_of_mem_split member
      · exact whole.2 (.inl early)
      · exact absurd empty not_staged_nil
      · exact whole.2 (.inr (.inl (.inr rest)))
      · exact whole.2 (.inr (.inr late))
    · intro staged
      rcases whole.1 staged with early | (same | rest) | late
      · exact .inr (.inl (.inl early))
      · refine .inl (PathToken.mem_split_iff.2 ⟨piece, ?_, divides.nonempty, same⟩)
        rw [divides.stands]
        exact List.mem_append_right _ List.mem_cons_self
      · exact .inr (.inr (.inl rest))
      · exact .inr (.inr (.inr late))

theorem inPath_nested_iff (read : readChars normalized pathname = .ok route) :
    (∀ part ∈ route.nested, ∀ token ∈ part.tokens, token.inPath = true) ↔
      ∀ piece ∈ pieces pathname, ∀ stage ∈ Marker.stages piece,
        (PathToken.ofChars stage).inPath = true := by
  constructor
  · intro clear piece among stage reached
    by_cases empty : stage = []
    · rw [empty]
      exact PathToken.inPath_ofChars_nil
    · have staged : Staged (pieces pathname) (.ofChars stage) :=
        ⟨piece, among, stage, reached, empty, rfl⟩
      obtain ⟨part, inside, member⟩ := (holds_iff_staged read _).2 staged
      exact clear part inside _ member
  · intro clear part inside token member
    obtain ⟨piece, among, stage, reached, _, rfl⟩ :=
      (holds_iff_staged read token).1 ⟨part, inside, member⟩
    exact clear piece among stage reached

theorem legible_true_iff :
    Legible true pathname ↔ Legible false pathname ∧
      ∀ piece ∈ pieces pathname, ∀ stage ∈ Marker.stages piece,
        (PathToken.ofChars stage).inPath = true := by
  constructor
  · intro legible
    constructor
    · intro earlier piece later index stage exposed
      exact ⟨Bool.noConfusion, (legible _ _ _ _ _ exposed).single⟩
    · intro piece among stage reached
      obtain ⟨earlier, later, stands⟩ := List.append_of_mem among
      obtain ⟨index, reached⟩ := List.mem_iff_getElem?.1 reached
      exact (legible earlier piece later index stage ⟨stands, reached⟩).allowed rfl
  · rintro ⟨legible, clear⟩ earlier piece later index stage exposed
    have among : piece ∈ pieces pathname := by
      rw [exposed.stands]
      exact List.mem_append_right _ List.mem_cons_self
    have allowed := clear piece among stage (List.mem_of_getElem? exposed.reached)
    exact ⟨fun _ => allowed, (legible _ _ _ _ _ exposed).single⟩

/-- Two readings of a pathname differ in their flags only. -/
theorem eq_flagged {other : Bool} {second : Route}
    (read : readChars normalized pathname = .ok route)
    (reads : readChars other pathname = .ok second) : route = second.flagged normalized := by
  induction read using readChars_induct generalizing second with
  | plain _ _ unmarked =>
    rw [route_of_unmarked unmarked reads]
    rfl
  | halved _ divides last sameBefore sameAfter =>
    obtain ⟨before', after', _, readsBefore, readsAfter, rfl⟩ := route_of_last divides last reads
    rw [sameBefore readsBefore, sameAfter readsAfter]
    rfl

/-- The first route answers as the second does, but for its flag and the flags of its halves. -/
structure Reflags (normalized : Bool) (route other : Route) : Prop where
  flag : route.normalized = normalized
  pathname : route.pathname = other.pathname
  tokens : route.tokens = other.tokens
  pathTexts : route.pathTexts = other.pathTexts
  placeholders : route.placeholders = other.placeholders
  marker : route.marker? = other.marker?
  before : route.before? = other.before?.map (flagged normalized)
  after : route.after? = other.after?.map (flagged normalized)

theorem reflags_flagged (normalized : Bool) (route : Route) :
    Reflags normalized (route.flagged normalized) route := by
  cases route with
  | plain => exact ⟨rfl, rfl, rfl, rfl, rfl, rfl, rfl, rfl⟩
  | interception => exact ⟨rfl, rfl, rfl, rfl, rfl, rfl, rfl, rfl⟩

/-- A normalized reading accepts what the other reading accepts without a group or a parallel route in
the route returned or nested in it; where both accept, they return the same but for the flags. -/
theorem read_normalized (pathname : String) :
    ((∃ route, Route.read true pathname = .ok route) ↔
      ∃ route, Route.read false pathname = .ok route ∧
        ∀ part ∈ route.nested, ∀ token ∈ part.tokens,
          token.kind ≠ .group ∧ token.kind ≠ .parallel) ∧
    ∀ strict loose, Route.read true pathname = .ok strict →
      Route.read false pathname = .ok loose →
        strict = loose.flagged true ∧ loose = strict.flagged false ∧ Reflags true strict loose := by
  constructor
  · simp only [← PathToken.inPath_iff]
    have strict := readable_iff_legible true pathname.toList
    have loose := readable_iff_legible false pathname.toList
    refine strict.trans (legible_true_iff.trans ?_)
    rw [← loose]
    constructor
    · rintro ⟨⟨route, read⟩, clear⟩
      exact ⟨route, read, (inPath_nested_iff read).2 clear⟩
    · rintro ⟨route, read, clear⟩
      exact ⟨⟨route, read⟩, (inPath_nested_iff read).1 clear⟩
  · intro strict loose readStrict readLoose
    have same := eq_flagged readStrict readLoose
    have reflags := reflags_flagged true loose
    rw [← same] at reflags
    exact ⟨same, eq_flagged readLoose readStrict, reflags⟩

/-- Both readings go through two markers, the second of them behind the first. -/
theorem read_normalized_behind_markers :
    let pathname := "/a/(.)(...)b/(..)[id]"
    ∃ strict loose, Route.read true pathname = .ok strict ∧
      Route.read false pathname = .ok loose ∧
      strict = loose.flagged true ∧ loose = strict.flagged false ∧ Reflags true strict loose := by
  intro pathname
  obtain ⟨strict, readStrict⟩ : ∃ route, Route.read true pathname = .ok route :=
    exists_of_isOk (by decide +kernel)
  obtain ⟨loose, readLoose, _⟩ := (read_normalized pathname).1.1 ⟨strict, readStrict⟩
  exact ⟨strict, loose, readStrict, readLoose,
    (read_normalized pathname).2 strict loose readStrict readLoose⟩

end Route
end RouteParams
