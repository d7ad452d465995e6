import RouteParams.Proofs.Route.Piece
import RouteParams.Route.Reader

/-!
Reading a pathname, token by token. Each token is taken on its own: it must be allowed, and a marker on
it must cut the pathname into two parts that can be read. A pathname can be read exactly if each of its
pieces can be taken, and the halves of its route are the parts around the marker of the last one.
-/
namespace RouteParams

open Pathname

namespace PathToken

theorem split_eq (pathname : List Char) :
    split pathname = (filled (pieces pathname)).map ofChars :=
  rfl

theorem text_ofChars (text : List Char) : (ofChars text).text = String.ofList text := by
  rw [ofChars]
  cases Marker.strip? text <;> rfl

theorem marker?_ofChars (text : List Char) :
    (ofChars text).marker? = (Marker.strip? text).map Prod.fst := by
  rw [ofChars]
  cases Marker.strip? text <;> rfl

theorem marker?_ofChars_eq_none_iff {text : List Char} :
    (ofChars text).marker? = none ↔ Marker.strip? text = none := by
  rw [marker?_ofChars, Option.map_eq_none_iff]

theorem marker?_ofChars_of_strip? {text bare : List Char} {marker : Marker}
    (strips : Marker.strip? text = some (marker, bare)) :
    (ofChars text).marker? = some marker := by
  rw [marker?_ofChars, strips]
  rfl

theorem inPath_ofChars_nil : (ofChars []).inPath = true := by decide

theorem mem_split_iff {pathname : List Char} {token : PathToken} :
    token ∈ split pathname ↔ ∃ piece ∈ pieces pathname, piece ≠ [] ∧ ofChars piece = token := by
  rw [split_eq]
  simp [mem_filled, and_assoc]

/-- Empty pieces are no tokens. What an empty one would satisfy as a token holds of all tokens exactly if
it holds of all pieces. -/
theorem forall_mem_split_iff {pathname : List Char} {holds : PathToken → Prop}
    (empty : holds (ofChars [])) :
    (∀ token ∈ split pathname, holds token) ↔ ∀ piece ∈ pieces pathname, holds (ofChars piece) := by
  constructor
  · intro all piece member
    by_cases nothing : piece = []
    · rw [nothing]
      exact empty
    · exact all _ (mem_split_iff.2 ⟨piece, member, nothing, rfl⟩)
  · intro all token member
    obtain ⟨piece, among, _, rfl⟩ := mem_split_iff.1 member
    exact all piece among

theorem split_of_divides {pathname token bare : List Char} {earlier later : List (List Char)}
    {marker : Marker} (divides : Divides pathname earlier token later marker bare) :
    split pathname =
      (filled earlier).map ofChars ++ ofChars token :: (filled later).map ofChars := by
  rw [split_eq, divides.stands, filled_append, filled_cons divides.nonempty, List.map_append,
    List.map_cons]

end PathToken

namespace Route

variable {normalized : Bool} {pathname : List Char} {token : PathToken}
  {found halves : Option Halves} {rest : List PathToken}

def Readable (normalized : Bool) (pathname : List Char) : Prop :=
  ∃ route, readChars normalized pathname = .ok route

/-- What becomes of the halves that were found when a reading goes through a token. -/
inductive Takes (normalized : Bool) (pathname : List Char) (token : PathToken)
    (found : Option Halves) : Option Halves → Prop
  | unmarked (allowed : normalized = true → token.inPath = true)
      (unmarked : token.marker? = none) : Takes normalized pathname token found found
  | marked {marker : Marker} {before after : List Char} {beforeRoute afterRoute : Route}
      (allowed : normalized = true → token.inPath = true) (marked : token.marker? = some marker)
      (parts : Text.cut? marker.chars pathname = some (before, after))
      (readsBefore : readChars normalized before = .ok beforeRoute)
      (readsAfter : readChars normalized after = .ok afterRoute) :
      Takes normalized pathname token found (some (marker, beforeRoute, afterRoute))

/-- Whether a token can be taken does not depend on what was found before it. -/
structure Admits (normalized : Bool) (pathname : List Char) (token : PathToken) : Prop where
  allowed : normalized = true → token.inPath = true
  divided : ∀ marker, token.marker? = some marker → ∃ before after,
    Text.cut? marker.chars pathname = some (before, after) ∧
      Readable normalized before ∧ Readable normalized after

theorem admits_iff_takes (found : Option Halves) :
    Admits normalized pathname token ↔ ∃ next, Takes normalized pathname token found next := by
  constructor
  · rintro ⟨allowed, divided⟩
    cases marked : token.marker? with
    | none => exact ⟨found, .unmarked allowed marked⟩
    | some marker =>
      obtain ⟨before, after, parts, ⟨_, readsBefore⟩, ⟨_, readsAfter⟩⟩ := divided marker marked
      exact ⟨_, .marked allowed marked parts readsBefore readsAfter⟩
  · rintro ⟨next, takes⟩
    cases takes with
    | unmarked allowed unmarked =>
      refine ⟨allowed, ?_⟩
      intro marker marked
      cases unmarked.symm.trans marked
    | marked allowed marked parts readsBefore readsAfter =>
      refine ⟨allowed, ?_⟩
      intro marker same
      cases marked.symm.trans same
      exact ⟨_, _, parts, ⟨_, readsBefore⟩, ⟨_, readsAfter⟩⟩

/-! ## Scanning -/

/-- The scan of the tokens that a reading of the pathname goes through, from what was found so far. -/
def scanFrom (normalized : Bool) (pathname : List Char) (found : Option Halves)
    (tokens : List PathToken) : Except RouteError (Option Halves) :=
  scan normalized pathname (fun part _ => readChars normalized part) tokens found

theorem readChars_eq (normalized : Bool) (pathname : List Char) :
    readChars normalized pathname =
      (scanFrom normalized pathname none (PathToken.split pathname)).map
        (assemble pathname normalized (PathToken.split pathname)) := by
  rw [readChars, scanFrom]
  cases scan normalized pathname _ (PathToken.split pathname) none <;> rfl

private theorem bind_ok {α β : Type} {first : Except RouteError α}
    {next : α → Except RouteError β} {result : β} (ok : (first >>= next) = .ok result) :
    ∃ value, first = .ok value ∧ next value = .ok result := by
  cases first with
  | error error => cases ok
  | ok value => exact ⟨value, rfl, ok⟩

theorem takes_of_scanFrom (ok : scanFrom normalized pathname found (token :: rest) = .ok halves) :
    ∃ next, Takes normalized pathname token found next ∧
      scanFrom normalized pathname next rest = .ok halves := by
  rw [scanFrom, scan] at ok
  split at ok
  · cases ok
  · rename_i passes
    have allowed : normalized = true → token.inPath = true := by simpa using passes
    split at ok
    · rename_i unmarked
      exact ⟨found, .unmarked allowed unmarked, ok⟩
    · rename_i marker marked
      split at ok
      · cases ok
      · rename_i before after parts
        obtain ⟨beforeRoute, readsBefore, ok⟩ := bind_ok ok
        obtain ⟨afterRoute, readsAfter, ok⟩ := bind_ok ok
        exact ⟨_, .marked allowed marked parts readsBefore readsAfter, ok⟩

theorem scanFrom_of_takes {next : Option Halves}
    (takes : Takes normalized pathname token found next) :
    scanFrom normalized pathname found (token :: rest) =
      scanFrom normalized pathname next rest := by
  cases takes with
  | unmarked allowed unmarked =>
    have passes : ¬(normalized && !token.inPath) = true := by simpa using allowed
    rw [scanFrom, scan, if_neg passes]
    split
    · rfl
    · rename_i marked
      cases unmarked.symm.trans marked
  | marked allowed marked parts readsBefore readsAfter =>
    have passes : ¬(normalized && !token.inPath) = true := by simpa using allowed
    rw [scanFrom, scan, if_neg passes]
    split
    · rename_i unmarked
      cases marked.symm.trans unmarked
    · rename_i same
      cases marked.symm.trans same
      split
      · rename_i uncut
        cases parts.symm.trans uncut
      · rename_i same
        cases parts.symm.trans same
        rw [readsBefore, readsAfter]
        rfl

theorem scanFrom_ok_iff (tokens : List PathToken) (found : Option Halves) :
    (∃ halves, scanFrom normalized pathname found tokens = .ok halves) ↔
      ∀ token ∈ tokens, Admits normalized pathname token := by
  induction tokens generalizing found with
  | nil => exact ⟨fun _ _ member => absurd member List.not_mem_nil, fun _ => ⟨found, rfl⟩⟩
  | cons token rest ih =>
    rw [List.forall_mem_cons, admits_iff_takes found]
    constructor
    · rintro ⟨halves, ok⟩
      obtain ⟨next, takes, ok⟩ := takes_of_scanFrom ok
      exact ⟨⟨next, takes⟩, (ih next).1 ⟨halves, ok⟩⟩
    · rintro ⟨⟨next, takes⟩, others⟩
      rw [scanFrom_of_takes takes]
      exact (ih next).2 others

/-- Tokens without markers leave what was found as it is. -/
theorem halves_of_unmarked {tokens : List PathToken}
    (unmarked : ∀ token ∈ tokens, token.marker? = none)
    (ok : scanFrom normalized pathname found tokens = .ok halves) : halves = found := by
  induction tokens with
  | nil => exact (Except.ok.inj ok).symm
  | cons token rest ih =>
    obtain ⟨bare, others⟩ := List.forall_mem_cons.1 unmarked
    obtain ⟨next, takes, ok⟩ := takes_of_scanFrom ok
    cases takes with
    | unmarked _ _ => exact ih others ok
    | marked _ marked _ _ _ => cases bare.symm.trans marked

/-- The halves are those around the marker of the last token that carries one. -/
theorem halves_of_last {first rest : List PathToken} {marker : Marker}
    (marked : token.marker? = some marker) (last : ∀ other ∈ rest, other.marker? = none)
    (ok : scanFrom normalized pathname found (first ++ token :: rest) = .ok halves) :
    ∃ before after beforeRoute afterRoute,
      Text.cut? marker.chars pathname = some (before, after) ∧
      readChars normalized before = .ok beforeRoute ∧
      readChars normalized after = .ok afterRoute ∧
      halves = some (marker, beforeRoute, afterRoute) := by
  induction first generalizing found with
  | nil =>
    obtain ⟨next, takes, ok⟩ := takes_of_scanFrom ok
    cases takes with
    | unmarked _ unmarked => cases unmarked.symm.trans marked
    | marked _ same parts readsBefore readsAfter =>
      cases marked.symm.trans same
      exact ⟨_, _, _, _, parts, readsBefore, readsAfter, halves_of_unmarked last ok⟩
  | cons earlier first ih =>
    obtain ⟨next, takes, ok⟩ := takes_of_scanFrom ok
    exact ih ok

/-! ## Reading -/

theorem exists_of_isOk {result : Except RouteError Route} (ok : result.isOk = true) :
    ∃ route, result = .ok route := by
  cases result with
  | error error => cases ok
  | ok route => exact ⟨route, rfl⟩

theorem rejected_iff_not_readable :
    (∃ error, readChars normalized pathname = .error error) ↔ ¬Readable normalized pathname := by
  rw [Readable]
  cases readChars normalized pathname with
  | error error => simp
  | ok route => simp

theorem readable_iff_split :
    Readable normalized pathname ↔
      ∀ token ∈ PathToken.split pathname, Admits normalized pathname token := by
  rw [← scanFrom_ok_iff (PathToken.split pathname) none, Readable, readChars_eq]
  constructor
  · rintro ⟨route, read⟩
    cases scanned : scanFrom normalized pathname none (PathToken.split pathname) with
    | error error =>
      rw [scanned] at read
      cases read
    | ok halves => exact ⟨halves, rfl⟩
  · rintro ⟨halves, scanned⟩
    rw [scanned]
    exact ⟨_, rfl⟩

theorem admits_of_unmarked {piece : List Char} (unmarked : Marker.strip? piece = none) :
    Admits normalized pathname (.ofChars piece) ↔
      (normalized = true → (PathToken.ofChars piece).inPath = true) := by
  constructor
  · exact Admits.allowed
  · intro allowed
    refine ⟨allowed, ?_⟩
    intro marker marked
    cases (PathToken.marker?_ofChars_eq_none_iff.2 unmarked).symm.trans marked

theorem readable_iff :
    Readable normalized pathname ↔
      ∀ piece ∈ pieces pathname, Admits normalized pathname (.ofChars piece) := by
  rw [readable_iff_split]
  apply PathToken.forall_mem_split_iff
  rw [admits_of_unmarked rfl]
  exact fun _ => PathToken.inPath_ofChars_nil

variable {token bare : List Char} {earlier later : List (List Char)} {marker : Marker}

theorem admits_of_divides (divides : Divides pathname earlier token later marker bare) :
    Admits normalized pathname (.ofChars token) ↔
      (normalized = true → (PathToken.ofChars token).inPath = true) ∧
        ¬Text.Repeats marker.chars pathname ∧ Readable normalized (upTo earlier) ∧
        Readable normalized (join (bare :: later)) := by
  have marked := PathToken.marker?_ofChars_of_strip? divides.strips
  constructor
  · rintro ⟨allowed, divided⟩
    obtain ⟨before, after, parts, readsBefore, readsAfter⟩ := divided marker marked
    have single := Text.not_repeats_of_cut? parts
    cases (divides.cut single).symm.trans parts
    exact ⟨allowed, single, readsBefore, readsAfter⟩
  · rintro ⟨allowed, single, readsBefore, readsAfter⟩
    refine ⟨allowed, ?_⟩
    intro other same
    cases marked.symm.trans same
    exact ⟨_, _, divides.cut single, readsBefore, readsAfter⟩

theorem exists_last_marked (parts : List (List Char)) :
    (∀ part ∈ parts, Marker.strip? part = none) ∨
      ∃ earlier token later marker bare, parts = earlier ++ token :: later ∧
        Marker.strip? token = some (marker, bare) ∧
        ∀ part ∈ later, Marker.strip? part = none := by
  induction parts with
  | nil => exact .inl fun _ member => absurd member List.not_mem_nil
  | cons part rest ih =>
    rcases ih with unmarked | ⟨earlier, token, later, marker, bare, rfl, strips, last⟩
    · cases strips : Marker.strip? part with
      | none => exact .inl (List.forall_mem_cons.2 ⟨strips, unmarked⟩)
      | some found => exact .inr ⟨[], part, rest, found.1, found.2, rfl, strips, unmarked⟩
    · exact .inr ⟨part :: earlier, token, later, marker, bare, rfl, strips, last⟩

theorem halves_of_readChars {route : Route} (read : readChars normalized pathname = .ok route) :
    ∃ halves, scanFrom normalized pathname none (PathToken.split pathname) = .ok halves ∧
      route = assemble pathname normalized (PathToken.split pathname) halves := by
  rw [readChars_eq] at read
  cases scanned : scanFrom normalized pathname none (PathToken.split pathname) with
  | error error =>
    rw [scanned] at read
    cases read
  | ok halves =>
    rw [scanned] at read
    exact ⟨halves, rfl, (Except.ok.inj read).symm⟩

/-- A pathname without markers is read as a plain route. -/
theorem route_of_unmarked {route : Route}
    (unmarked : ∀ piece ∈ pieces pathname, Marker.strip? piece = none)
    (read : readChars normalized pathname = .ok route) :
    route = .plain (String.ofList pathname) normalized (PathToken.split pathname) := by
  obtain ⟨halves, scanned, rfl⟩ := halves_of_readChars read
  have bare : ∀ token ∈ PathToken.split pathname, token.marker? = none := by
    rw [PathToken.forall_mem_split_iff (by rfl)]
    exact fun piece member => PathToken.marker?_ofChars_eq_none_iff.2 (unmarked piece member)
  rw [halves_of_unmarked bare scanned]
  rfl

/-- A pathname with markers is read as an interception, whose halves are read from the parts around the
last of the markers that lead its pieces. -/
theorem route_of_last {route : Route} (divides : Divides pathname earlier token later marker bare)
    (last : ∀ piece ∈ later, Marker.strip? piece = none)
    (read : readChars normalized pathname = .ok route) :
    ∃ before after, ¬Text.Repeats marker.chars pathname ∧
      readChars normalized (upTo earlier) = .ok before ∧
      readChars normalized (join (bare :: later)) = .ok after ∧
      route = .interception (String.ofList pathname) normalized (PathToken.split pathname)
        marker before after := by
  obtain ⟨halves, scanned, rfl⟩ := halves_of_readChars read
  have marked := PathToken.marker?_ofChars_of_strip? divides.strips
  have unmarked : ∀ other ∈ (filled later).map PathToken.ofChars, other.marker? = none := by
    intro other member
    obtain ⟨piece, among, rfl⟩ := List.mem_map.1 member
    exact PathToken.marker?_ofChars_eq_none_iff.2 (last piece (mem_filled.1 among).1)
  have tokens := PathToken.split_of_divides divides
  rw [tokens] at scanned
  obtain ⟨before, after, beforeRoute, afterRoute, parts, readsBefore, readsAfter, rfl⟩ :=
    halves_of_last marked unmarked scanned
  have single := Text.not_repeats_of_cut? parts
  cases (divides.cut single).symm.trans parts
  exact ⟨beforeRoute, afterRoute, single, readsBefore, readsAfter, rfl⟩

/-- What holds of every route that is read from a pathname without markers, and of an interception if it
holds of its halves, holds of every route that is read. -/
@[elab_as_elim]
theorem readChars_induct
    {motive : ∀ pathname route, readChars normalized pathname = .ok route → Prop}
    {pathname : List Char} {route : Route} (read : readChars normalized pathname = .ok route)
    (plain : ∀ pathname read, (∀ piece ∈ pieces pathname, Marker.strip? piece = none) →
      motive pathname (.plain (String.ofList pathname) normalized (PathToken.split pathname)) read)
    (halved : ∀ {pathname earlier token later marker bare before after readsBefore readsAfter} read,
      Divides pathname earlier token later marker bare →
      (∀ piece ∈ later, Marker.strip? piece = none) →
      motive (upTo earlier) before readsBefore → motive (join (bare :: later)) after readsAfter →
      motive pathname (.interception (String.ofList pathname) normalized
        (PathToken.split pathname) marker before after) read) :
    motive pathname route read := by
  induction size : pathname.length using Nat.strongRecOn generalizing pathname route with
  | ind size ih =>
    subst size
    rcases exists_last_marked (pieces pathname) with
      unmarked | ⟨earlier, token, later, marker, bare, stands, strips, last⟩
    · obtain rfl := route_of_unmarked unmarked read
      exact plain pathname read unmarked
    · have divides : Divides pathname earlier token later marker bare := ⟨stands, strips⟩
      obtain ⟨before, after, _, readsBefore, readsAfter, rfl⟩ := route_of_last divides last read
      exact halved read divides last (ih _ divides.shorter.1 readsBefore rfl)
        (ih _ divides.shorter.2 readsAfter rfl)

end Route
end RouteParams
