import Mathlib.Data.List.Infix
import Mathlib.Data.List.Nodup
import Mathlib.Data.List.Perm.Subperm
import RouteParams.Proofs.Route.Halves

/-!
How deep interceptions nest. A reading reads the two parts of the pathname around a marker, and the marker
occurs in neither of them. So each part holds fewer of the four markers than the pathname does: the readings
within readings come to an end after four of them, whatever the length of the pathname, and no marker comes
back on the way from a route to a route nested in it.
-/
namespace RouteParams

namespace Marker

/-- The markers that occur in a text, at whatever place. -/
def within (text : List Char) : List Marker :=
  longestFirst.filter fun marker => marker.chars <:+: text

variable {text part : List Char} {marker : Marker}

theorem mem_within : marker ∈ within text ↔ marker.chars <:+: text := by
  rw [within, List.mem_filter, decide_eq_true_iff]
  exact and_iff_right marker.mem_longestFirst

theorem length_within_le (text : List Char) : (within text).length ≤ 4 :=
  List.length_filter_le _ longestFirst

theorem length_le_of_nodup {markers : List Marker} (distinct : markers.Nodup) : markers.length ≤ 4 :=
  (distinct.subperm fun marker _ => marker.mem_longestFirst).length_le

/-- A part of a text in which one of its markers is missing holds fewer markers. -/
theorem length_within_lt (inside : part <:+: text) (occurs : marker.chars <:+: text)
    (absent : ¬marker.chars <:+: part) : (within part).length < (within text).length := by
  have distinct : (within part).Nodup := List.Nodup.filter _ (by decide)
  have fresh : (marker :: within part).Nodup :=
    List.nodup_cons.2 ⟨fun member => absent (mem_within.1 member), distinct⟩
  have among : marker :: within part ⊆ within text := by
    refine List.cons_subset.2 ⟨mem_within.2 occurs, ?_⟩
    exact fun other member => mem_within.2 ((mem_within.1 member).trans inside)
  exact (fresh.subperm among).length_le

end Marker

namespace Route

variable {normalized : Bool} {pathname part : List Char} {found next : Option Halves}

/-- A reading of the pathname reads the part. It comes to a token whose marker cuts the pathname, and reads
what stands before the marker and then, if that can be read, what stands behind it. -/
inductive Calls (normalized : Bool) (pathname : List Char) : List Char → Prop
  | before {earlier later : List PathToken} {token : PathToken} {marker : Marker} {before after : List Char}
      {found : Option Halves} (stands : PathToken.split pathname = earlier ++ token :: later)
      (reached : scanFrom normalized pathname none earlier = .ok found)
      (allowed : normalized = true → token.inPath = true) (marked : token.marker? = some marker)
      (parts : Text.cut? marker.chars pathname = some (before, after)) : Calls normalized pathname before
  | after {earlier later : List PathToken} {token : PathToken} {marker : Marker} {before after : List Char}
      {found : Option Halves} (stands : PathToken.split pathname = earlier ++ token :: later)
      (reached : scanFrom normalized pathname none earlier = .ok found)
      (allowed : normalized = true → token.inPath = true) (marked : token.marker? = some marker)
      (parts : Text.cut? marker.chars pathname = some (before, after))
      (readable : Readable normalized before) : Calls normalized pathname after

theorem Calls.cut (calls : Calls normalized pathname part) :
    ∃ (marker : Marker) (before after : List Char),
      Text.cut? marker.chars pathname = some (before, after) ∧ (part = before ∨ part = after) := by
  cases calls with
  | before _ _ _ _ parts => exact ⟨_, _, _, parts, .inl rfl⟩
  | after _ _ _ _ parts _ => exact ⟨_, _, _, parts, .inr rfl⟩

theorem Calls.shorter (calls : Calls normalized pathname part) : part.length < pathname.length := by
  obtain ⟨marker, before, after, parts, rfl | rfl⟩ := calls.cut
  · exact (cut?_shorter parts).1
  · exact (cut?_shorter parts).2

theorem Calls.length_within_lt (calls : Calls normalized pathname part) :
    (Marker.within part).length < (Marker.within pathname).length := by
  obtain ⟨marker, before, after, parts, side⟩ := calls.cut
  have whole := Text.cut?_eq_some parts
  have single := Text.not_repeats_of_cut? parts
  rw [← whole] at single
  have occurs : marker.chars <:+: pathname := ⟨before, after, whole⟩
  rcases side with rfl | rfl
  · refine Marker.length_within_lt ⟨[], marker.chars ++ after, ?_⟩ occurs ?_
    · rw [List.nil_append, ← List.append_assoc, whole]
    · exact fun inside => single (Text.repeats_of_infix_left inside)
  · refine Marker.length_within_lt ⟨before ++ marker.chars, [], ?_⟩ occurs ?_
    · rw [List.append_nil, whole]
    · exact fun inside => single (Text.repeats_of_infix_right inside)

/-- Readings within readings end: each part is shorter than what it is read for. -/
theorem calls_acc (normalized : Bool) (pathname : List Char) :
    Acc (fun part whole => Calls normalized whole part) pathname := by
  induction size : pathname.length using Nat.strongRecOn generalizing pathname with
  | ind size ih =>
    subst size
    exact .intro _ fun part calls => ih part.length calls.shorter part rfl

theorem length_le_of_calls {chain : List (List Char)}
    (nested : List.IsChain (Calls normalized) (pathname :: chain)) :
    chain.length ≤ (Marker.within pathname).length := by
  induction chain generalizing pathname with
  | nil => exact Nat.zero_le _
  | cons part rest ih =>
    obtain ⟨calls, nested⟩ := List.isChain_cons_cons.1 nested
    exact Nat.lt_of_le_of_lt (ih nested) calls.length_within_lt

/-! ## What a reading depends on -/

theorem scanFrom_append {first : List PathToken} (reached : scanFrom normalized pathname found first = .ok next)
    (rest : List PathToken) :
    scanFrom normalized pathname found (first ++ rest) = scanFrom normalized pathname next rest := by
  induction first generalizing found with
  | nil =>
    cases reached
    rfl
  | cons token first ih =>
    obtain ⟨between, takes, reached⟩ := takes_of_scanFrom reached
    rw [List.cons_append, scanFrom_of_takes takes]
    exact ih reached

/-- A reading asks for nothing but the parts that it calls. -/
theorem scan_congr {answer : List Char → Except RouteError Route}
    (alike : ∀ part, Calls normalized pathname part → answer part = readChars normalized part)
    {earlier tokens : List PathToken} (stands : PathToken.split pathname = earlier ++ tokens)
    (reached : scanFrom normalized pathname none earlier = .ok found) :
    scan normalized pathname (fun part _ => answer part) tokens found =
      scanFrom normalized pathname found tokens := by
  induction tokens generalizing earlier found with
  | nil => rfl
  | cons token rest ih =>
    rw [scanFrom, scan, scan]
    split
    · rfl
    · rename_i passes
      have allowed : normalized = true → token.inPath = true := by simpa using passes
      -- What comes after the token is reached through it.
      have onward {next : Option Halves} (takes : Takes normalized pathname token found next) :
          scan normalized pathname (fun part _ => answer part) rest next =
            scanFrom normalized pathname next rest := by
        have behind : PathToken.split pathname = (earlier ++ [token]) ++ rest := by
          rw [stands, List.append_assoc, List.singleton_append]
        refine ih behind ?_
        rw [scanFrom_append reached, scanFrom_of_takes takes]
        rfl
      split
      · rename_i unmarked
        exact onward (.unmarked allowed unmarked)
      · rename_i marker marked
        split
        · rfl
        · rename_i before after parts
          rw [alike before (.before stands reached allowed marked parts)]
          cases readsBefore : readChars normalized before with
          | error error => rfl
          | ok beforeRoute =>
            have readable : Readable normalized before := ⟨beforeRoute, readsBefore⟩
            rw [alike after (.after stands reached allowed marked parts readable)]
            cases readsAfter : readChars normalized after with
            | error error => rfl
            | ok afterRoute => exact onward (.marked allowed marked parts readsBefore readsAfter)

/-! ## Routes within routes -/

/-- The second route is the one before or after the marker of the first. -/
def HasHalf (route half : Route) : Prop :=
  route.before? = some half ∨ route.after? = some half

variable {pathname : String} {route half : Route} {marker : Marker}

theorem marker_within_of_read (read : Route.read normalized pathname = .ok route)
    (carries : route.marker? = some marker) : marker.chars <:+: pathname.toList := by
  rcases exists_last_marked (Pathname.pieces pathname.toList) with
    unmarked | ⟨earlier, token, later, other, bare, stands, strips, last⟩
  · rw [route_of_unmarked unmarked read] at carries
    cases carries
  · have divides : Pathname.Divides pathname.toList earlier token later other bare := ⟨stands, strips⟩
    obtain ⟨before, after, _, _, _, rfl⟩ := route_of_last divides last read
    cases carries
    exact ⟨_, _, divides.whole⟩

/-- A half is read from a part of the pathname, and the marker of the route does not occur there. -/
theorem HasHalf.of_read (read : Route.read normalized pathname = .ok route) (has : route.HasHalf half) :
    Route.read normalized half.pathname = .ok half ∧ half.pathname.toList <:+: pathname.toList ∧
      ∀ marker ∈ route.marker?, ¬marker.chars <:+: half.pathname.toList := by
  rcases exists_last_marked (Pathname.pieces pathname.toList) with
    unmarked | ⟨earlier, token, later, other, bare, stands, strips, last⟩
  · rw [route_of_unmarked unmarked read] at has
    rcases has with has | has
    · cases has
    · cases has
  · have divides : Pathname.Divides pathname.toList earlier token later other bare := ⟨stands, strips⟩
    obtain ⟨before, after, halved⟩ := halvedAt_of_divides divides last read
    have whole := congrArg String.toList halved.whole
    rw [String.ofList_toList, String.toList_append, String.toList_append] at whole
    have only : ∀ marker ∈ route.marker?, marker = other := by
      intro marker carries
      exact Option.some.inj (carries.symm.trans halved.carries)
    rcases has with has | has
    · obtain rfl := Option.some.inj (halved.precedes.symm.trans has)
      refine ⟨halved.readsBefore, ?_, fun marker carries => only marker carries ▸ halved.absentBefore⟩
      rw [← whole, List.append_assoc]
      exact (List.prefix_append _ _).isInfix
    · obtain rfl := Option.some.inj (halved.follows.symm.trans has)
      refine ⟨halved.readsAfter, ?_, fun marker carries => only marker carries ▸ halved.absentAfter⟩
      rw [← whole]
      exact (List.suffix_append _ _).isInfix

theorem markers_of_chain (read : Route.read normalized pathname = .ok route) {chain : List Route}
    (nested : List.IsChain HasHalf (route :: chain)) :
    ((route :: chain).filterMap marker?).Nodup ∧
      ∀ marker ∈ (route :: chain).filterMap marker?, marker.chars <:+: pathname.toList := by
  induction chain generalizing route pathname with
  | nil =>
    rw [List.filterMap_cons, List.filterMap_nil]
    cases carries : route.marker? with
    | none => exact ⟨List.nodup_nil, fun _ member => absurd member List.not_mem_nil⟩
    | some marker =>
      refine ⟨List.nodup_singleton marker, ?_⟩
      intro other member
      rw [List.mem_singleton.1 member]
      exact marker_within_of_read read carries
  | cons half rest ih =>
    obtain ⟨has, nested⟩ := List.isChain_cons_cons.1 nested
    obtain ⟨readHalf, part, absent⟩ := has.of_read read
    obtain ⟨distinct, within⟩ := ih readHalf nested
    have inside : ∀ marker ∈ (half :: rest).filterMap marker?, marker.chars <:+: pathname.toList :=
      fun marker member => (within marker member).trans part
    rw [List.filterMap_cons]
    cases carries : route.marker? with
    | none => exact ⟨distinct, inside⟩
    | some marker =>
      constructor
      · exact List.nodup_cons.2 ⟨fun member => absent marker carries (within marker member), distinct⟩
      · exact List.forall_mem_cons.2 ⟨marker_within_of_read read carries, inside⟩

/-- Reading comes to an end on every pathname. Each reading within a reading is one of a shorter text, no more
than four are nested in one another, and the answer depends on nothing else. Along the routes nested in a route
that was read, no marker comes twice, so no more than four of them are interceptions. -/
theorem nesting_bounded (normalized : Bool) (pathname : String) :
    (∀ whole part, Calls normalized whole part → part.length < whole.length) ∧
    Acc (fun part whole => Calls normalized whole part) pathname.toList ∧
    (∀ chain, List.IsChain (Calls normalized) (pathname.toList :: chain) → chain.length ≤ 4) ∧
    (∀ answer : List Char → Except RouteError Route,
      (∀ part, Calls normalized pathname.toList part → answer part = readChars normalized part) →
      (scan normalized pathname.toList (fun part _ => answer part) (PathToken.split pathname.toList)
          none).map (assemble pathname.toList normalized (PathToken.split pathname.toList)) =
        Route.read normalized pathname) ∧
    ∀ route, Route.read normalized pathname = .ok route →
      ∀ chain, List.IsChain HasHalf (route :: chain) →
        ((route :: chain).filterMap marker?).Nodup ∧
          ((route :: chain).filterMap marker?).length ≤ 4 := by
  refine ⟨fun _ _ calls => calls.shorter, calls_acc normalized pathname.toList, ?_, ?_, ?_⟩
  · intro chain nested
    exact Nat.le_trans (length_le_of_calls nested) (Marker.length_within_le _)
  · intro answer alike
    rw [scan_congr alike (List.nil_append _).symm rfl, Route.read, readChars_eq]
  · intro route read chain nested
    have distinct := (markers_of_chain read nested).1
    exact ⟨distinct, Marker.length_le_of_nodup distinct⟩

/-- The bound is reached: behind the marker of each of these routes stands a route with the next of the four
markers. -/
theorem nesting_of_four_markers :
    let nothing : Route := .plain "" true []
    let last : Route := .interception "(...)x" true [⟨"(...)x", some .fromRoot, .literal⟩] .fromRoot
      nothing (.plain "x" true [⟨"x", none, .literal⟩])
    let third : Route := .interception "(.)(...)x" true [⟨"(.)(...)x", some .sameLevel, .literal⟩]
      .sameLevel nothing last
    let second : Route := .interception "(..)(.)(...)x" true
      [⟨"(..)(.)(...)x", some .oneUp, .literal⟩] .oneUp nothing third
    let first : Route := .interception "/(..)(..)(..)(.)(...)x" true
      [⟨"(..)(..)(..)(.)(...)x", some .twoUp, .literal⟩] .twoUp (.plain "/" true []) second
    Route.read true "/(..)(..)(..)(.)(...)x" = .ok first ∧
      List.IsChain HasHalf [first, second, third, last] ∧
      [first, second, third, last].filterMap marker? = [.twoUp, .oneUp, .sameLevel, .fromRoot] ∧
      ([first, second, third, last].filterMap marker?).Nodup := by
  intro nothing last third second first
  have read : Route.read true "/(..)(..)(..)(.)(...)x" = .ok first := by decide +kernel
  have nested : List.IsChain HasHalf [first, second, third, last] :=
    .cons_cons (.inr rfl) (.cons_cons (.inr rfl) (.cons_cons (.inr rfl) (.singleton _)))
  exact ⟨read, nested, rfl, ((nesting_bounded true _).2.2.2.2 first read _ nested).1⟩

end Route
end RouteParams
