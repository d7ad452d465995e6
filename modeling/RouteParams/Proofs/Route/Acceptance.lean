import RouteParams.Proofs.Route.Reading

/-!
Which pathnames can be read. A reading goes into the parts around every marker that it meets, but what it
can meet there is known beforehand: the stages of the pieces of the pathname, each with the text from it
to the end of the pathname. A pathname can be read exactly if every stage of its pieces is fit: its
marker does not repeat in that text, and for a normalized reading it takes a position of the path.
-/
namespace RouteParams.Route

open Pathname

/-- Where the marker of a stage of a piece must not repeat: in the whole pathname for the piece as it
stands, and for a later stage in the text from the stage to the end of the pathname. -/
def reach (pathname : List Char) (later : List (List Char)) (index : Nat) (stage : List Char) :
    List Char :=
  if index = 0 then pathname else join (stage :: later)

/-- A stage, counted from zero, of a piece that stands in a pathname. -/
structure Exposes (pathname : List Char) (earlier : List (List Char)) (piece : List Char)
    (later : List (List Char)) (index : Nat) (stage : List Char) : Prop where
  stands : pieces pathname = earlier ++ piece :: later
  reached : (Marker.stages piece)[index]? = some stage

structure Fits (normalized : Bool) (pathname : List Char) (later : List (List Char)) (index : Nat)
    (stage : List Char) : Prop where
  allowed : normalized = true → (PathToken.ofChars stage).inPath = true
  single : ∀ marker : Marker, marker.Leads stage →
    ¬Text.Repeats marker.chars (reach pathname later index stage)

def Legible (normalized : Bool) (pathname : List Char) : Prop :=
  ∀ earlier piece later index stage, Exposes pathname earlier piece later index stage →
    Fits normalized pathname later index stage

variable {normalized : Bool} {pathname token bare : List Char} {earlier later : List (List Char)}
  {marker : Marker} {index : Nat} {stage : List Char}

/-- The stages behind a marker are those of the part behind it. -/
theorem reach_succ (pathname : List Char) (later : List (List Char))
    (reached : (Marker.stages bare)[index]? = some stage) :
    reach (join (bare :: later)) later index stage = reach pathname later (index + 1) stage := by
  cases index with
  | zero =>
    cases (Marker.getElem?_stages_zero bare).symm.trans reached
    rfl
  | succ index => rfl

theorem fits_succ_iff (reached : (Marker.stages bare)[index]? = some stage) :
    Fits normalized (join (bare :: later)) later index stage ↔
      Fits normalized pathname later (index + 1) stage := by
  have same := reach_succ pathname later reached
  constructor
  · rintro ⟨allowed, single⟩
    exact ⟨allowed, by rwa [same] at single⟩
  · rintro ⟨allowed, single⟩
    exact ⟨allowed, by rwa [same]⟩

/-- A stage stays fit when less stands around it. -/
theorem Fits.mono {part : List Char} {others : List (List Char)}
    (fits : Fits normalized pathname later index stage) (front rest : List Char)
    (within : front ++ reach part others index stage ++ rest = reach pathname later index stage) :
    Fits normalized part others index stage := by
  refine ⟨fits.allowed, ?_⟩
  intro marker leads repeats
  have wider := repeats.mono front rest
  rw [within] at wider
  exact fits.single marker leads wider

theorem fits_nil : Fits normalized pathname later index [] := by
  refine ⟨fun _ => PathToken.inPath_ofChars_nil, ?_⟩
  intro marker leads
  exact absurd (List.prefix_nil.1 leads.begins) marker.chars_ne_nil

theorem legible_before (divides : Divides pathname earlier token later marker bare)
    (legible : Legible normalized pathname) : Legible normalized (upTo earlier) := by
  rintro before piece behind index stage ⟨stands, reached⟩
  rw [divides.pieces_before] at stands
  -- The part before ends with an empty piece, which stands behind its last slash.
  rcases List.eq_nil_or_concat' behind with rfl | ⟨between, last, rfl⟩
  · obtain ⟨_, empty⟩ := List.append_inj' stands rfl
    cases empty
    have final := List.mem_of_getElem? reached
    rw [Marker.stages_of_unmarked rfl, List.mem_singleton] at final
    rw [final]
    exact fits_nil
  · rw [← List.cons_append, ← List.append_assoc] at stands
    obtain ⟨same, empty⟩ := List.append_inj' stands rfl
    cases empty
    have exposed : Exposes pathname before piece (between ++ token :: later) index stage := by
      refine ⟨?_, reached⟩
      rw [divides.stands, same, List.append_assoc, List.cons_append]
    have fits := legible _ _ _ _ _ exposed
    cases index with
    | zero =>
      refine fits.mono [] (marker.chars ++ join (bare :: later)) ?_
      rw [List.nil_append, ← List.append_assoc]
      exact divides.whole
    | succ index =>
      refine fits.mono [] (join (token :: later)) ?_
      exact (join_append_cons (stage :: between) token later).symm

theorem legible_after (divides : Divides pathname earlier token later marker bare)
    (legible : Legible normalized pathname) : Legible normalized (join (bare :: later)) := by
  rintro before piece behind index stage ⟨stands, reached⟩
  rw [divides.pieces_after] at stands
  cases before with
  | nil =>
    obtain ⟨rfl, rfl⟩ := List.cons.inj stands
    have exposed : Exposes pathname earlier token later (index + 1) stage := by
      refine ⟨divides.stands, ?_⟩
      rw [Marker.stages_of_strip? divides.strips]
      exact reached
    exact (fits_succ_iff reached).2 (legible _ _ _ _ _ exposed)
  | cons first before =>
    rw [List.cons_append] at stands
    obtain ⟨rfl, rfl⟩ := List.cons.inj stands
    have exposed : Exposes pathname (earlier ++ token :: before) piece behind index stage := by
      refine ⟨?_, reached⟩
      rw [divides.stands, List.append_assoc, List.cons_append]
    have fits := legible _ _ _ _ _ exposed
    cases index with
    | zero =>
      refine fits.mono (upTo earlier ++ marker.chars) [] ?_
      rw [List.append_nil]
      exact divides.whole
    | succ index =>
      refine fits.mono [] [] ?_
      exact List.append_nil _

/-- A pathname can be read exactly if every stage of its pieces is fit. -/
theorem readable_iff_legible (normalized : Bool) (pathname : List Char) :
    Readable normalized pathname ↔ Legible normalized pathname := by
  -- Both parts around a marker are shorter than the pathname. The part behind it shows the later stages of
  -- the marked piece, and neither part shows a stage that the pathname does not.
  induction size : pathname.length using Nat.strongRecOn generalizing pathname with
  | ind size ih =>
    subst size
    rw [readable_iff]
    constructor
    · rintro admitted earlier piece later index stage ⟨stands, reached⟩
      have admits : Admits normalized pathname (.ofChars piece) := by
        apply admitted
        rw [stands]
        exact List.mem_append_right _ List.mem_cons_self
      cases index with
      | zero =>
        cases (Marker.getElem?_stages_zero piece).symm.trans reached
        refine ⟨admits.allowed, ?_⟩
        intro marker leads
        obtain ⟨bare, whole⟩ := leads.begins
        have divides : Divides pathname earlier piece later marker bare :=
          ⟨stands, Marker.strip?_eq_some_iff.2 ⟨leads, whole⟩⟩
        exact ((admits_of_divides divides).1 admits).2.1
      | succ index =>
        obtain ⟨marker, bare, strips, reached⟩ := Marker.getElem?_stages_succ reached
        have divides : Divides pathname earlier piece later marker bare := ⟨stands, strips⟩
        have readable := ((admits_of_divides divides).1 admits).2.2.2
        have legible := (ih _ divides.shorter.2 _ rfl).1 readable
        exact (fits_succ_iff reached).1 (legible [] bare later index stage
          ⟨divides.pieces_after, reached⟩)
    · intro legible piece member
      obtain ⟨earlier, later, stands⟩ := List.append_of_mem member
      have fits := legible _ _ _ 0 _ ⟨stands, Marker.getElem?_stages_zero piece⟩
      cases strips : Marker.strip? piece with
      | none => exact (admits_of_unmarked strips).2 fits.allowed
      | some found =>
        obtain ⟨marker, bare⟩ := found
        have divides : Divides pathname earlier piece later marker bare := ⟨stands, strips⟩
        have leads := (Marker.strip?_eq_some_iff.1 strips).1
        refine (admits_of_divides divides).2 ⟨fits.allowed, fits.single marker leads, ?_, ?_⟩
        · exact (ih _ divides.shorter.1 _ rfl).2 (legible_before divides legible)
        · exact (ih _ divides.shorter.2 _ rfl).2 (legible_after divides legible)

/-! ## Readings that are not normalized -/

/-- A stage of a piece is led by a marker that occurs more than once where it must not. -/
structure Clashes (pathname : List Char) (earlier : List (List Char)) (piece : List Char)
    (later : List (List Char)) (index : Nat) (stage : List Char) (marker : Marker) : Prop where
  exposed : Exposes pathname earlier piece later index stage
  leads : marker.Leads stage
  repeated : 1 < Text.occurrences marker.chars (reach pathname later index stage)

theorem legible_iff_forall_not_clashes :
    Legible false pathname ↔ ∀ earlier piece later index stage marker,
      ¬Clashes pathname earlier piece later index stage marker := by
  constructor
  · rintro legible earlier piece later index stage marker ⟨exposed, leads, repeated⟩
    rw [Text.one_lt_occurrences_iff marker.chars_ne_nil] at repeated
    exact (legible _ _ _ _ _ exposed).single marker leads repeated
  · intro clear earlier piece later index stage exposed
    refine ⟨Bool.noConfusion, ?_⟩
    intro marker leads repeats
    rw [← Text.one_lt_occurrences_iff marker.chars_ne_nil] at repeats
    exact clear _ _ _ _ _ _ ⟨exposed, leads, repeats⟩

/-- Reading that is not normalized rejects a pathname exactly if the marker of some stage of its pieces
occurs more than once in the text that the stage reaches. Every other pathname it reads as a route. -/
theorem rejected_iff_clashes (pathname : String) :
    ((∃ error, Route.read false pathname = .error error) ↔
      ∃ earlier piece later index stage marker,
        Clashes pathname.toList earlier piece later index stage marker) ∧
    ((¬∃ earlier piece later index stage marker,
        Clashes pathname.toList earlier piece later index stage marker) →
      ∃ route, Route.read false pathname = .ok route) := by
  have readable : Readable false pathname.toList ↔
      ¬∃ earlier piece later index stage marker,
        Clashes pathname.toList earlier piece later index stage marker := by
    rw [readable_iff_legible, legible_iff_forall_not_clashes]
    simp only [not_exists]
  refine ⟨?_, readable.2⟩
  rw [← Classical.not_not (a := ∃ earlier piece later index stage marker,
    Clashes pathname.toList earlier piece later index stage marker), ← readable]
  exact rejected_iff_not_readable

/-- A marker that stands behind another one may occur before it, but not after it. -/
example : (Route.read false "/x(..)/(.)(..)a").isOk = true ∧
    (Route.read false "/(.)(..)a/x(..)").isOk = false := by
  decide +kernel

end RouteParams.Route
