import RouteParams.Proofs.Segment.Stage
import RouteParams.Route.Token

/-!
The pieces of a pathname are the texts between its slashes, the empty ones among them. A piece that a
marker leads divides the pathname: the part before it holds the pieces before, and the part behind the
marker holds the rest of the piece and the pieces after it. If the marker does not repeat in the
pathname, this is where the pathname is cut.
-/
namespace RouteParams.Pathname

def pieces (pathname : List Char) : List (List Char) :=
  pathname.splitOn '/'

def join (pieces : List (List Char)) : List Char :=
  ['/'].intercalate pieces

/-- The pieces that are not empty, which are the texts of the tokens. -/
def filled (pieces : List (List Char)) : List (List Char) :=
  pieces.filter fun piece => !piece.isEmpty

/-- What stands before a piece: the pieces before it, with a slash behind each of them. -/
def upTo (earlier : List (List Char)) : List Char :=
  join (earlier ++ [[]])

variable {pathname token bare : List Char} {earlier later : List (List Char)} {marker : Marker}

theorem mem_filled {parts : List (List Char)} {piece : List Char} :
    piece ∈ filled parts ↔ piece ∈ parts ∧ piece ≠ [] := by
  rw [filled, List.mem_filter, Bool.not_eq_true', List.isEmpty_eq_false_iff]

theorem filled_append (first second : List (List Char)) :
    filled (first ++ second) = filled first ++ filled second :=
  List.filter_append first second

theorem filled_cons (nonempty : token ≠ []) (rest : List (List Char)) :
    filled (token :: rest) = token :: filled rest := by
  rw [filled, List.filter_cons_of_pos]
  · rfl
  · rw [Bool.not_eq_true', List.isEmpty_eq_false_iff]
    exact nonempty

theorem join_pieces (pathname : List Char) : join (pieces pathname) = pathname :=
  List.intercalate_splitOn '/'

theorem pieces_join {parts : List (List Char)} (slashless : ∀ part ∈ parts, '/' ∉ part)
    (nonempty : parts ≠ []) : pieces (join parts) = parts :=
  List.splitOn_intercalate '/' slashless nonempty

theorem slash_not_mem_of_mem_pieces {piece : List Char} (member : piece ∈ pieces pathname) :
    '/' ∉ piece := by
  induction pathname generalizing piece with
  | nil =>
    rw [pieces, List.splitOn_nil, List.mem_singleton] at member
    simp [member]
  | cons c rest ih =>
    rw [pieces, List.splitOn_cons_eq_if_modifyHead] at member
    split at member
    · rcases List.mem_cons.1 member with rfl | member
      · exact List.not_mem_nil
      · exact ih member
    · rename_i other
      obtain ⟨first, others, divided⟩ := List.exists_cons_of_ne_nil (List.splitOn_ne_nil '/' rest)
      have slashless : ∀ piece ∈ first :: others, '/' ∉ piece := by
        rw [← divided]
        exact fun piece member => ih member
      rw [divided, List.modifyHead_cons] at member
      rcases List.mem_cons.1 member with rfl | member
      · have apart : c ≠ '/' := by simpa using other
        simp [apart.symm, slashless first List.mem_cons_self]
      · exact slashless piece (List.mem_cons_of_mem first member)

theorem join_cons_cons (piece next : List Char) (rest : List (List Char)) :
    join (piece :: next :: rest) = piece ++ '/' :: join (next :: rest) := by
  rw [join, List.intercalate_cons_cons, List.append_assoc]
  rfl

theorem join_singleton (piece : List Char) : join [piece] = piece :=
  List.intercalate_singleton

theorem upTo_nil : upTo [] = [] :=
  join_singleton []

theorem upTo_cons (piece : List Char) (rest : List (List Char)) :
    upTo (piece :: rest) = piece ++ '/' :: upTo rest := by
  cases rest with
  | nil => exact join_cons_cons piece [] []
  | cons next rest => exact join_cons_cons piece next (rest ++ [[]])

theorem join_append_cons (earlier : List (List Char)) (token : List Char)
    (later : List (List Char)) :
    join (earlier ++ token :: later) = upTo earlier ++ join (token :: later) := by
  induction earlier with
  | nil => rw [upTo_nil, List.nil_append, List.nil_append]
  | cons piece rest ih =>
    rw [upTo_cons, List.append_assoc, List.cons_append, List.cons_append, ← ih]
    cases rest with
    | nil => exact join_cons_cons piece token later
    | cons next rest => exact join_cons_cons piece next (rest ++ token :: later)

theorem join_append_left (front bare : List Char) (later : List (List Char)) :
    join ((front ++ bare) :: later) = front ++ join (bare :: later) := by
  cases later with
  | nil => rw [join_singleton, join_singleton]
  | cons next later => rw [join_cons_cons, join_cons_cons, List.append_assoc]

/-- What stands before a piece is nothing or ends with a slash. -/
theorem upTo_separated (earlier : List (List Char)) :
    upTo earlier = [] ∨ ∃ front, upTo earlier = front ++ ['/'] := by
  induction earlier with
  | nil => exact .inl upTo_nil
  | cons piece rest ih =>
    rw [upTo_cons]
    rcases ih with nothing | ⟨front, ends⟩
    · exact .inr ⟨piece, by rw [nothing]⟩
    · exact .inr ⟨piece ++ '/' :: front, by rw [ends, List.append_assoc, List.cons_append]⟩

/-- A piece of a pathname that a marker leads, with the pieces before and after it. -/
structure Divides (pathname : List Char) (earlier : List (List Char)) (token : List Char)
    (later : List (List Char)) (marker : Marker) (bare : List Char) : Prop where
  stands : pieces pathname = earlier ++ token :: later
  strips : Marker.strip? token = some (marker, bare)

namespace Divides

theorem nonempty (divides : Divides pathname earlier token later marker bare) : token ≠ [] := by
  rintro rfl
  cases divides.strips

theorem whole (divides : Divides pathname earlier token later marker bare) :
    upTo earlier ++ marker.chars ++ join (bare :: later) = pathname := by
  have same := (Marker.leads_of_strip? divides.strips).2
  rw [List.append_assoc, ← join_append_left, same, ← join_append_cons, ← divides.stands,
    join_pieces]

theorem cut (divides : Divides pathname earlier token later marker bare)
    (single : ¬Text.Repeats marker.chars pathname) :
    Text.cut? marker.chars pathname = some (upTo earlier, join (bare :: later)) := by
  rw [← divides.whole] at single ⊢
  exact Text.cut?_of_separated marker.slash_not_mem_chars (upTo_separated earlier) single

theorem slashless (divides : Divides pathname earlier token later marker bare) :
    ∀ piece ∈ earlier ++ bare :: later, '/' ∉ piece := by
  have all : ∀ piece ∈ earlier ++ token :: later, '/' ∉ piece := by
    rw [← divides.stands]
    exact fun piece member => slash_not_mem_of_mem_pieces member
  intro piece member
  rcases List.mem_append.1 member with before | behind
  · exact all piece (List.mem_append_left _ before)
  · rcases List.mem_cons.1 behind with rfl | after
    · have same := (Marker.leads_of_strip? divides.strips).2
      have absent := all token (List.mem_append_right _ List.mem_cons_self)
      rw [← same] at absent
      exact fun holds => absent (List.mem_append_right _ holds)
    · exact all piece (List.mem_append_right _ (List.mem_cons_of_mem token after))

theorem pieces_before (divides : Divides pathname earlier token later marker bare) :
    pieces (upTo earlier) = earlier ++ [[]] := by
  refine pieces_join ?_ (by simp)
  intro piece member
  rcases List.mem_append.1 member with before | last
  · exact divides.slashless piece (List.mem_append_left _ before)
  · rw [List.mem_singleton.1 last]
    exact List.not_mem_nil

theorem pieces_after (divides : Divides pathname earlier token later marker bare) :
    pieces (join (bare :: later)) = bare :: later := by
  refine pieces_join ?_ (List.cons_ne_nil bare later)
  exact fun piece member => divides.slashless piece (List.mem_append_right _ member)

theorem shorter (divides : Divides pathname earlier token later marker bare) :
    (upTo earlier).length < pathname.length ∧
      (join (bare :: later)).length < pathname.length := by
  have lengths := congrArg List.length divides.whole
  have nonempty := List.length_pos_iff.2 marker.chars_ne_nil
  simp only [List.length_append] at lengths
  omega

end Divides

end RouteParams.Pathname
