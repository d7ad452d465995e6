import RouteParams.Proofs.Route.Placeholder

/-!
A pathname beside a tree. A tree looks at the whole text of a segment, a pathname at what is left of it without
the marker that leads it, so a group behind a marker and a parallel route take a position of the one and none
of the other. All other texts without slashes are plain: a plain text takes a position of the path exactly if
it takes one from the nodes beneath it, and a path that is written from plain texts can be followed down.
-/
namespace RouteParams

def SegmentForm.isGroup : SegmentForm → Bool
  | .group _ => true
  | _ => false

/-- A text without slashes that is no parallel route, whether a marker leads it or not, and no group behind
a marker. -/
structure IsPlain (text : List Char) : Prop where
  slashless : '/' ∉ text
  unslotted : (Marker.stripped text).head? ≠ some '@'
  ungrouped : (Marker.strip? text).isSome = true →
    (SegmentForm.ofChars (Marker.stripped text)).isGroup = false

instance (text : List Char) : Decidable (IsPlain text) :=
  decidable_of_iff
    ('/' ∉ text ∧ (Marker.stripped text).head? ≠ some '@' ∧ ((Marker.strip? text).isSome = true →
      (SegmentForm.ofChars (Marker.stripped text)).isGroup = false))
    ⟨fun plain => ⟨plain.1, plain.2.1, plain.2.2⟩,
      fun plain => ⟨plain.slashless, plain.unslotted, plain.ungrouped⟩⟩

theorem SegmentForm.ofChars_ne_root {text : List Char} (nonempty : text ≠ []) :
    ofChars text ≠ .root := by
  rw [ofChars, if_neg nonempty]
  split
  · exact SegmentForm.noConfusion
  · split
    · exact SegmentForm.noConfusion
    · split
      · exact SegmentForm.noConfusion
      · exact SegmentForm.noConfusion

theorem SegmentForm.contribution_ofChars {text : List Char} (nonempty : text ≠ []) :
    (ofChars text).contribution = if (ofChars text).isGroup then 0 else 1 := by
  cases form : ofChars text with
  | root => exact absurd form (ofChars_ne_root nonempty)
  | group name => rfl
  | interception marker name => rfl
  | param kind name => rfl
  | literal text => rfl

theorem PathToken.inPath_ofChars {text : List Char}
    (unslotted : (Marker.stripped text).head? ≠ some '@') :
    (ofChars text).inPath = !(SegmentForm.ofChars (Marker.stripped text)).isGroup := by
  rw [inPath, kind_ofChars, TokenKind.ofChars]
  cases SegmentForm.ofChars (Marker.stripped text) with
  | group name => rfl
  | param kind name => rfl
  | root => rw [if_neg unslotted]; rfl
  | interception marker name => rw [if_neg unslotted]; rfl
  | literal text => rw [if_neg unslotted]; rfl

theorem IsPlain.contribution_eq {text : List Char} (plain : IsPlain text) (nonempty : text ≠ []) :
    (SegmentForm.ofChars text).contribution = if (PathToken.ofChars text).inPath then 1 else 0 := by
  rw [PathToken.inPath_ofChars plain.unslotted]
  cases strips : Marker.strip? text with
  | none =>
    rw [SegmentForm.contribution_ofChars nonempty, Marker.stripped_of_unmarked strips]
    cases (SegmentForm.ofChars text).isGroup <;> rfl
  | some found =>
    rw [SegmentForm.ofChars_of_strip? strips, plain.ungrouped (by rw [strips]; rfl)]
    rfl

namespace Pathname

/-- The tokens of pieces that take a position of the path. -/
def path (parts : List (List Char)) : List PathToken :=
  ((filled parts).map PathToken.ofChars).filter PathToken.inPath

variable {piece : List Char} {parts : List (List Char)}

theorem path_cons (nonempty : piece ≠ []) (rest : List (List Char)) :
    path (piece :: rest) =
      if (PathToken.ofChars piece).inPath then .ofChars piece :: path rest else path rest := by
  rw [path, filled_cons nonempty, List.map_cons, List.filter_cons]
  rfl

/-- Beneath a segment the path goes on with the pieces behind it. -/
theorem drop_path_cons (plain : IsPlain piece) (rest : List (List Char)) :
    (path (piece :: rest)).drop (SegmentForm.ofChars piece).contribution = path rest := by
  by_cases empty : piece = []
  · rw [empty]
    rfl
  · rw [plain.contribution_eq empty, path_cons empty]
    split
    · rfl
    · rfl

theorem path_cons_of_param {kind : ParamKind} {name : String}
    (form : SegmentForm.ofChars piece = .param kind name) (rest : List (List Char)) :
    path (piece :: rest) = .ofChars piece :: path rest := by
  have nonempty : piece ≠ [] := by
    rintro rfl
    cases form
  have inside : (PathToken.ofChars piece).inPath = true := by
    rw [PathToken.inPath, PathToken.kind_of_param form]
  rw [path_cons nonempty, if_pos inside]

theorem filled_idem (parts : List (List Char)) : filled (filled parts) = filled parts := by
  simp [filled]

/-- Pieces are read back from the pathname that is written from them, the empty ones apart. -/
theorem filled_pieces_join (slashless : ∀ part ∈ parts, '/' ∉ part) :
    filled (pieces ('/' :: join (filled parts))) = filled parts := by
  cases named : filled parts with
  | nil => rfl
  | cons first rest =>
    have written : '/' :: join (first :: rest) = join ([] :: first :: rest) :=
      (join_cons_cons [] first rest).symm
    have apart : ∀ part ∈ [] :: first :: rest, '/' ∉ part := by
      rw [← named, List.forall_mem_cons]
      exact ⟨List.not_mem_nil, fun part member => slashless part (mem_filled.1 member).1⟩
    rw [written, pieces_join apart (List.cons_ne_nil [] _)]
    change filled (first :: rest) = first :: rest
    rw [← named, filled_idem]

end Pathname

theorem Route.path_of_readChars {normalized : Bool} {pathname : List Char} {route : Route}
    (read : readChars normalized pathname = .ok route) :
    route.path = Pathname.path (Pathname.pieces pathname) := by
  rw [path, tokens_of_readChars read]
  rfl

end RouteParams
