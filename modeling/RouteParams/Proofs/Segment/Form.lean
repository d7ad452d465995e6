import RouteParams.Proofs.Segment.Stage
import RouteParams.Segment.OfText

/-!
Which form a text has. A parameter begins with a bracket and a marker with a parenthesis, so a text that a
marker leads is an interception whatever stands behind the marker. Interceptions and literals are the fixed
segments: each of them takes one position of the path and declares no parameter.
-/
namespace RouteParams.SegmentForm

variable {text bare : List Char} {marker : Marker} {form : SegmentForm}

theorem opening_of_inside? {opening closing text inner : List Char}
    (found : inside? opening closing text = some inner) : opening <+: text := by
  obtain ⟨after, begins, _⟩ := Option.bind_eq_some_iff.1 found
  have whole := Text.isPrefixOf?_eq_some begins
  have shortened : Text.dropFinalNewline text <+: text := by
    rw [Text.dropFinalNewline]
    split
    · exact List.dropLast_prefix text
    · exact List.prefix_rfl
  exact List.IsPrefix.trans ⟨after, whole⟩ shortened

theorem head?_of_param? {found : ParamKind × List Char} (param : param? text = some found) :
    text.head? = some '[' := by
  obtain ⟨kind, _, named⟩ := List.exists_of_findSome?_eq_some param
  obtain ⟨name, named, _⟩ := Option.map_eq_some_iff.1 named
  obtain ⟨rest, rfl⟩ := opening_of_inside? (Option.filter_eq_some_iff.1 named).1
  cases kind <;> rfl

theorem param?_eq_none_of_strip? {found : Marker × List Char}
    (strips : Marker.strip? text = some found) : param? text = none := by
  obtain ⟨marker, bare⟩ := found
  obtain ⟨_, rfl⟩ := Marker.leads_of_strip? strips
  cases param : param? (marker.chars ++ bare) with
  | none => rfl
  | some declared =>
    have first := head?_of_param? param
    cases marker <;> cases first

theorem isParam_iff : form.isParam = true ↔ ∃ kind name, form = .param kind name := by
  cases form <;> simp [isParam]

theorem isParam_ofChars (text : List Char) : (ofChars text).isParam = (param? text).isSome := by
  rw [ofChars]
  split
  · rename_i empty
    rw [empty]
    decide
  · cases param? text with
    | some found => rfl
    | none =>
      dsimp only
      cases Marker.strip? text with
      | some found => rfl
      | none => cases groupName? text <;> rfl

theorem unmarked_of_isParam (declares : (ofChars text).isParam = true) : Marker.strip? text = none := by
  rw [isParam_ofChars] at declares
  cases strips : Marker.strip? text with
  | none => rfl
  | some found =>
    rw [param?_eq_none_of_strip? strips] at declares
    cases declares

theorem ofChars_of_strip? (strips : Marker.strip? text = some (marker, bare)) :
    ofChars text = .interception marker (String.ofList bare) := by
  have nonempty : text ≠ [] := by
    rintro rfl
    cases strips
  have undeclared := param?_eq_none_of_strip? strips
  simp only [ofChars, if_neg nonempty, undeclared, strips]

/-! ## Parameters -/

theorem isParamName_of_param? {name : List Char} {kind : ParamKind}
    (found : param? text = some (kind, name)) : isParamName name = true := by
  obtain ⟨other, _, named⟩ := List.exists_of_findSome?_eq_some found
  obtain ⟨inner, named, same⟩ := Option.map_eq_some_iff.1 named
  cases same
  exact (Option.filter_eq_some_iff.1 named).2

theorem isParamName_of_ofChars {name : String} {kind : ParamKind}
    (form : ofChars text = .param kind name) :
    ∃ chars, name = String.ofList chars ∧ isParamName chars = true := by
  rw [ofChars] at form
  split at form
  · cases form
  · split at form
    · rename_i found
      cases form
      exact ⟨_, rfl, isParamName_of_param? found⟩
    · split at form
      · cases form
      · split at form
        · cases form
        · cases form

theorem inside?_of_brackets (kind : ParamKind) (name : List Char) :
    inside? (opening kind) (closing kind) (opening kind ++ name ++ closing kind) = some name := by
  have ends : (opening kind ++ name ++ closing kind).getLast? = some ']' := by
    rw [List.getLast?_append]
    cases kind <;> rfl
  have whole : Text.dropFinalNewline (opening kind ++ name ++ closing kind) =
      opening kind ++ (name ++ closing kind) := by
    rw [Text.dropFinalNewline, ends, if_neg (by decide), List.append_assoc]
  rw [inside?, whole, List.isPrefixOf?_eq_some_iff_append_eq.2 rfl]
  exact List.isSuffixOf?_eq_some_iff_append_eq.2 rfl

/-- The name between the brackets of an optional catch-all. -/
theorem ofChars_of_optionalCatchAll {name : List Char} (valid : isParamName name = true) :
    ofChars (opening .optionalCatchAll ++ name ++ closing .optionalCatchAll) =
      .param .optionalCatchAll (String.ofList name) := by
  have named : paramName? .optionalCatchAll
      (opening .optionalCatchAll ++ name ++ closing .optionalCatchAll) = some name := by
    rw [paramName?, inside?_of_brackets, Option.filter_some_pos valid]
  have found : param? (opening .optionalCatchAll ++ name ++ closing .optionalCatchAll) =
      some (.optionalCatchAll, name) := by
    rw [param?, paramKinds, List.findSome?_cons, named]
    rfl
  have nonempty : opening .optionalCatchAll ++ name ++ closing .optionalCatchAll ≠ [] :=
    List.cons_ne_nil _ _
  rw [ofChars, if_neg nonempty, found]

/-! ## Fixed segments -/

def isFixed : SegmentForm → Bool
  | .interception _ _ => true
  | .literal _ => true
  | _ => false

theorem isParam_of_isFixed (fixed : form.isFixed = true) : form.isParam = false := by
  cases form with
  | interception marker name => rfl
  | literal text => rfl
  | root => cases fixed
  | group name => cases fixed
  | param kind name => cases fixed

theorem contribution_of_isFixed (fixed : form.isFixed = true) : form.contribution = 1 := by
  cases form with
  | interception marker name => rfl
  | literal text => rfl
  | root => cases fixed
  | group name => cases fixed
  | param kind name => cases fixed

/-- Brackets and parentheses behind a marker do not make a parameter or a group of the segment. -/
theorem isFixed_of_marked (marker : Marker) (rest : String) :
    (ofText (marker.text ++ rest)).isFixed = true := by
  have begins : marker.chars <+: (marker.text ++ rest).toList := by
    rw [String.toList_append, Marker.text, String.toList_ofList]
    exact List.prefix_append _ _
  cases strips : Marker.strip? (marker.text ++ rest).toList with
  | none => exact absurd begins (Marker.strip?_eq_none_iff.1 strips marker)
  | some found =>
    rw [ofText, ofChars_of_strip? strips]
    rfl

end RouteParams.SegmentForm
