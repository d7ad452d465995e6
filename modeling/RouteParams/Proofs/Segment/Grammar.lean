import RouteParams.Proofs.Segment.Form

/-!
The grammar of segments. A text spells out the root, a parameter, an interception or a group, or else it
stands for itself; brackets and parentheses may have one newline behind them. The reader of segments decides
this grammar: every text has exactly one form, and two texts of the same form differ at most in a final newline.
-/
namespace RouteParams

namespace Text

/-- The text is as it is written, or has one newline behind it. -/
def IsWritten (written text : String) : Prop :=
  text = written ∨ text = written ++ "\n"

theorem dropFinalNewline_eq_iff {written text : List Char} (closed : written.getLast? ≠ some '\n') :
    dropFinalNewline text = written ↔ text = written ∨ text = written ++ ['\n'] := by
  rw [dropFinalNewline]
  split
  · rename_i ends
    obtain ⟨front, rfl⟩ := List.getLast?_eq_some_iff.1 ends
    rw [List.dropLast_concat]
    constructor
    · rintro rfl
      exact .inr rfl
    · rintro (same | same)
      · exact absurd (same ▸ List.getLast?_concat) closed
      · exact List.append_cancel_right same
  · rename_i unended
    constructor
    · exact .inl
    · rintro (same | same)
      · exact same
      · exact absurd (same ▸ List.getLast?_concat) unended

theorem isWritten_iff {written text : String} (closed : written.toList.getLast? ≠ some '\n') :
    IsWritten written text ↔ dropFinalNewline text.toList = written.toList := by
  rw [dropFinalNewline_eq_iff closed, IsWritten, ← String.toList_inj, ← String.toList_inj,
    String.toList_append]
  rfl

theorem IsWritten.alike {written text other : String} (first : IsWritten written text)
    (second : IsWritten written other) : IsWritten text other ∨ IsWritten other text := by
  rcases first with rfl | rfl
  · exact .inl second
  · rcases second with rfl | rfl
    · exact .inr (.inr rfl)
    · exact .inl (.inl rfl)

end Text

theorem Marker.strip?_toList_eq_some_iff {text name : String} {marker : Marker} :
    strip? text.toList = some (marker, name.toList) ↔
      marker.Leads text.toList ∧ text = marker.text ++ name := by
  rw [strip?_eq_some_iff, ← String.toList_inj, String.toList_append, Marker.text, String.toList_ofList,
    eq_comm (a := text.toList)]

namespace SegmentForm

/-! ## The grammar -/

/-- What may stand between the brackets of a parameter. -/
structure NamesParam (name : String) : Prop where
  nonempty : name ≠ ""
  bracketless : ∀ c ∈ name.toList, c ≠ '[' ∧ c ≠ ']'

/-- What may stand between the parentheses of a group. -/
structure NamesGroup (name : String) : Prop where
  nonempty : name ≠ ""
  undotted : name.toList.head? ≠ some '.'
  unparenthesized : ∀ c ∈ name.toList, c ≠ '(' ∧ c ≠ ')'

def bracketed (name : String) : ParamKind → String
  | .optionalCatchAll => "[[..." ++ name ++ "]]"
  | .catchAll => "[..." ++ name ++ "]"
  | .dynamic => "[" ++ name ++ "]"

/-- The text spells the form out. Three dots with something behind them do not name a dynamic parameter, since
they are read as the opening of a catch-all; three dots alone do. -/
inductive Spells : String → SegmentForm → Prop
  | root : Spells "" .root
  | param {text name : String} {kind : ParamKind} (named : NamesParam name)
      (whole : kind = .dynamic → ∀ rest, rest ≠ "" → name ≠ "..." ++ rest)
      (written : Text.IsWritten (bracketed name kind) text) : Spells text (.param kind name)
  | interception {text name : String} {marker : Marker} (leads : marker.Leads text.toList)
      (whole : text = marker.text ++ name) : Spells text (.interception marker name)
  | group {text name : String} (named : NamesGroup name)
      (written : Text.IsWritten ("(" ++ name ++ ")") text) : Spells text (.group name)

/-- A text that spells nothing else out stands for itself. -/
def Denotes (text : String) (form : SegmentForm) : Prop :=
  Spells text form ∨ (form = .literal text ∧ ∀ other, ¬Spells text other)

variable {text name inner : List Char} {kind : ParamKind}

/-! ## Names between brackets and parentheses -/

theorem inside?_eq_some_iff {opening closing : List Char} :
    inside? opening closing text = some inner ↔
      Text.dropFinalNewline text = opening ++ inner ++ closing := by
  rw [inside?, Option.bind_eq_some_iff, List.append_assoc]
  constructor
  · rintro ⟨after, begins, ends⟩
    rw [List.isSuffixOf?_eq_some_iff_append_eq.1 ends, List.isPrefixOf?_eq_some_iff_append_eq.1 begins]
  · intro whole
    exact ⟨inner ++ closing, List.isPrefixOf?_eq_some_iff_append_eq.2 whole.symm,
      List.isSuffixOf?_eq_some_iff_append_eq.2 rfl⟩

theorem isParamName_iff {name : String} : isParamName name.toList = true ↔ NamesParam name := by
  simp only [isParamName, Bool.and_eq_true, Bool.not_eq_true', List.isEmpty_eq_false_iff, ne_eq,
    String.toList_eq_nil_iff, List.all_eq_true, bne_iff_ne]
  exact ⟨fun named => ⟨named.1, named.2⟩, fun named => ⟨named.nonempty, named.bracketless⟩⟩

theorem isGroupName_iff {name : String} : isGroupName name.toList = true ↔ NamesGroup name := by
  simp only [isGroupName, Bool.and_eq_true, Bool.not_eq_true', List.isEmpty_eq_false_iff, ne_eq,
    String.toList_eq_nil_iff, List.all_eq_true, bne_iff_ne]
  exact ⟨fun named => ⟨named.1.1, named.1.2, named.2⟩,
    fun named => ⟨⟨named.nonempty, named.undotted⟩, named.unparenthesized⟩⟩

theorem toList_bracketed (name : String) (kind : ParamKind) :
    (bracketed name kind).toList = opening kind ++ name.toList ++ closing kind := by
  cases kind <;> simp only [bracketed, String.toList_append] <;> rfl

theorem paramName?_eq_some_iff : paramName? kind text = some name ↔
    Text.dropFinalNewline text = opening kind ++ name ++ closing kind ∧ isParamName name = true := by
  rw [paramName?, Option.filter_eq_some_iff, inside?_eq_some_iff]

theorem isWritten_bracketed_iff {text name : String} :
    Text.IsWritten (bracketed name kind) text ∧ NamesParam name ↔
      paramName? kind text.toList = some name.toList := by
  have ends : (bracketed name kind).toList.getLast? = some ']' := by
    rw [toList_bracketed, List.getLast?_append]
    cases kind <;> rfl
  rw [Text.isWritten_iff (by rw [ends]; decide), toList_bracketed, paramName?_eq_some_iff, isParamName_iff]

-- Two brackets at the beginning are not those of another parameter, for no name begins with a bracket.
theorem eq_optionalCatchAll (optional : paramName? .optionalCatchAll text = some inner)
    (named : paramName? kind text = some name) : kind = .optionalCatchAll := by
  obtain ⟨whole, _⟩ := paramName?_eq_some_iff.1 optional
  obtain ⟨same, valid⟩ := paramName?_eq_some_iff.1 named
  rw [whole] at same
  cases kind with
  | optionalCatchAll => rfl
  | catchAll => cases same
  | dynamic =>
    cases name with
    | nil => cases valid
    | cons c rest =>
      have second : some '[' = some c := congrArg (fun chars : List Char => chars[1]?) same
      cases second
      simp [isParamName] at valid

theorem param?_eq_some_iff : param? text = some (kind, name) ↔
    paramName? kind text = some name ∧ (kind = .dynamic → paramName? .catchAll text = none) := by
  rw [param?, paramKinds, List.findSome?_cons, List.findSome?_cons, List.findSome?_cons,
    List.findSome?_nil]
  cases optional : paramName? .optionalCatchAll text with
  | some inner =>
    constructor
    · intro same
      cases same
      refine ⟨optional, ?_⟩
      rintro ⟨⟩
    · rintro ⟨named, _⟩
      obtain rfl := eq_optionalCatchAll optional named
      cases optional.symm.trans named
      rfl
  | none =>
    cases required : paramName? .catchAll text with
    | some inner =>
      constructor
      · intro same
        cases same
        refine ⟨required, ?_⟩
        rintro ⟨⟩
      · rintro ⟨named, unread⟩
        cases kind with
        | optionalCatchAll => cases optional.symm.trans named
        | catchAll =>
          cases required.symm.trans named
          rfl
        | dynamic => cases unread rfl
    | none =>
      constructor
      · intro same
        cases single : paramName? .dynamic text with
        | none =>
          rw [single] at same
          cases same
        | some inner =>
          rw [single] at same
          cases same
          exact ⟨single, fun _ => rfl⟩
      · rintro ⟨named, _⟩
        cases kind with
        | optionalCatchAll => cases optional.symm.trans named
        | catchAll => cases required.symm.trans named
        | dynamic =>
          rw [named]
          rfl

/-- What stands behind three dots in single brackets is the name of a catch-all. -/
theorem paramName?_catchAll_iff (single : paramName? .dynamic text = some name) :
    paramName? .catchAll text = some inner ↔ inner ≠ [] ∧ name = ['.', '.', '.'] ++ inner := by
  obtain ⟨whole, valid⟩ := paramName?_eq_some_iff.1 single
  rw [paramName?_eq_some_iff, whole]
  constructor
  · rintro ⟨same, named⟩
    refine ⟨?_, List.append_cancel_right (List.cons.inj same).2⟩
    rintro rfl
    cases named
  · rintro ⟨nonempty, rfl⟩
    refine ⟨rfl, ?_⟩
    simp only [isParamName, List.all_append, Bool.and_eq_true] at valid ⊢
    exact ⟨by simpa using nonempty, valid.2.2⟩

theorem groupName?_eq_some_iff : groupName? text = some name ↔
    Text.dropFinalNewline text = ['('] ++ name ++ [')'] ∧ isGroupName name = true := by
  rw [groupName?, Option.filter_eq_some_iff, inside?_eq_some_iff]

theorem isWritten_parenthesized_iff {text name : String} :
    Text.IsWritten ("(" ++ name ++ ")") text ∧ NamesGroup name ↔
      groupName? text.toList = some name.toList := by
  have written : ("(" ++ name ++ ")").toList = ['('] ++ name.toList ++ [')'] := by
    rw [String.toList_append, String.toList_append]
    rfl
  have ends : ("(" ++ name ++ ")").toList.getLast? = some ')' := by
    rw [written, List.getLast?_concat]
  rw [Text.isWritten_iff (by rw [ends]; decide), written, groupName?_eq_some_iff, isGroupName_iff]

theorem exists_cons_of_groupName? (grouped : groupName? text = some name) :
    ∃ c behind, c ≠ '.' ∧ text = '(' :: c :: behind := by
  obtain ⟨whole, valid⟩ := groupName?_eq_some_iff.1 grouped
  cases name with
  | nil => cases valid
  | cons c rest =>
    have undotted : c ≠ '.' := by
      rintro rfl
      simp [isGroupName] at valid
    rcases (Text.dropFinalNewline_eq_iff (by rw [List.getLast?_concat]; decide)).1 whole with rfl | rfl
    · exact ⟨c, rest ++ [')'], undotted, rfl⟩
    · exact ⟨c, rest ++ [')'] ++ ['\n'], undotted, rfl⟩

/-- A group is no parameter, and it begins with no marker, since its name does not begin with a dot. -/
theorem unread_of_groupName? (grouped : groupName? text = some name) :
    text ≠ [] ∧ param? text = none ∧ Marker.strip? text = none := by
  obtain ⟨c, behind, undotted, rfl⟩ := exists_cons_of_groupName? grouped
  refine ⟨List.cons_ne_nil _ _, ?_, ?_⟩
  · cases declared : param? ('(' :: c :: behind) with
    | none => rfl
    | some found => cases head?_of_param? declared
  · apply Marker.strip?_eq_none_iff.2
    rintro marker ⟨after, same⟩
    have second := congrArg (fun chars : List Char => chars[1]?) same
    have dotted : some '.' = some c := by
      cases marker <;> exact second
    exact undotted (Option.some.inj dotted).symm

/-! ## Reading the forms -/

theorem spells_or_literal (text : String) :
    Spells text (ofText text) ∨ ofText text = .literal text := by
  have back (chars : List Char) : (String.ofList chars).toList = chars := String.toList_ofList
  rw [ofText, ofChars]
  split
  · rename_i empty
    rw [String.toList_eq_nil_iff.1 empty]
    exact .inl .root
  · split
    · rename_i kind name declared
      obtain ⟨read, unread⟩ := param?_eq_some_iff.1 declared
      rw [← back name] at read
      obtain ⟨written, named⟩ := isWritten_bracketed_iff.2 read
      refine .inl (.param named ?_ written)
      rintro rfl rest nonempty same
      have dotted : paramName? .catchAll text.toList = some rest.toList := by
        refine (paramName?_catchAll_iff read).2 ⟨by simpa using nonempty, ?_⟩
        rw [same, String.toList_append]
        rfl
      cases (unread rfl).symm.trans dotted
    · split
      · rename_i marker name strips
        rw [← back name] at strips
        obtain ⟨leads, whole⟩ := Marker.strip?_toList_eq_some_iff.1 strips
        exact .inl (.interception leads whole)
      · split
        · rename_i name grouped
          rw [← back name] at grouped
          obtain ⟨written, named⟩ := isWritten_parenthesized_iff.2 grouped
          exact .inl (.group named written)
        · exact .inr (by rw [String.ofList_toList])

theorem ofText_of_spells {text : String} {form : SegmentForm} (spells : Spells text form) :
    ofText text = form := by
  cases spells with
  | root => rfl
  | @param _ name kind named whole written =>
    have read := isWritten_bracketed_iff.1 ⟨written, named⟩
    have declared : param? text.toList = some (kind, name.toList) := by
      refine param?_eq_some_iff.2 ⟨read, ?_⟩
      rintro rfl
      cases dotted : paramName? .catchAll text.toList with
      | none => rfl
      | some inner =>
        obtain ⟨nonempty, same⟩ := (paramName?_catchAll_iff read).1 dotted
        refine absurd ?_ (whole rfl (String.ofList inner) (by simpa using nonempty))
        have back : (String.ofList inner).toList = inner := String.toList_ofList
        rw [← String.toList_inj, String.toList_append, back, same]
        rfl
    have nonempty : text.toList ≠ [] := by
      intro empty
      rw [empty] at declared
      cases declared
    simp only [ofText, ofChars, if_neg nonempty, declared, String.ofList_toList]
  | @interception _ name marker leads whole =>
    have strips := Marker.strip?_toList_eq_some_iff.2 ⟨leads, whole⟩
    rw [ofText, ofChars_of_strip? strips, String.ofList_toList]
  | @group _ name named written =>
    have grouped := isWritten_parenthesized_iff.1 ⟨written, named⟩
    obtain ⟨nonempty, undeclared, unmarked⟩ := unread_of_groupName? grouped
    simp only [ofText, ofChars, if_neg nonempty, undeclared, unmarked, grouped, String.ofList_toList]

theorem ofText_eq_iff_denotes (text : String) (form : SegmentForm) :
    ofText text = form ↔ Denotes text form := by
  have unspelled (literal : ofText text = .literal text) (other : SegmentForm) :
      ¬Spells text other := by
    intro spells
    rw [ofText_of_spells spells] at literal
    subst literal
    cases spells
  constructor
  · rintro rfl
    rcases spells_or_literal text with spells | literal
    · exact .inl spells
    · exact .inr ⟨literal, unspelled literal⟩
  · rintro (spells | ⟨rfl, nothing⟩)
    · exact ofText_of_spells spells
    · exact (spells_or_literal text).resolve_left (nothing _)

/-- Two texts that spell the same form out differ at most in a final newline. -/
theorem Spells.alike {text other : String} {form : SegmentForm} (first : Spells text form)
    (second : Spells other form) : Text.IsWritten text other ∨ Text.IsWritten other text := by
  cases first with
  | root =>
    cases second
    exact .inl (.inl rfl)
  | param _ _ written =>
    cases second with
    | param _ _ written' => exact written.alike written'
  | interception _ whole =>
    cases second with
    | interception _ whole' => exact .inl (.inl (whole'.trans whole.symm))
  | group _ written =>
    cases second with
    | group _ written' => exact written.alike written'

theorem Denotes.alike {text other : String} {form : SegmentForm} (first : Denotes text form)
    (second : Denotes other form) : Text.IsWritten text other ∨ Text.IsWritten other text := by
  rcases first with spells | ⟨rfl, _⟩
  · rcases second with spells' | ⟨rfl, _⟩
    · exact spells.alike spells'
    · cases spells
  · rcases second with spells' | ⟨same, _⟩
    · cases spells'
    · cases same
      exact .inl (.inl rfl)

/-- The reader of segments decides the grammar. What it reads from a text is what the text denotes there,
every text denotes exactly one form, and the form tells the text but for a final newline. -/
theorem decides_grammar :
    (∀ text form, ofText text = form ↔ Denotes text form) ∧
    (∀ text, ∃! form, Denotes text form) ∧
    ∀ text other, ofText text = ofText other →
      Text.IsWritten text other ∨ Text.IsWritten other text := by
  have decides := ofText_eq_iff_denotes
  refine ⟨decides, ?_, ?_⟩
  · intro text
    refine ⟨ofText text, (decides text _).1 rfl, ?_⟩
    intro form denotes
    exact ((decides text form).2 denotes).symm
  · intro text other same
    exact ((decides text _).1 same).alike ((decides other _).1 rfl)

/-- Three dots with nothing behind them are a name like any other, and the newline is none of it. -/
example : ofText "[...]\n" = .param .dynamic "..." := by decide +kernel

end SegmentForm
end RouteParams
