import RouteParams.Json.Reader
import RouteParams.Proofs.Json.Escape
import RouteParams.Proofs.Tree.SlotTable

/-!
Values in JSON and back. A value of texts, arrays and objects is read back from its own text, whatever
characters its texts hold, when no object of it repeats a name. A mark, a blank and a printed text are one
step of the reader each, and the steps of a value end where the value is closed.
-/
namespace RouteParams.Json

variable {frames : List Frame} {rest : List Char}

/-- The state in which the tokens of a text leave the reader. -/
def advance (state : State) (cs : List Char) : Except Fault State :=
  (tokens cs).foldlM State.step state

theorem advance_cons {c : Char} (state : State) (solid : isBlank c = false) :
    advance state (c :: rest) =
      (state.step ⟨(lexeme c rest).1, c :: rest⟩).bind fun next => advance next (lexeme c rest).2 := by
  rw [advance, tokens, solid, if_neg Bool.false_ne_true]
  rfl

theorem advance_mark {c : Char} {state next : State} (solid : isBlank c = false) (mark : isMark c = true)
    (step : state.step ⟨.mark c, c :: rest⟩ = .ok next) :
    advance state (c :: rest) = advance next rest := by
  have read : lexeme c rest = (.mark c, rest) := if_pos mark
  rw [advance_cons state solid, read, step]
  rfl

theorem advance_blank (state : State) : advance state (' ' :: rest) = advance state rest := by
  rw [advance, tokens]
  rfl

theorem advance_text {text : String} {state next : State}
    (step : state.step ⟨.text (.ok text), textChars text ++ rest⟩ = .ok next) :
    advance state (textChars text ++ rest) = advance next rest := by
  have read : lexeme '"' (text.toList.flatMap escaped ++ '"' :: rest) = (.text (.ok text), rest) := by
    rw [lexeme, if_neg (by decide), if_pos rfl, textUnits_printed]
    simp only [joinUnits?_flatMap, String.ofList_toList]
  have whole : textChars text ++ rest = '"' :: (text.toList.flatMap escaped ++ '"' :: rest) := by
    simp [textChars]
  rw [whole] at step ⊢
  rw [advance_cons state rfl, read, step]
  rfl

/-- Where a value may stand, the characters are read as the value. -/
def Reads (cs : List Char) (value : Json) : Prop :=
  ∀ (frames : List Frame) (rest : List Char),
    advance (.awaitValue frames) (cs ++ rest) = advance (.close value frames) rest

theorem reads_text (text : String) : Reads (textChars text) (.text text) :=
  fun _ _ => advance_text rfl

/-- Only a mark itself is read as the mark. -/
theorem isMark_lexeme {mark c : Char} (rest : List Char) (other : c ≠ mark) (place : List Char) :
    State.isMark mark ⟨(lexeme c rest).1, place⟩ = false := by
  fun_cases lexeme c rest with
  | case1 => exact beq_false_of_ne other
  | _ => rfl

/-- Where an array has just been opened, a first item is read as any value is. -/
theorem advance_awaitItem {c : Char} (solid : isBlank c = false) (other : c ≠ ']') :
    advance (.awaitItem frames) (c :: rest) = advance (.awaitValue (.item [] :: frames)) (c :: rest) := by
  have unclosed := isMark_lexeme rest other (c :: rest)
  rw [advance_cons _ solid, advance_cons _ solid, State.step.eq_def]
  simp only [unclosed, if_neg Bool.false_ne_true]
  rfl

theorem separated_cons_cons (first second : List Char) (others : List (List Char)) :
    separated (first :: second :: others) = first ++ ',' :: ' ' :: separated (second :: others) :=
  rfl

theorem advance_items {item : Json} {items : List Json}
    (reads : ∀ other ∈ item :: items, Reads (chars other) other) (before : List Json) :
    advance (.awaitValue (.item before :: frames)) (separated (itemChars (item :: items)) ++ ']' :: rest) =
      advance (.close (.array (before.reverse ++ item :: items)) frames) rest := by
  -- along the items, of which the frame holds those already read in reverse order
  induction items generalizing item before with
  | nil =>
    rw [itemChars, itemChars, separated, reads item List.mem_cons_self]
    rw [State.close, advance_mark rfl rfl rfl, List.reverse_cons]
  | cons next items ih =>
    have later := ih (fun other member => reads other (List.mem_cons_of_mem _ member)) (item :: before)
    rw [itemChars, itemChars, separated_cons_cons, ← itemChars, List.append_assoc, reads item List.mem_cons_self]
    rw [List.cons_append, List.cons_append, State.close, advance_mark rfl rfl rfl, advance_blank, later]
    simp

theorem advance_member {name : String} {value : Json} {before : NameTable Json}
    (reads : Reads (chars value) value) (fresh : name ∉ before.names) :
    advance (.awaitName before frames) (textChars name ++ ':' :: ' ' :: chars value ++ rest) =
      advance (.afterMember (before ++ [(name, value)]) frames) rest := by
  rw [List.append_assoc, List.cons_append, List.cons_append, advance_text rfl]
  rw [advance_mark rfl rfl rfl, advance_blank, reads, State.close, NameTable.put_of_not_mem fresh]

theorem advance_members {member : String × Json} {members : List (String × Json)}
    (reads : ∀ other ∈ member :: members, Reads (chars other.2) other.2) (before : NameTable Json)
    (distinct : (NameTable.names (before ++ member :: members)).Nodup) :
    advance (.awaitName before frames) (separated (memberChars (member :: members)) ++ '}' :: rest) =
      advance (.close (.object (before ++ member :: members)) frames) rest := by
  -- along the members; a fresh name goes to the end of those before it, so the order is kept
  induction members generalizing member before with
  | nil =>
    rw [memberChars, memberChars, separated]
    rw [advance_member (reads member List.mem_cons_self) (NameTable.fresh_of_split distinct).1]
    exact advance_mark rfl rfl rfl
  | cons next members ih =>
    have later := ih (fun other inside => reads other (List.mem_cons_of_mem _ inside)) (before ++ [member])
    rw [List.append_assoc, List.singleton_append] at later
    rw [memberChars, memberChars, separated_cons_cons, ← memberChars, List.append_assoc]
    rw [advance_member (reads member List.mem_cons_self) (NameTable.fresh_of_split distinct).1]
    rw [List.cons_append, List.cons_append, advance_mark rfl rfl rfl, advance_blank, later distinct]

/-- A value of texts, arrays and objects in which no object repeats a name. -/
inductive IsPlain : Json → Prop
  | text (value : String) : IsPlain (.text value)
  | array {items : List Json} (each : ∀ item ∈ items, IsPlain item) : IsPlain (.array items)
  | object {members : NameTable Json} (distinct : members.names.Nodup)
      (each : ∀ member ∈ members, IsPlain member.2) : IsPlain (.object members)

/-- The text of such a value begins with the mark of a text, an array or an object. -/
theorem IsPlain.begins {value : Json} (plain : IsPlain value) :
    ∃ (c : Char) (cs : List Char),
      chars value = c :: cs ∧ isBlank c = false ∧ c ≠ ']' ∧ c ≠ '\ufeff' := by
  cases plain with
  | text value => exact ⟨'"', _, rfl, by decide⟩
  | array each => exact ⟨'[', _, rfl, by decide⟩
  | object distinct each => exact ⟨'{', _, rfl, by decide⟩

theorem separated_begins (first : List Char) (others : List (List Char)) :
    ∃ more, separated (first :: others) = first ++ more := by
  cases others with
  | nil => exact ⟨[], (List.append_nil first).symm⟩
  | cons second others => exact ⟨_, separated_cons_cons first second others⟩

theorem advance_array {item : Json} {items : List Json} (plain : IsPlain item)
    (reads : ∀ other ∈ item :: items, Reads (chars other) other) :
    advance (.awaitItem frames) (separated (itemChars (item :: items)) ++ ']' :: rest) =
      advance (.close (.array (item :: items)) frames) rest := by
  obtain ⟨c, cs, whole, solid, unclosed, _⟩ := plain.begins
  obtain ⟨more, first⟩ := separated_begins (chars item) (itemChars items)
  have opened : advance (.awaitItem frames) (separated (itemChars (item :: items)) ++ ']' :: rest) =
      advance (.awaitValue (.item [] :: frames)) (separated (itemChars (item :: items)) ++ ']' :: rest) := by
    rw [itemChars, first, whole, List.cons_append, List.cons_append]
    exact advance_awaitItem solid unclosed
  exact opened.trans (advance_items reads [])

theorem advance_object {member : String × Json} {members : NameTable Json}
    (reads : ∀ other ∈ member :: members, Reads (chars other.2) other.2)
    (distinct : (NameTable.names (member :: members)).Nodup) :
    advance (.awaitMember frames) (separated (memberChars (member :: members)) ++ '}' :: rest) =
      advance (.close (.object (member :: members)) frames) rest := by
  obtain ⟨more, first⟩ :=
    separated_begins (textChars member.1 ++ ':' :: ' ' :: chars member.2) (memberChars members)
  have opened : advance (.awaitMember frames) (separated (memberChars (member :: members)) ++ '}' :: rest) =
      advance (.awaitName [] frames) (separated (memberChars (member :: members)) ++ '}' :: rest) := by
    rw [memberChars, first, List.append_assoc, List.append_assoc, advance_text rfl, advance_text rfl]
  exact opened.trans (advance_members reads [] distinct)

theorem IsPlain.reads {value : Json} (plain : IsPlain value) : Reads (chars value) value := by
  induction plain with
  | text value => exact reads_text value
  | @array items each ih =>
    intro frames rest
    rw [chars, List.cons_append, List.append_assoc, List.singleton_append, advance_mark rfl rfl rfl]
    cases items with
    | nil => exact advance_mark rfl rfl rfl
    | cons item items => exact advance_array (each item List.mem_cons_self) ih
  | @object members distinct each ih =>
    intro frames rest
    rw [chars, List.cons_append, List.append_assoc, List.singleton_append, advance_mark rfl rfl rfl]
    cases members with
    | nil => exact advance_mark rfl rfl rfl
    | cons member members => exact advance_object ih distinct

/-- A plain value is read back from its text. -/
theorem read_chars {value : Json} (plain : IsPlain value) : read (chars value) = .ok value := by
  obtain ⟨c, cs, whole, _, _, unmarked⟩ := plain.begins
  have unmarked : ¬(chars value).head? = some '\ufeff' := by
    rwa [whole, List.head?_cons, Option.some_inj]
  have ended : advance (.awaitValue []) (chars value) = .ok (.complete value) := by
    have reads := plain.reads [] []
    rw [List.append_nil] at reads
    rw [reads, advance, tokens]
    rfl
  rw [advance] at ended
  rw [read, if_neg unmarked, ended]
  rfl

/-! ## The line of a value -/

theorem isVisibleAscii_of_mem_separated {parts : List (List Char)}
    (each : ∀ part ∈ parts, ∀ c ∈ part, Text.isVisibleAscii c = true) :
    ∀ c ∈ separated parts, Text.isVisibleAscii c = true := by
  induction parts with
  | nil => exact fun c inside => absurd inside List.not_mem_nil
  | cons part parts ih =>
    obtain ⟨first, others⟩ := List.forall_mem_cons.1 each
    cases parts with
    | nil => exact first
    | cons next parts =>
      refine List.forall_mem_append.2 ⟨first, List.forall_mem_cons.2 ⟨by decide, ?_⟩⟩
      exact List.forall_mem_cons.2 ⟨by decide, ih others⟩

theorem itemChars_eq (items : List Json) : itemChars items = items.map chars := by
  induction items with
  | nil => rfl
  | cons item items ih => rw [itemChars, ih, List.map_cons]

theorem memberChars_eq (members : List (String × Json)) :
    memberChars members = members.map fun member => textChars member.1 ++ ':' :: ' ' :: chars member.2 := by
  induction members with
  | nil => rfl
  | cons member members ih => rw [memberChars, ih, List.map_cons]

theorem IsPlain.isVisibleAscii {value : Json} (plain : IsPlain value) :
    ∀ c ∈ chars value, Text.isVisibleAscii c = true := by
  induction plain with
  | text value => exact isVisibleAscii_of_mem_textChars value
  | array each ih =>
    refine List.forall_mem_cons.2 ⟨by decide, List.forall_mem_append.2 ⟨?_, List.all_eq_true.1 rfl⟩⟩
    rw [itemChars_eq]
    exact isVisibleAscii_of_mem_separated (List.forall_mem_map.2 ih)
  | object distinct each ih =>
    refine List.forall_mem_cons.2 ⟨by decide, List.forall_mem_append.2 ⟨?_, List.all_eq_true.1 rfl⟩⟩
    rw [memberChars_eq]
    refine isVisibleAscii_of_mem_separated (List.forall_mem_map.2 fun member inside => ?_)
    refine List.forall_mem_append.2 ⟨isVisibleAscii_of_mem_textChars member.1, ?_⟩
    exact List.forall_mem_cons.2 ⟨by decide, List.forall_mem_cons.2 ⟨by decide, ih member inside⟩⟩

end RouteParams.Json
