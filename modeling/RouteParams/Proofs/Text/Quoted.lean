import RouteParams.Proofs.Json.Escape

/-!
Quoted texts read back. Every character of a quoted text is written in a way that can be read before anything that
follows it, and none is written as the enclosing mark alone, so a quoted text shows what it holds and where it ends.
-/
namespace RouteParams.Text

/-- The character that an escape by number stands for, and what follows the digits. -/
def numbered? (width : Nat) (rest : List Char) : Option (Char × List Char) :=
  (Json.hexNumber? (rest.take width)).map fun n => (Char.ofNat n, rest.drop width)

/-- What a letter behind a backslash stands for. A letter that announces nothing else stands for itself. -/
def lettered? (letter : Char) (rest : List Char) : Option (Char × List Char) :=
  match letter with
  | 'n' => some ('\n', rest)
  | 'r' => some ('\r', rest)
  | 't' => some ('\t', rest)
  | 'x' => numbered? 2 rest
  | 'u' => numbered? 4 rest
  | 'U' => numbered? 8 rest
  | _ => some (letter, rest)

/-- The first character that is held between the marks, read from how it is written there. -/
def unescaped? : List Char → Option (Char × List Char)
  | '\\' :: letter :: rest => lettered? letter rest
  | c :: rest => some (c, rest)
  | [] => none

variable {mark c d : Char} {text other rest after : List Char}

theorem enclosingMark_cases (text : List Char) :
    enclosingMark text = '\'' ∨ enclosingMark text = '"' := by
  unfold enclosingMark
  split
  · exact .inr rfl
  · exact .inl rfl

theorem unescaped?_self (plain : c ≠ '\\') (rest : List Char) :
    unescaped? (c :: rest) = some (c, rest) := by
  rw [unescaped?]
  intro letter others
  simp [plain]

theorem numbered?_hexDigits {width : Nat} (fits : c.toNat < Nat.pow 16 width) :
    numbered? width (hexDigits width c.toNat ++ rest) = some (c, rest) := by
  have length := length_hexDigits width c.toNat
  rw [numbered?, List.take_left' length, List.drop_left' length, Json.hexNumber?_hexDigits,
    Nat.mod_eq_of_lt fits, Option.map_some, Char.ofNat_toNat]

theorem unescaped?_escaped (either : mark = '\'' ∨ mark = '"') (c : Char) (rest : List Char) :
    unescaped? (escaped mark c ++ rest) = some (c, rest) := by
  fun_cases escaped mark c with
  | case1 itself =>
    rcases itself with rfl | rfl
    · rcases either with rfl | rfl <;> rfl
    · rfl
  | case2 => subst_vars; rfl
  | case3 => subst_vars; rfl
  | case4 => subst_vars; rfl
  | case5 plain => exact unescaped?_self (not_or.1 plain).2 rest
  | case6 _ _ _ _ _ small => exact numbered?_hexDigits small
  | case7 _ _ _ _ _ _ small => exact numbered?_hexDigits small
  | case8 =>
    have valid := Json.toNat_valid c
    exact numbered?_hexDigits (show c.toNat < 0x100000000 by omega)

theorem escaped_append_inj (either : mark = '\'' ∨ mark = '"')
    (same : escaped mark c ++ rest = escaped mark d ++ after) : c = d ∧ rest = after := by
  have read := unescaped?_escaped either c rest
  rw [same, unescaped?_escaped either] at read
  exact (Prod.mk.inj (Option.some.inj read)).imp Eq.symm Eq.symm

/-- No character is written with the enclosing mark in front. -/
theorem escaped_append_ne (either : mark = '\'' ∨ mark = '"') (c : Char) (rest after : List Char) :
    escaped mark c ++ rest ≠ mark :: after := by
  intro same
  have plain : mark ≠ '\\' := by rcases either with rfl | rfl <;> decide
  have read := unescaped?_escaped either c rest
  rw [same, unescaped?_self plain] at read
  -- the character would be the mark itself, which is written behind a backslash
  obtain ⟨rfl, _⟩ := Prod.mk.inj (Option.some.inj read)
  rw [escaped, if_pos (.inl rfl)] at same
  exact plain (List.cons.inj same).1.symm

theorem enclosed_append_inj (either : mark = '\'' ∨ mark = '"')
    (same : text.flatMap (escaped mark) ++ mark :: rest = other.flatMap (escaped mark) ++ mark :: after) :
    text = other ∧ rest = after := by
  induction text generalizing other with
  | nil =>
    cases other with
    | nil => exact ⟨rfl, (List.cons.inj same).2⟩
    | cons d other =>
      rw [List.flatMap_cons, List.append_assoc] at same
      exact absurd same.symm (escaped_append_ne either d _ _)
  | cons c text ih =>
    rw [List.flatMap_cons, List.append_assoc] at same
    cases other with
    | nil => exact absurd same (escaped_append_ne either c _ _)
    | cons d other =>
      rw [List.flatMap_cons, List.append_assoc] at same
      obtain ⟨rfl, others⟩ := escaped_append_inj either same
      obtain ⟨rfl, rfl⟩ := ih others
      exact ⟨rfl, rfl⟩

theorem quotedChars_append_inj :
    quotedChars text ++ rest = quotedChars other ++ after ↔ text = other ∧ rest = after := by
  constructor
  · intro same
    simp only [quotedChars, List.cons_append, List.append_assoc, List.nil_append] at same
    obtain ⟨marks, same⟩ := List.cons.inj same
    rw [← marks] at same
    exact enclosed_append_inj (enclosingMark_cases text) same
  · rintro ⟨rfl, rfl⟩
    rfl

/-- A quoted text shows what it holds and where it ends, whatever follows it. -/
theorem quoted_append_inj {text other rest after : String} :
    quoted text ++ rest = quoted other ++ after ↔ text = other ∧ rest = after := by
  simp only [← String.toList_inj, String.toList_append, quoted, String.toList_ofList, quotedChars_append_inj]

theorem quoted_inj {text other : String} : quoted text = quoted other ↔ text = other := by
  have both := @quoted_append_inj text other "" ""
  simpa using both

end RouteParams.Text
