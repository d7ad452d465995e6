import RouteParams.Json.Basic
import RouteParams.Json.Text
import RouteParams.Proofs.Text.Visible

/-!
Texts in JSON and back. The escapes of a printed text read as the UTF-16 code units of its characters, and
these join to the characters again: a character outside the first plane is written as two units, and no
other character can be mistaken for one of them.
-/
namespace RouteParams.Json

theorem hexValue?_digitChar : ∀ digit < 16, Text.hexValue? (Nat.digitChar digit) = some digit := by
  decide

theorem hexNumber?_hexDigits (width n : Nat) :
    hexNumber? (Text.hexDigits width n) = some (n % Nat.pow 16 width) := by
  induction width generalizing n with
  | zero => exact congrArg some (Nat.mod_one n).symm
  | succ width ih =>
    have front := ih (n / 16)
    have last := hexValue?_digitChar (n % 16) (Nat.mod_lt n (by decide))
    have sum : 16 * (n / 16 % Nat.pow 16 width) + n % 16 = n % Nat.pow 16 (width + 1) := by
      have next : Nat.pow 16 (width + 1) = 16 * Nat.pow 16 width := Nat.mul_comm _ _
      rw [next, Nat.mod_mul, Nat.add_comm]
    unfold hexNumber? at front ⊢
    rw [Text.hexDigits, List.foldlM_append, front, ← sum]
    simp only [Option.bind_eq_bind, Option.bind_some, List.foldlM_cons, List.foldlM_nil, last, Option.map_some]
    rfl

/-- The halves of a character outside the first plane. -/
def highHalf (c : Char) : Nat :=
  0xd800 + (c.toNat - 0x10000) / 0x400

def lowHalf (c : Char) : Nat :=
  0xdc00 + (c.toNat - 0x10000) % 0x400

/-- The UTF-16 code units of a character. -/
def units (c : Char) : List Nat :=
  if c.toNat < 0x10000 then [c.toNat] else [highHalf c, lowHalf c]

/-- The ways to write a character in a JSON text. -/
inductive Writes (c : Char) : List Char → Prop
  | itself (low : 0x20 ≤ c.toNat) (high : c.toNat < 0x7f) (unquoted : ¬(c = '"' ∨ c = '\\')) : Writes c [c]
  | letter {letter : Char} (known : escapeValue? letter = some c) : Writes c ['\\', letter]
  | unit (small : c.toNat < 0x10000) : Writes c (unitEscape c.toNat)
  | halves (large : 0x10000 ≤ c.toNat) : Writes c (unitEscape (highHalf c) ++ unitEscape (lowHalf c))

theorem writes_escaped (c : Char) : Writes c (escaped c) := by
  fun_cases escaped c with
  | case1 either =>
    refine .letter ?_
    rcases either with rfl | rfl
    · rfl
    · rfl
  | case2 => subst_vars; exact .letter rfl
  | case3 => subst_vars; exact .letter rfl
  | case4 => subst_vars; exact .letter rfl
  | case5 => subst_vars; exact .letter rfl
  | case6 => subst_vars; exact .letter rfl
  | case7 unquoted _ _ _ _ _ visible => exact .itself visible.1 visible.2 unquoted
  | case8 _ _ _ _ _ _ _ small => exact .unit small
  | case9 _ _ _ _ _ _ _ large => exact .halves (Nat.not_lt.1 large)

theorem Writes.isVisibleAscii {c : Char} {written : List Char} (writes : Writes c written) :
    ∀ d ∈ written, Text.isVisibleAscii d = true := by
  have numbered (unit : Nat) : ∀ d ∈ unitEscape unit, Text.isVisibleAscii d = true :=
    List.forall_mem_cons.2 ⟨by decide, List.forall_mem_cons.2 ⟨by decide,
      Text.isVisibleAscii_of_mem_hexDigits⟩⟩
  cases writes with
  | itself low high _ => exact List.forall_mem_singleton.2 (Text.isVisibleAscii_iff.2 ⟨low, high⟩)
  | letter known =>
    refine List.forall_mem_cons.2 ⟨by decide, List.forall_mem_singleton.2 ?_⟩
    unfold escapeValue? at known
    split at known <;> first | decide | cases known
  | unit => exact numbered _
  | halves => exact List.forall_mem_append.2 ⟨numbered _, numbered _⟩

theorem isVisibleAscii_of_mem_textChars (text : String) : ∀ c ∈ textChars text, Text.isVisibleAscii c = true := by
  refine List.forall_mem_cons.2 ⟨by decide, List.forall_mem_append.2 ⟨?_, List.all_eq_true.1 rfl⟩⟩
  intro d inside
  obtain ⟨c, _, written⟩ := List.mem_flatMap.1 inside
  exact (writes_escaped c).isVisibleAscii d written

variable {whole rest : List Char}

theorem textUnits_self {c : Char} (low : 0x20 ≤ c.toNat) (unquoted : ¬(c = '"' ∨ c = '\\')) :
    textUnits whole (c :: rest) = (textUnits whole rest).map fun read => (c.toNat :: read.1, read.2) := by
  obtain ⟨quote, backslash⟩ := not_or.1 unquoted
  rw [textUnits, if_neg (Nat.not_lt.2 low)]
  all_goals simp_all

theorem lt_of_escapeValue? {letter c : Char} (known : escapeValue? letter = some c) :
    c.toNat < 0x10000 := by
  unfold escapeValue? at known
  split at known <;> cases known <;> decide

theorem textUnits_letter {letter c : Char} (known : escapeValue? letter = some c) :
    textUnits whole ('\\' :: letter :: rest) =
      (textUnits whole rest).map fun read => (c.toNat :: read.1, read.2) := by
  have numbered : letter ≠ 'u' := by
    rintro rfl
    cases known
  rw [textUnits, known]
  all_goals simp_all

theorem textUnits_unitEscape {unit : Nat} (small : unit < 0x10000) (more : rest ≠ []) :
    textUnits whole (unitEscape unit ++ rest) =
      (textUnits whole rest).map fun read => (unit :: read.1, read.2) := by
  have value := hexNumber?_hexDigits 4 unit
  rw [Nat.mod_eq_of_lt small] at value
  have width := Text.length_hexDigits 4 unit
  rw [unitEscape]
  match Text.hexDigits 4 unit, width, value with
  | [a, b, c, d], _, value => simp [textUnits, value, more]

theorem isHigh_iff {unit : Nat} : isHigh unit = true ↔ 0xd800 ≤ unit ∧ unit < 0xdc00 := by
  simp [isHigh]

theorem isLow_iff {unit : Nat} : isLow unit = true ↔ 0xdc00 ≤ unit ∧ unit < 0xe000 := by
  simp [isLow]

theorem toNat_valid (c : Char) : c.toNat < 0xd800 ∨ 0xdfff < c.toNat ∧ c.toNat < 0x110000 :=
  c.valid

theorem isHigh_toNat (c : Char) : isHigh c.toNat = false := by
  rw [← Bool.not_eq_true, isHigh_iff]
  have valid := toNat_valid c
  omega

theorem isLow_toNat (c : Char) : isLow c.toNat = false := by
  rw [← Bool.not_eq_true, isLow_iff]
  have valid := toNat_valid c
  omega

/-- The two halves of a character stand in their ranges and give the character. -/
theorem halves_spec {c : Char} (large : 0x10000 ≤ c.toNat) :
    isHigh (highHalf c) = true ∧ isLow (lowHalf c) = true ∧
      0x10000 + (highHalf c - 0xd800) * 0x400 + (lowHalf c - 0xdc00) = c.toNat := by
  have valid := toNat_valid c
  rw [isHigh_iff, isLow_iff, highHalf, lowHalf]
  omega

theorem unitChar?_toNat (c : Char) : unitChar? c.toNat = some c := by
  rw [unitChar?, isHigh_toNat, isLow_toNat, Bool.or_self, if_neg Bool.false_ne_true, Char.ofNat_toNat]

/-- One character of a printed text is read as its code units. -/
theorem textUnits_writes {c : Char} {written : List Char} (writes : Writes c written) (more : rest ≠ []) :
    textUnits whole (written ++ rest) =
      (textUnits whole rest).map fun read => (units c ++ read.1, read.2) := by
  cases writes with
  | itself low high unquoted =>
    rw [units, if_pos (by omega)]
    exact textUnits_self low unquoted
  | letter known =>
    rw [units, if_pos (lt_of_escapeValue? known)]
    exact textUnits_letter known
  | unit small =>
    rw [units, if_pos small]
    exact textUnits_unitEscape small more
  | halves large =>
    obtain ⟨high, low, _⟩ := halves_spec large
    rw [isHigh_iff] at high
    rw [isLow_iff] at low
    -- an escape must not be the last thing there is: the first is followed by the second
    have between : unitEscape (lowHalf c) ++ rest ≠ [] := List.cons_ne_nil _ _
    rw [units, if_neg (by omega), List.append_assoc, textUnits_unitEscape (by omega) between,
      textUnits_unitEscape (by omega) more]
    cases textUnits whole rest <;> rfl

theorem joinUnits?_cons (c : Char) (more : List Nat) :
    joinUnits? (c.toNat :: more) = (joinUnits? more).map (c :: ·) := by
  cases more with
  | nil => exact congrArg _ (unitChar?_toNat c)
  | cons next more =>
    rw [joinUnits?, isHigh_toNat, Bool.false_and, if_neg Bool.false_ne_true, unitChar?_toNat]
    cases joinUnits? (next :: more) <;> rfl

theorem joinUnits?_units (c : Char) (more : List Nat) :
    joinUnits? (units c ++ more) = (joinUnits? more).map (c :: ·) := by
  unfold units
  split
  next small => rw [List.singleton_append, joinUnits?_cons]
  next large =>
    obtain ⟨high, low, sum⟩ := halves_spec (Nat.not_lt.1 large)
    rw [List.cons_append, List.cons_append, joinUnits?, high, low, sum, Char.ofNat_toNat]
    rfl

/-- A printed text is read up to the mark at its end. -/
theorem textUnits_printed (text : List Char) :
    textUnits whole (text.flatMap escaped ++ '"' :: rest) = .ok (text.flatMap units, rest) := by
  induction text with
  | nil => rw [List.flatMap_nil, List.nil_append, textUnits, List.flatMap_nil]
  | cons c text ih =>
    have more : text.flatMap escaped ++ '"' :: rest ≠ [] := by simp
    rw [List.flatMap_cons, List.append_assoc, textUnits_writes (writes_escaped c) more, ih]
    rfl

/-- The code units of characters are joined to the characters: no half of a pair stands alone in them. -/
theorem joinUnits?_flatMap (text : List Char) : joinUnits? (text.flatMap units) = some text := by
  induction text with
  | nil => rfl
  | cons c text ih => rw [List.flatMap_cons, joinUnits?_units, ih, Option.map_some]

end RouteParams.Json
