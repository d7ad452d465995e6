import RouteParams.Numeric.Shortest
import RouteParams.Text.Quoted

/-!
Texts that can be shown on one line: every character of them has a visible form, so none of them is the
end of a line. The parts of which messages are made are such texts, whatever they show: quoted texts and
octets, since what has no visible form is escaped in them, and numbers.
-/
namespace RouteParams.Text

/-- Every character of the text has a visible form. -/
def IsVisible (text : String) : Prop :=
  ∀ c ∈ text.toList, isPrintable c = true

instance (text : String) : Decidable (IsVisible text) :=
  decidable_of_iff (text.toList.all isPrintable = true) List.all_eq_true

variable {text : String} {chars : List Char}

theorem IsVisible.newline_not_mem (visible : IsVisible text) : '\n' ∉ text.toList :=
  fun inside => absurd (visible '\n' inside) (by decide)

theorem isVisible_ofList : IsVisible (String.ofList chars) ↔ ∀ c ∈ chars, isPrintable c = true := by
  rw [IsVisible, String.toList_ofList]

theorem IsVisible.append {front back : String} (shown : IsVisible front) (next : IsVisible back) :
    IsVisible (front ++ back) := by
  rw [IsVisible, String.toList_append, List.forall_mem_append]
  exact ⟨shown, next⟩

theorem isVisible_commaSeparated {parts : List String} (each : ∀ part ∈ parts, IsVisible part) :
    IsVisible (String.intercalate ", " parts) := by
  induction parts with
  | nil => exact String.intercalate_nil ▸ by decide
  | cons part parts ih =>
    have first := each part List.mem_cons_self
    have others := ih fun other inside => each other (List.mem_cons_of_mem _ inside)
    cases parts with
    | nil => exact String.intercalate_singleton ▸ first
    | cons next parts =>
      rw [String.intercalate_cons_cons]
      exact (first.append (by decide)).append others

/-- The visible characters of ASCII run from the space to the tilde. -/
def isVisibleAscii (c : Char) : Bool :=
  0x20 ≤ c.toNat && c.toNat < 0x7f

theorem isVisibleAscii_iff {c : Char} : isVisibleAscii c = true ↔ 0x20 ≤ c.toNat ∧ c.toNat < 0x7f := by
  rw [isVisibleAscii, Bool.and_eq_true, decide_eq_true_iff, decide_eq_true_iff]

theorem isPrintable_of_isVisibleAscii {c : Char} (visible : isVisibleAscii c = true) :
    isPrintable c = true := by
  have high := (isVisibleAscii_iff.1 visible).2
  rw [isPrintable, if_pos (Nat.lt_succ_of_lt high)]
  exact visible

/-! ## Numbers -/

theorem isVisibleAscii_digitChar : ∀ digit < 16, isVisibleAscii (Nat.digitChar digit) = true := by
  decide

theorem isVisibleAscii_of_mem_hexDigits {width n : Nat} : ∀ c ∈ hexDigits width n, isVisibleAscii c = true := by
  induction width generalizing n with
  | zero => exact fun c inside => absurd inside List.not_mem_nil
  | succ width ih =>
    refine List.forall_mem_append.2 ⟨ih, List.forall_mem_singleton.2 ?_⟩
    exact isVisibleAscii_digitChar _ (Nat.mod_lt n (by decide))

theorem isPrintable_of_mem_toDigits {n : Nat} {c : Char} (inside : c ∈ Nat.toDigits 10 n) :
    isPrintable c = true := by
  have digit : c.isDigit = true := Nat.isDigit_of_mem_toDigits (by decide) (by decide) inside
  obtain ⟨low, high⟩ := Char.isDigit_iff_toNat.1 digit
  refine isPrintable_of_isVisibleAscii (isVisibleAscii_iff.2 ⟨Nat.le_trans (by decide) low, ?_⟩)
  exact Nat.lt_of_le_of_lt high (by decide)

theorem isVisible_nat (n : Nat) : IsVisible (toString n) := by
  rw [IsVisible, Nat.toString_eq_repr, Nat.toList_repr]
  exact fun _ => isPrintable_of_mem_toDigits

theorem isVisible_int (n : Int) : IsVisible (toString n) := by
  cases n with
  | ofNat n => exact isVisible_nat n
  | negSucc n => exact IsVisible.append (by decide) (isVisible_nat (n + 1))

/-! ## Quoted texts and octets -/

theorem isPrintable_enclosingMark (chars : List Char) : isPrintable (enclosingMark chars) = true := by
  unfold enclosingMark
  split <;> decide

theorem isPrintable_of_mem_numbered {letter : Char} (shown : isPrintable letter = true) (width n : Nat) :
    ∀ c ∈ '\\' :: letter :: hexDigits width n, isPrintable c = true :=
  List.forall_mem_cons.2 ⟨by decide, List.forall_mem_cons.2 ⟨shown, fun c inside =>
    isPrintable_of_isVisibleAscii (isVisibleAscii_of_mem_hexDigits c inside)⟩⟩

theorem isPrintable_of_mem_escaped {mark : Char} (shown : isPrintable mark = true) (c : Char) :
    ∀ d ∈ escaped mark c, isPrintable d = true := by
  fun_cases escaped mark c with
  | case1 either =>
    refine List.forall_mem_cons.2 ⟨by decide, List.forall_mem_singleton.2 ?_⟩
    rcases either with rfl | rfl
    · exact shown
    · decide
  | case2 => exact List.all_eq_true.1 rfl
  | case3 => exact List.all_eq_true.1 rfl
  | case4 => exact List.all_eq_true.1 rfl
  | case5 _ _ _ _ visible => exact List.forall_mem_singleton.2 visible
  | case6 => exact isPrintable_of_mem_numbered (by decide) 2 c.toNat
  | case7 => exact isPrintable_of_mem_numbered (by decide) 4 c.toNat
  | case8 => exact isPrintable_of_mem_numbered (by decide) 8 c.toNat

theorem isPrintable_of_mem_escapedOctet {mark : Char} (shown : isPrintable mark = true) (c : Char) :
    ∀ d ∈ escapedOctet mark c, isPrintable d = true := by
  unfold escapedOctet
  split
  · exact isPrintable_of_mem_escaped shown c
  · exact isPrintable_of_mem_numbered (by decide) 2 c.toNat

/-- What is written between two marks, one character after the other, has a visible form if each of them is
written so. -/
theorem isPrintable_of_mem_enclosed {mark : Char} {write : Char → List Char}
    (shown : isPrintable mark = true) (each : ∀ c, ∀ d ∈ write c, isPrintable d = true) (chars : List Char) :
    ∀ c ∈ mark :: (chars.flatMap write ++ [mark]), isPrintable c = true := by
  refine List.forall_mem_cons.2 ⟨shown, List.forall_mem_append.2 ⟨?_, List.forall_mem_singleton.2 shown⟩⟩
  intro d inside
  obtain ⟨c, _, written⟩ := List.mem_flatMap.1 inside
  exact each c d written

theorem isVisible_quoted (text : String) : IsVisible (quoted text) := by
  have shown := isPrintable_enclosingMark text.toList
  exact isVisible_ofList.2 (isPrintable_of_mem_enclosed shown (isPrintable_of_mem_escaped shown) _)

theorem isVisible_quotedOctets (octets : List UInt8) : IsVisible (quotedOctets octets) := by
  have shown := isPrintable_enclosingMark (octetChars octets)
  have enclosed := isPrintable_of_mem_enclosed shown (isPrintable_of_mem_escapedOctet shown) (octetChars octets)
  exact isVisible_ofList.2 (List.forall_mem_cons.2 ⟨by decide, enclosed⟩)

theorem isVisible_quotedBuffer (octets : List UInt8) : IsVisible (quotedBuffer octets) := by
  have shown := isPrintable_enclosingMark (octetChars octets)
  have escapes := isPrintable_of_mem_escapedOctet (show isPrintable '\'' = true by decide)
  have enclosed := isPrintable_of_mem_enclosed shown escapes (octetChars octets)
  exact isVisible_ofList.2 (List.forall_mem_cons.2 ⟨by decide, enclosed⟩)

/-! ## Floating-point numbers -/

theorem isPrintable_of_mem_zeros {count : Nat} : ∀ c ∈ Binary64.zeros count, isPrintable c = true := by
  intro c inside
  rw [(List.mem_replicate.1 inside).2]
  decide

theorem isPrintable_of_mem_significantDigits (n : Nat) :
    ∀ c ∈ Binary64.significantDigits n, isPrintable c = true := by
  intro c inside
  have among := (List.dropWhile_suffix _).subset (List.mem_reverse.1 inside)
  exact isPrintable_of_mem_toDigits (List.mem_reverse.1 among)

variable {digits : List Char}

theorem isPrintable_of_mem_pointed (shown : ∀ c ∈ digits, isPrintable c = true) (places : Nat) :
    ∀ c ∈ digits.take places ++ '.' :: digits.drop places, isPrintable c = true := by
  refine List.forall_mem_append.2 ⟨?_, List.forall_mem_cons.2 ⟨by decide, ?_⟩⟩
  · exact fun c inside => shown c (List.mem_of_mem_take inside)
  · exact fun c inside => shown c (List.mem_of_mem_drop inside)

theorem isPrintable_of_mem_positional (shown : ∀ c ∈ digits, isPrintable c = true) (places : Int) :
    ∀ c ∈ Binary64.positional digits places, isPrintable c = true := by
  fun_cases Binary64.positional digits places with
  | case1 => exact List.forall_mem_cons.2 ⟨by decide, List.forall_mem_cons.2 ⟨by decide, shown⟩⟩
  | case2 missing =>
    refine List.forall_mem_cons.2 ⟨by decide, List.forall_mem_cons.2 ⟨by decide, ?_⟩⟩
    exact List.forall_mem_append.2 ⟨isPrintable_of_mem_zeros, shown⟩
  | case3 =>
    exact List.forall_mem_append.2 ⟨List.forall_mem_append.2 ⟨shown, isPrintable_of_mem_zeros⟩,
      List.all_eq_true.1 rfl⟩
  | case4 => exact isPrintable_of_mem_pointed shown _

theorem isPrintable_of_mem_scientific (shown : ∀ c ∈ digits, isPrintable c = true) (places : Int) :
    ∀ c ∈ Binary64.scientific digits places, isPrintable c = true := by
  have point : ∀ c ∈ if digits.length ≤ 1 then digits else digits.take 1 ++ '.' :: digits.drop 1,
      isPrintable c = true := by
    split
    · exact shown
    · exact isPrintable_of_mem_pointed shown 1
  have mark : isPrintable (if places - 1 < 0 then '-' else '+') = true := by
    split <;> decide
  refine List.forall_mem_append.2 ⟨point, List.forall_mem_cons.2 ⟨by decide, ?_⟩⟩
  refine List.forall_mem_cons.2 ⟨mark, List.forall_mem_append.2 ⟨isPrintable_of_mem_zeros, ?_⟩⟩
  exact fun _ => isPrintable_of_mem_toDigits

theorem isVisible_real (value : Binary64) : IsVisible value.text := by
  have sign : ∀ negative, ∀ c ∈ Binary64.sign negative, isPrintable c = true :=
    Bool.forall_bool.2 ⟨List.all_eq_true.1 rfl, List.all_eq_true.1 rfl⟩
  fun_cases Binary64.text value with
  | case1 => decide
  | case2 negative => exact isVisible_ofList.2 (List.forall_mem_append.2 ⟨sign negative, List.all_eq_true.1 rfl⟩)
  | case3 negative => exact isVisible_ofList.2 (List.forall_mem_append.2 ⟨sign negative, List.all_eq_true.1 rfl⟩)
  | case4 negative mantissa exponent _ shortest digits places body =>
    refine isVisible_ofList.2 (List.forall_mem_append.2 ⟨sign negative, ?_⟩)
    have shown := isPrintable_of_mem_significantDigits shortest.1
    unfold body
    split
    · exact isPrintable_of_mem_positional shown places
    · exact isPrintable_of_mem_scientific shown places

end RouteParams.Text
