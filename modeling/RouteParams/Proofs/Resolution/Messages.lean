import RouteParams.Proofs.Text.Quoted
import RouteParams.Resolution.Journal

/-!
What the messages of a resolution tell. Names, pathnames and values stand quoted in them, so they are told from the
words around them even where they hold these words themselves: a message has one reading.
-/
namespace RouteParams

namespace Text

variable {rest after : String}

/-- A numeral is read back as its number. -/
theorem ofDigitChars_repr (n : Nat) : Nat.ofDigitChars 10 n.repr.toList 0 = n := by
  rw [Nat.toList_repr, Nat.ofDigitChars_toDigits (by decide) (by decide)]

theorem numeral_inj {n m : Nat} : toString n = toString m ↔ n = m := by
  refine ⟨fun same => ?_, congrArg toString⟩
  have digits : n.repr.toList = m.repr.toList := congrArg String.toList same
  rw [← ofDigitChars_repr n, digits, ofDigitChars_repr]

theorem isDigit_of_mem_repr {n : Nat} : ∀ c ∈ n.repr.toList, c.isDigit = true := by
  rw [Nat.toList_repr]
  exact fun c inside => Nat.isDigit_of_mem_toDigits (by decide) (by decide) inside

theorem numeral_ne_negative (n m : Nat) : toString (Int.ofNat n) ≠ toString (Int.negSucc m) := by
  intro same
  have signed : '-' ∈ n.repr.toList := by
    rw [show n.repr = "-" ++ (m + 1).repr from same, String.toList_append]
    exact List.mem_append_left _ (by decide)
  exact absurd (isDigit_of_mem_repr '-' signed) (by decide)

theorem integer_inj {n m : Int} : toString n = toString m ↔ n = m := by
  refine ⟨fun same => ?_, congrArg toString⟩
  cases n with
  | ofNat n =>
    cases m with
    | ofNat m => exact congrArg Int.ofNat (numeral_inj.1 same)
    | negSucc m => exact absurd same (numeral_ne_negative n m)
  | negSucc n =>
    cases m with
    | ofNat m => exact absurd same.symm (numeral_ne_negative m n)
    | negSucc m =>
      have numerals : toString (n + 1) = toString (m + 1) := (String.append_right_inj "-").1 same
      exact congrArg Int.negSucc (Nat.succ.inj (numeral_inj.1 numerals))

theorem takeWhile_numeral (n : Nat) (rest : String) :
    (toString n ++ (" of " ++ rest)).toList.takeWhile Char.isDigit = n.repr.toList := by
  rw [Nat.toString_eq_repr, String.toList_append, List.takeWhile_append_of_pos isDigit_of_mem_repr]
  simp

theorem numeral_append_inj {n m : Nat}
    (same : toString n ++ (" of " ++ rest) = toString m ++ (" of " ++ after)) : n = m ∧ rest = after := by
  have numbers := takeWhile_numeral n rest
  rw [same, takeWhile_numeral, String.toList_inj] at numbers
  obtain rfl := numeral_inj.1 numbers.symm
  rw [String.append_right_inj, String.append_right_inj] at same
  exact ⟨rfl, same⟩

end Text

theorem ParamKind.text_append_inj {kind other : ParamKind} {rest after : String}
    (same : kind.text ++ rest = other.text ++ after) : kind = other ∧ rest = after := by
  cases kind <;> cases other <;> simp_all [text, ← String.toList_inj]

namespace BoundValue

/-- What stands behind an item of a shown list: the other items, the bracket and what follows the list. -/
def behind : List String → String → String
  | [], rest => "]" ++ rest
  | text :: texts, rest => ", " ++ (Text.quoted text ++ behind texts rest)

variable {texts others : List String} {rest after : String}

theorem shown_many_nil (rest : String) : shown (.many []) ++ rest = "[]" ++ rest := by
  simp [shown]

theorem intercalate_cons (text : String) (texts : List String) (rest : String) :
    String.intercalate ", " ((text :: texts).map Text.quoted) ++ ("]" ++ rest) =
      Text.quoted text ++ behind texts rest := by
  induction texts generalizing text with
  | nil => simp [behind]
  | cons next texts ih =>
    rw [List.map_cons, List.map_cons, String.intercalate_cons_cons, String.append_assoc, String.append_assoc,
      ← List.map_cons, ih, behind]

theorem shown_many_cons (text : String) (texts : List String) (rest : String) :
    shown (.many (text :: texts)) ++ rest = "[" ++ (Text.quoted text ++ behind texts rest) := by
  rw [shown, String.append_assoc, String.append_assoc, intercalate_cons]

theorem behind_inj (same : behind texts rest = behind others after) : texts = others ∧ rest = after := by
  induction texts generalizing others with
  | nil =>
    cases others with
    | nil => exact ⟨rfl, (String.append_right_inj _).1 same⟩
    | cons other others => simp [behind, ← String.toList_inj] at same
  | cons text texts ih =>
    cases others with
    | nil => simp [behind, ← String.toList_inj] at same
    | cons other others =>
      rw [behind, behind, String.append_right_inj, Text.quoted_append_inj] at same
      obtain ⟨rfl, same⟩ := same
      exact (ih same).imp_left (congrArg _)

theorem shown_nil_ne_cons (text : String) (texts : List String) (rest after : String) :
    shown (.many []) ++ rest ≠ shown (.many (text :: texts)) ++ after := by
  intro same
  rw [shown_many_nil, shown_many_cons] at same
  have second := congrArg (fun shown => shown.toList[1]?) same
  rcases Text.enclosingMark_cases text.toList with mark | mark <;>
    simp [Text.quoted, Text.quotedChars, mark] at second

theorem shown_many_inj (same : shown (.many texts) ++ rest = shown (.many others) ++ after) :
    texts = others ∧ rest = after := by
  cases texts with
  | nil =>
    cases others with
    | nil => exact ⟨rfl, (String.append_right_inj _).1 same⟩
    | cons other others => exact absurd same (shown_nil_ne_cons _ _ _ _)
  | cons text texts =>
    cases others with
    | nil => exact absurd same.symm (shown_nil_ne_cons _ _ _ _)
    | cons other others =>
      rw [shown_many_cons, shown_many_cons, String.append_right_inj, Text.quoted_append_inj] at same
      obtain ⟨rfl, same⟩ := same
      exact (behind_inj same).imp_left (congrArg _)

end BoundValue

namespace Event

theorem message_bound_one (name text : String) (depth : Nat) :
    message (.bound name (.one text) depth) =
      "Bound param " ++ (Text.quoted name ++ (" = " ++ (Text.quoted text ++ (" at depth " ++ toString depth)))) := by
  simp only [← String.append_assoc]
  rfl

theorem message_bound_many (name : String) (texts : List String) (depth : Nat) :
    message (.bound name (.many texts) depth) =
      "Bound catch-all " ++
        (Text.quoted name ++ (" = " ++ (BoundValue.shown (.many texts) ++ (" at depth " ++ toString depth)))) := by
  simp only [← String.append_assoc]
  rfl

theorem message_recorded (name : String) (kind : ParamKind) (depth : Nat) :
    message (.recorded name kind depth) =
      "Param " ++
        (Text.quoted name ++ (" recorded as " ++ (kind.text ++ (" fallback at depth " ++ toString depth)))) := by
  simp only [← String.append_assoc]
  rfl

theorem message_exhausted (name : String) (depth : Nat) (pathname : String) :
    message (.exhausted name depth pathname) =
      "Catch-all " ++
        (Text.quoted name ++ (" exhausted at depth " ++ (toString depth ++ (" of " ++ Text.quoted pathname)))) := by
  simp only [← String.append_assoc]
  rfl

/-- The letter with which the message of an event begins. -/
def initial : Event → Char
  | .bound _ _ _ => 'B'
  | .recorded _ _ _ => 'P'
  | .exhausted _ _ _ => 'C'

theorem head?_message (event : Event) : event.message.toList.head? = some event.initial := by
  cases event with
  | bound name value depth =>
    cases value with
    | one text =>
      rw [message_bound_one, String.toList_append]
      rfl
    | many texts =>
      rw [message_bound_many, String.toList_append]
      rfl
  | recorded name kind depth =>
    rw [message_recorded, String.toList_append]
    rfl
  | exhausted name depth pathname =>
    rw [message_exhausted, String.toList_append]
    rfl

theorem bound_inj {name other : String} {value value' : BoundValue} {depth depth' : Nat}
    (same : message (.bound name value depth) = message (.bound other value' depth')) :
    Event.bound name value depth = .bound other value' depth' := by
  cases value with
  | one text =>
    cases value' with
    | one text' =>
      rw [message_bound_one, message_bound_one, String.append_right_inj, Text.quoted_append_inj,
        String.append_right_inj, Text.quoted_append_inj, String.append_right_inj, Text.numeral_inj] at same
      obtain ⟨rfl, rfl, rfl⟩ := same
      rfl
    | many texts' =>
      rw [message_bound_one, message_bound_many] at same
      simp [← String.toList_inj] at same
  | many texts =>
    cases value' with
    | one text' =>
      rw [message_bound_one, message_bound_many] at same
      simp [← String.toList_inj] at same
    | many texts' =>
      rw [message_bound_many, message_bound_many, String.append_right_inj, Text.quoted_append_inj,
        String.append_right_inj] at same
      obtain ⟨rfl, same⟩ := same
      obtain ⟨rfl, depths⟩ := BoundValue.shown_many_inj same
      rw [String.append_right_inj, Text.numeral_inj] at depths
      rw [depths]

theorem message_inj {first second : Event} (same : first.message = second.message) : first = second := by
  have initials : some first.initial = some second.initial := by
    rw [← head?_message, ← head?_message, same]
  cases first with
  | bound name value depth =>
    cases second with
    | bound other value' depth' => exact bound_inj same
    | recorded | exhausted => simp [initial] at initials
  | recorded name kind depth =>
    cases second with
    | recorded other kind' depth' =>
      rw [message_recorded, message_recorded, String.append_right_inj, Text.quoted_append_inj,
        String.append_right_inj] at same
      obtain ⟨rfl, same⟩ := same
      obtain ⟨rfl, depths⟩ := ParamKind.text_append_inj same
      rw [String.append_right_inj, Text.numeral_inj] at depths
      rw [depths]
    | bound | exhausted => simp [initial] at initials
  | exhausted name depth pathname =>
    cases second with
    | exhausted other depth' pathname' =>
      rw [message_exhausted, message_exhausted, String.append_right_inj, Text.quoted_append_inj,
        String.append_right_inj] at same
      obtain ⟨rfl, same⟩ := same
      obtain ⟨rfl, pathnames⟩ := Text.numeral_append_inj same
      rw [Text.quoted_inj.1 pathnames]
    | bound | recorded => simp [initial] at initials

end Event

/-- Messages about exhausted catch-alls are the same exactly if they are about the same parameter, pathname and depth,
whatever marks, backslashes, controls or words of the message the name and the pathname hold. -/
theorem Exhaustion.message_eq_iff (first second : Exhaustion) :
    first.message = second.message ↔
      first.name = second.name ∧ first.pathname = second.pathname ∧ first.depth = second.depth := by
  unfold Exhaustion.message
  simp only [String.append_assoc]
  rw [String.append_right_inj, Text.quoted_append_inj, String.append_right_inj, Text.quoted_append_inj,
    String.append_right_inj, Text.integer_inj]
  exact and_left_comm

example :
    let first : Exhaustion := ⟨"c", "/a' with catch-all param 'b", -1⟩
    let second : Exhaustion := ⟨"b' with catch-all param 'c", "/a", -1⟩
    first.message ≠ second.message := by
  decide +kernel

end RouteParams
