import RouteParams.Json.Basic
import RouteParams.Json.Fault

/-!
Reading a number in a JSON text: a whole part, perhaps a fraction and perhaps an exponent. What looks
like a fraction or an exponent but has no digits is left unread.
-/
namespace RouteParams.Json

def digitsOf (cs : List Char) : List Char × List Char :=
  (cs.takeWhile Char.isDigit, cs.dropWhile Char.isDigit)

/-- The digits of the whole part of a number: a zero alone, or digits that begin with another. -/
def wholePart? : List Char → Option (List Char × List Char)
  | [] => none
  | c :: rest =>
    if c = '0' then some ([c], rest)
    else if c.isDigit then some (c :: (digitsOf rest).1, (digitsOf rest).2)
    else none

/-- The digits after a point. A point without digits is not part of the number. -/
def fractionPart : List Char → List Char × List Char
  | '.' :: rest => if (digitsOf rest).1.isEmpty then ([], '.' :: rest) else digitsOf rest
  | rest => ([], rest)

def exponentSign : List Char → Bool × List Char
  | '-' :: rest => (true, rest)
  | '+' :: rest => (false, rest)
  | rest => (false, rest)

def number (digits : List Char) : Nat :=
  Nat.ofDigitChars 10 digits 0

/-- The exponent of a number. An exponent without digits is not part of the number. -/
def exponentPart (cs : List Char) : Option Int × List Char :=
  match cs with
  | [] => (none, cs)
  | c :: rest =>
    if c = 'e' ∨ c = 'E' then
      let (negative, unsigned) := exponentSign rest
      let (digits, after) := digitsOf unsigned
      if digits.isEmpty then (none, cs)
      else (some (if negative then -(number digits : Int) else number digits), after)
    else (none, cs)

/-- A number with a fraction or an exponent is real and any other an integer. -/
def numberValue (negative : Bool) (whole fraction : List Char) (exponent? : Option Int) :
    Except Problem Json :=
  if fraction.isEmpty ∧ exponent?.isNone then
    if Text.integerDigits < whole.length then .error (.integerTooLong whole.length)
    else .ok (.integer (if negative then -(number whole : Int) else number whole))
  else
    let exponent := exponent?.getD 0 - fraction.length
    .ok (.real (.ofDecimal negative (number (whole ++ fraction)) exponent))

def unsigned? (negative : Bool) (cs : List Char) : Option (Except Problem Json × List Char) :=
  (wholePart? cs).map fun (whole, afterWhole) =>
    let (fraction, afterFraction) := fractionPart afterWhole
    let (exponent?, after) := exponentPart afterFraction
    (numberValue negative whole fraction exponent?, after)

def number? : List Char → Option (Except Problem Json × List Char)
  | '-' :: rest => unsigned? true rest
  | cs => unsigned? false cs

theorem length_digitsOf (cs : List Char) : (digitsOf cs).2.length ≤ cs.length :=
  (List.dropWhile_suffix _).length_le

theorem length_fractionPart (cs : List Char) : (fractionPart cs).2.length ≤ cs.length := by
  fun_cases fractionPart cs with
  | case1 => simp
  | case2 rest => exact Nat.le_succ_of_le (length_digitsOf rest)
  | case3 => simp

theorem length_exponentSign (cs : List Char) : (exponentSign cs).2.length ≤ cs.length := by
  fun_cases exponentSign cs <;> simp

theorem length_exponentPart (cs : List Char) : (exponentPart cs).2.length ≤ cs.length := by
  unfold exponentPart
  split
  · simp
  · rename_i c rest
    split
    · have sign := length_exponentSign rest
      have digits := length_digitsOf (exponentSign rest).2
      dsimp only
      split
      · simp
      · simp only [List.length_cons]
        omega
    · simp

theorem length_of_wholePart? {cs whole after : List Char}
    (read : wholePart? cs = some (whole, after)) : after.length < cs.length := by
  unfold wholePart? at read
  split at read
  · simp at read
  · rename_i c rest
    have digits := length_digitsOf rest
    split at read
    · simp_all
    · split at read
      · simp only [Option.some.injEq, Prod.mk.injEq] at read
        simp only [List.length_cons, ← read.2]
        omega
      · simp at read

theorem length_of_unsigned? {negative : Bool} {cs after : List Char} {value : Except Problem Json}
    (read : unsigned? negative cs = some (value, after)) : after.length < cs.length := by
  simp only [unsigned?, Option.map_eq_some_iff, Prod.exists, Prod.mk.injEq] at read
  obtain ⟨whole, afterWhole, found, _, rfl⟩ := read
  have first := length_of_wholePart? found
  have second := length_fractionPart afterWhole
  have third := length_exponentPart (fractionPart afterWhole).2
  omega

theorem length_of_number? {cs after : List Char} {value : Except Problem Json}
    (read : number? cs = some (value, after)) : after.length < cs.length := by
  unfold number? at read
  split at read
  · exact Nat.lt_succ_of_lt (length_of_unsigned? read)
  · exact length_of_unsigned? read

end RouteParams.Json
