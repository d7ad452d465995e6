/-!
Numbers written with a fixed count of hexadecimal digits, and hexadecimal digits read back. Integers that
are too long are neither written nor read in decimal digits.
-/
namespace RouteParams.Text

/-- The most decimal digits that an integer has where it is written or read. -/
def integerDigits : Nat := 4300

def tooManyDigits (digits : Nat) : String :=
  "Exceeds the limit (" ++ toString digits ++ " digits) for integer string conversion"

def raiseTheLimit : String :=
  "; use sys.set_int_max_str_digits() to increase the limit"

/-- The last `width` hexadecimal digits of a number, in lower case, with leading zeros. -/
def hexDigits : Nat → Nat → List Char
  | 0, _ => []
  | width + 1, n => hexDigits width (n / 16) ++ [Nat.digitChar (n % 16)]

def hexValue? (c : Char) : Option Nat :=
  if c.isDigit then some (c.toNat - '0'.toNat)
  else if 'a' ≤ c ∧ c ≤ 'f' then some (c.toNat - 'a'.toNat + 10)
  else if 'A' ≤ c ∧ c ≤ 'F' then some (c.toNat - 'A'.toNat + 10)
  else none

theorem length_hexDigits (width n : Nat) : (hexDigits width n).length = width := by
  induction width generalizing n with
  | zero => rfl
  | succ width ih => simp [hexDigits, ih]

end RouteParams.Text
