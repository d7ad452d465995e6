import RouteParams.Numeric.Binary64

/-!
The text of a floating-point number: the fewest decimal digits that read back as the number, and of
those the nearest to it. Numbers from a ten-thousandth up to ten to the sixteenth are written in
positional notation, with a digit on either side of the point.
-/
namespace RouteParams

namespace Binary64

/-- The exponent `k` for which a positive fraction lies between the `k - 1`st and `k`th power of ten,
the lower one included. -/
def decimalPlaces (numerator denominator : Nat) : Int :=
  if denominator ≤ numerator then decimalLength (numerator / denominator)
  else 1 - decimalLength ((denominator - 1) / numerator)

/-- The better of the two neighbours of a fraction among the multiples of a power of ten, if one of
them reads back as the number. -/
def neighbour? (number : Binary64) (numerator denominator : Nat) (power : Int) : Option Nat :=
  let scaled := shifted 10 numerator denominator power
  let lower := scaled.1 / scaled.2
  let nearest := roundedQuotient scaled.1 scaled.2
  let farther := 2 * lower + 1 - nearest
  let reads := fun digits => ofDecimal false digits power == number
  if reads nearest then some nearest else if reads farther then some farther else none

/-- Seventeen digits always read back. -/
def longestDigits : Nat := 17

/-- The digits of a positive finite number, as an integer and the power of ten that it counts. -/
def shortestDigits (mantissa : Nat) (exponent : Int) : Nat × Int :=
  let fraction := shifted 2 mantissa 1 (-exponent)
  let places := decimalPlaces fraction.1 fraction.2
  let attempt := fun count : Nat =>
    let power := places - (count + 1 : Nat)
    (neighbour? (.finite false mantissa exponent) fraction.1 fraction.2 power).map (·, power)
  ((List.range longestDigits).findSome? attempt).getD (0, 0)

def significantDigits (n : Nat) : List Char :=
  ((Nat.toDigits 10 n).reverse.dropWhile (· == '0')).reverse

/-- How many decimal places a number written in positional notation may have before the point, and
how many zeros directly after it. -/
def positionalPlaces : Int × Int := (16, 3)

def zeros (count : Nat) : List Char :=
  List.replicate count '0'

/-- Digits with the point after the given number of places. -/
def positional (digits : List Char) (places : Int) : List Char :=
  match places with
  | .ofNat 0 => '0' :: '.' :: digits
  | .negSucc missing => '0' :: '.' :: (zeros (missing + 1) ++ digits)
  | .ofNat places =>
    if digits.length ≤ places then digits ++ zeros (places - digits.length) ++ ['.', '0']
    else digits.take places ++ '.' :: digits.drop places

/-- Digits with the point after the first of them and an exponent of at least two digits. -/
def scientific (digits : List Char) (places : Int) : List Char :=
  let power := places - 1
  let size := Nat.toDigits 10 power.natAbs
  let mark := if power < 0 then '-' else '+'
  let point := if digits.length ≤ 1 then digits else digits.take 1 ++ '.' :: digits.drop 1
  point ++ 'e' :: mark :: (zeros (2 - size.length) ++ size)

def sign (negative : Bool) : List Char :=
  if negative then ['-'] else []

def text : Binary64 → String
  | .nan => "nan"
  | .infinite negative => String.ofList (sign negative ++ ['i', 'n', 'f'])
  | .finite negative mantissa exponent =>
    if mantissa = 0 then String.ofList (sign negative ++ ['0', '.', '0'])
    else
      let shortest := shortestDigits mantissa exponent
      let digits := significantDigits shortest.1
      let places := shortest.2 + decimalLength shortest.1
      let body := if places ≤ positionalPlaces.1 ∧ -positionalPlaces.2 ≤ places
        then positional digits places else scientific digits places
      String.ofList (sign negative ++ body)

end Binary64
end RouteParams
