/-!
Binary floating-point numbers of 64 bits, held as exact integers. A finite number is its mantissa
times a power of two. A number written in decimal is rounded to the nearest of them, a tie going to
the even mantissa.
-/
namespace RouteParams

inductive Binary64 where
  | nan
  | infinite (negative : Bool)
  | finite (negative : Bool) (mantissa : Nat) (exponent : Int)
  deriving DecidableEq

namespace Binary64

def leastExponent : Int := -1074

def greatestExponent : Int := 971

/-- A mantissa takes at most this many bits, and exactly as many above the least exponent. -/
def mantissaBits : Nat := 53

def leastOfBits (bits : Nat) : Nat :=
  Nat.pow 2 (bits - 1)

def isZero : Binary64 → Bool
  | .finite _ mantissa _ => mantissa == 0
  | _ => false

/-- The quotient rounded to the nearest integer, a tie going to the even one. -/
def roundedQuotient (numerator denominator : Nat) : Nat :=
  let quotient := numerator / denominator
  let twice := 2 * (numerator % denominator)
  if twice < denominator then quotient
  else if denominator < twice then quotient + 1
  else quotient + quotient % 2

/-- The numerator and denominator of a fraction divided by a power of a base. -/
def shifted (base numerator denominator : Nat) : Int → Nat × Nat
  | .ofNat places => (numerator, denominator * Nat.pow base places)
  | .negSucc places => (numerator * Nat.pow base (places + 1), denominator)

/-- The exponent for a positive fraction: its mantissa then has exactly the bits it may have, unless
the exponent would fall below the least. -/
def exponentFor (numerator denominator : Nat) : Int :=
  let estimate := (numerator.log2 : Int) - denominator.log2 - (mantissaBits - 1)
  let scaled := shifted 2 numerator denominator estimate
  let exact := if scaled.1 < scaled.2 * leastOfBits mantissaBits then estimate - 1 else estimate
  max exact leastExponent

def ofFraction (negative : Bool) (numerator denominator : Nat) : Binary64 :=
  if numerator = 0 then .finite negative 0 leastExponent
  else
    let exponent := exponentFor numerator denominator
    let scaled := shifted 2 numerator denominator exponent
    let rounded := roundedQuotient scaled.1 scaled.2
    let result := if rounded = leastOfBits (mantissaBits + 1) then
        (leastOfBits mantissaBits, exponent + 1)
      else (rounded, exponent)
    if greatestExponent < result.2 then .infinite negative
    else .finite negative result.1 result.2

def decimalLength (n : Nat) : Nat :=
  (Nat.toDigits 10 n).length

/-- The number nearest to `digits` times a power of ten. Beyond 400 places either way the result is
infinite or zero whatever the digits are. -/
def ofDecimal (negative : Bool) (digits : Nat) (exponent : Int) : Binary64 :=
  let places := exponent + decimalLength digits
  if digits = 0 ∨ places < -400 then .finite negative 0 leastExponent
  else if 400 < places then .infinite negative
  else
    let fraction := shifted 10 digits 1 (-exponent)
    ofFraction negative fraction.1 fraction.2

end Binary64
end RouteParams
