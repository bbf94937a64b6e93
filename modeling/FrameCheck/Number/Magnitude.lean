/-!
Non-negative floating-point numbers of 64 bits, held exactly: a whole mantissa and a
power of two. A finite number has one representation only, so that equality of values is
equality of representations, also against whole numbers of any size.
-/

namespace FrameCheck

/-- A non-negative number `mantissa * 2 ^ exponent`, or infinity. The mantissa is odd,
except that zero has mantissa and exponent zero. -/
inductive Magnitude where
  | finite (mantissa : Nat) (exponent : Int)
  | infinite
deriving DecidableEq, Repr

namespace Magnitude

def zero : Magnitude := .finite 0 0

/-- Move factors of two from the mantissa to the exponent; `steps` bounds their number. -/
def reduce : (steps : Nat) → (mantissa : Nat) → (exponent : Int) → Magnitude
  | 0, mantissa, exponent => .finite mantissa exponent
  | steps + 1, mantissa, exponent =>
    if mantissa % 2 == 0 then reduce steps (mantissa / 2) (exponent + 1)
    else .finite mantissa exponent

def ofScaled (mantissa : Nat) (exponent : Int) : Magnitude :=
  if mantissa == 0 then zero else reduce (Nat.log2 mantissa) mantissa exponent

def ofNat (number : Nat) : Magnitude :=
  ofScaled number 0

/-! Powers, as whole numbers. -/

def powerOfTwo (exponent : Nat) : Nat :=
  Nat.pow 2 exponent

def powerOfTen (exponent : Nat) : Nat :=
  Nat.pow 10 exponent

/-! The format: mantissas have at most 53 bits, and no number lies below the last place of
the smallest ones or reaches 2 ^ 1024. -/

def mantissaBits : Nat := 53

def lowestExponent : Int := -1074

def overflowExponent : Nat := 1024

def placeExponent (leading : Int) : Int :=
  max lowestExponent (leading - (mantissaBits - 1 : Nat))

def roundQuotient (numerator denominator : Nat) : Nat :=
  let quotient := numerator / denominator
  let twice := 2 * (numerator % denominator)
  if twice < denominator then quotient
  else if denominator < twice then quotient + 1
  else quotient + quotient % 2

def leadingBit (numerator denominator : Nat) : Int :=
  let guess : Int := (Nat.log2 numerator : Int) - (Nat.log2 denominator : Int)
  let reached :=
    if 0 ≤ guess then denominator * powerOfTwo guess.toNat ≤ numerator
    else denominator ≤ numerator * powerOfTwo (-guess).toNat
  if reached then guess else guess - 1

def ofQuotient (numerator denominator : Nat) : Magnitude :=
  let place := placeExponent (leadingBit numerator denominator)
  let mantissa :=
    if 0 ≤ place then roundQuotient numerator (denominator * powerOfTwo place.toNat)
    else roundQuotient (numerator * powerOfTwo (-place).toNat) denominator
  if (overflowExponent : Int) ≤ (Nat.log2 mantissa : Int) + place then .infinite
  else ofScaled mantissa place

/-- The number of the format nearest to `digits * 10 ^ power`. Powers far outside the
range of the format are decided without the arithmetic. -/
def ofDecimal (digits : Nat) (power : Int) : Magnitude :=
  let size : Int := (Nat.log2 digits : Int) / 4 + power
  if digits == 0 then zero
  else if 400 < size then .infinite
  else if (Nat.log2 digits : Int) + power < -400 then zero
  else if 0 ≤ power then ofQuotient (digits * powerOfTen power.toNat) 1
  else ofQuotient digits (powerOfTen (-power).toNat)

end Magnitude

end FrameCheck
