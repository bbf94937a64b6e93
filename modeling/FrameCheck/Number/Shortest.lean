import FrameCheck.Number.Magnitude

/-!
The text of a floating-point number: the fewest digits that read back as the number, and
of those the nearest ones.
-/

namespace FrameCheck

namespace Magnitude

structure DecimalDigits where
  digits : Nat
  power : Int

/-- The numbers that read back as a given one, in units of a quarter of its last place:
the ends are the halves towards its neighbours, and belong to it when its mantissa is
even. -/
structure ReadBack where
  low : Nat
  value : Nat
  high : Nat
  closed : Bool
  place : Int

def readBack (mantissa : Nat) (exponent : Int) : ReadBack :=
  let place := placeExponent ((Nat.log2 mantissa : Int) + exponent)
  let scaled := mantissa * powerOfTwo (exponent - place).toNat
  let narrow := scaled == powerOfTwo (mantissaBits - 1) && lowestExponent < place
  { low := 4 * scaled - (if narrow then 1 else 2)
    value := 4 * scaled
    high := 4 * scaled + 2
    closed := scaled % 2 == 0
    place := place - 2 }

def compareDecimal (digits : Nat) (power : Int) (units : Nat) (place : Int) : Ordering :=
  compare (digits * powerOfTen power.toNat * powerOfTwo (-place).toNat)
    (units * powerOfTen (-power).toNat * powerOfTwo place.toNat)

def ReadBack.holds (range : ReadBack) (digits : Nat) (power : Int) : Bool :=
  let low := compareDecimal digits power range.low range.place
  let high := compareDecimal digits power range.high range.place
  if range.closed then low != .lt && high != .gt else low == .gt && high == .lt

def gridBelow (units : Nat) (place power : Int) : Nat :=
  (units * powerOfTwo place.toNat * powerOfTen (-power).toNat) /
    (powerOfTwo (-place).toNat * powerOfTen power.toNat)

/-- Whether the upper of the two neighbours on the grid is the nearer one; a tie goes to
the even one. -/
def upperIsNearer (range : ReadBack) (below : Nat) (power : Int) : Bool :=
  match compareDecimal (2 * below + 1) power (2 * range.value) range.place with
  | .lt => true
  | .gt => false
  | .eq => below % 2 == 1

def onGrid? (range : ReadBack) (power : Int) : Option DecimalDigits :=
  let below := gridBelow range.value range.place power
  match range.holds below power, range.holds (below + 1) power with
  | true, true => some ⟨if upperIsNearer range below power then below + 1 else below, power⟩
  | true, false => some ⟨below, power⟩
  | false, true => some ⟨below + 1, power⟩
  | false, false => none

def searchGrids (range : ReadBack) : (grids : Nat) → (power : Int) → DecimalDigits
  | 0, power => ⟨gridBelow range.value range.place power, power⟩
  | grids + 1, power =>
    match onGrid? range power with
    | some found => found
    | none => searchGrids range grids (power - 1)

/-- The shortest digits that read back. No number of the format needs more than
seventeen; the search starts one place above its leading digit. -/
def shortest (mantissa : Nat) (exponent : Int) : DecimalDigits :=
  let leading := (Nat.log2 mantissa : Int) + exponent
  searchGrids (readBack mantissa exponent) 20 (leading * 30103 / 100000 + 1)

structure Layout where
  lowest : Int
  highest : Int
  keepPoint : Bool

def plainLayout : Layout := ⟨-4, 16, true⟩

def bareLayout : Layout := ⟨-4, 16, false⟩

def exponentText (power : Int) : String :=
  let digits := toString power.natAbs
  (if power < 0 then "e-" else "e+") ++ (if digits.length < 2 then "0" ++ digits else digits)

def trimZeros : (steps : Nat) → DecimalDigits → DecimalDigits
  | 0, decimal => decimal
  | steps + 1, decimal =>
    if decimal.digits % 10 == 0 then trimZeros steps ⟨decimal.digits / 10, decimal.power + 1⟩
    else decimal

def layOut (layout : Layout) (decimal : DecimalDigits) : String :=
  let decimal := trimZeros 30 decimal
  let digits := Nat.toDigits 10 decimal.digits
  let leading := decimal.power + (digits.length - 1 : Nat)
  if leading < layout.lowest || layout.highest ≤ leading then
    let fraction := digits.drop 1
    String.ofList (digits.take 1) ++
      (if fraction.isEmpty then "" else "." ++ String.ofList fraction) ++ exponentText leading
  else if 0 ≤ decimal.power then
    String.ofList (digits ++ List.replicate decimal.power.toNat '0') ++
      (if layout.keepPoint then ".0" else "")
  else
    let places := (-decimal.power).toNat
    let padded := List.replicate (places + 1 - digits.length) '0' ++ digits
    String.ofList (padded.take (padded.length - places)) ++ "." ++
      String.ofList (padded.drop (padded.length - places))

def text (layout : Layout) : Magnitude → String
  | .infinite => "inf"
  | .finite 0 _ => if layout.keepPoint then "0.0" else "0"
  | .finite mantissa exponent => layOut layout (shortest mantissa exponent)

end Magnitude

end FrameCheck
