/-!
# Doubles

A JSON number with a fraction or an exponent, a negative zero, or an integer too large for 64
bits is held as a double-precision binary floating-point number, computed the way the reader
computes it. A finite double is kept exactly: its sign, and its magnitude counted in units of the
smallest positive double, `2 ^ -1074`. Every finite double is a whole number of such units, so
magnitudes compare and combine as natural numbers, and rounding a ratio of units to a double is
the one step that loses anything. A magnitude below `2 ^ 53` units is a double as it is; above,
a double has 53 significant bits. Rounding goes to the nearest double, and a tie to the one with
the even last significant bit; a magnitude that rounds to `2 ^ 1024` or more has no double.

The reader builds a double from the digits it keeps and a power of ten, one rounding at a time:
the digits become a double, which is multiplied or divided by the double nearest to the power of
ten. The result is the nearest double to the decimal text when few digits are kept, and may miss
it by a unit in the last place otherwise (`9007199254740993.0` reads as `9007199254740994.0`).

The written form of a double is the shortest decimal that reads back as the same double, and the
nearest to it among the shortest: positional from `1e-5` up to `1e16`, with `.0` after a whole
number, and scientific outside that range, with a sign on the exponent (`1e+16`, `1e-7`).
-/

namespace CssBundle.Json

/-- A finite double: its sign and its magnitude in units of `2 ^ -1074`. -/
structure Double where
  negative : Bool
  units : Nat
  deriving Repr, BEq, DecidableEq, Inhabited

namespace Double

def precision : Nat := 53

def unitsOfOne : Nat := Nat.pow 2 1074

def overflowUnits : Nat := Nat.pow 2 2098

def zero (negative : Bool) : Double := ⟨negative, 0⟩

def bitLength (n : Nat) : Nat := if n == 0 then 0 else Nat.log2 n + 1

def roundQuotient (num den : Nat) : Nat :=
  let q := num / den
  let twice := 2 * (num % den)
  if twice < den then q
  else if twice > den then q + 1
  else if q % 2 == 0 then q
  else q + 1

/-- The distance in units between a double of `units` units and the next larger double. -/
def spacing (units : Nat) : Nat :=
  if units < Nat.pow 2 precision then 1 else Nat.pow 2 (bitLength units - precision)

def ofUnitsRatio (negative : Bool) (num den : Nat) : Option Double :=
  let whole := num / den
  let units :=
    if whole < Nat.pow 2 precision then roundQuotient num den
    else
      let step := spacing whole
      roundQuotient num (den * step) * step
  if units ≥ overflowUnits then none else some ⟨negative, units⟩

/-- The double nearest to a natural number, as a 64-bit integer is turned into a double. -/
def ofNat (negative : Bool) (n : Nat) : Double :=
  (ofUnitsRatio negative (n * unitsOfOne) 1).getD (zero negative)

def powerOfTen (k : Nat) : Double := ofNat false (Nat.pow 10 k)

/-- The product of two doubles, rounded; none when it is too large. -/
def mul (a b : Double) : Option Double :=
  ofUnitsRatio (a.negative != b.negative) (a.units * b.units) unitsOfOne

/-- The quotient of two doubles, the divisor not zero, rounded; it is never too large when the
divisor is at least one. -/
def div (a b : Double) : Double :=
  (ofUnitsRatio (a.negative != b.negative) (a.units * unitsOfOne) b.units).getD (zero a.negative)

def largestStep : Nat := 308

/-- The double of `significand × 10 ^ exponent` as the reader computes it: the significand
becomes a double, which is multiplied or divided by the double nearest to the power of ten. A
power beyond `10 ^ 308` is taken in steps of `10 ^ 308`, dividing until the value is zero or the
rest of the power is in reach; none when the value is too large. Three steps always suffice, as
the significand is below `2 ^ 64`. -/
def ofParts (negative : Bool) (significand : Nat) (exponent : Int) : Option Double :=
  (go 4 (ofNat false significand) exponent).map fun f => { f with negative := negative }
where
  go : Nat → Double → Int → Option Double
    | 0, f, _ => some f
    | fuel + 1, f, e =>
      if e.natAbs ≤ largestStep then
        if 0 ≤ e then mul f (powerOfTen e.toNat) else some (div f (powerOfTen e.natAbs))
      else if f.units == 0 then some f
      else if 0 ≤ e then none
      else go fuel (div f (powerOfTen largestStep)) (e + largestStep)

/-! ## The shortest decimal -/

/-- The bounds of the decimals that read back as a double of `units` units (not zero), in half
units: halfway down to the next smaller double and halfway up to the next larger one. The bounds
themselves read back as the double when its significand is even, as ties go to the even one. -/
def roundTripBounds (units : Nat) : Nat × Nat × Bool :=
  let above := spacing units
  let below := if units ≥ Nat.pow 2 precision && units == Nat.pow 2 (bitLength units - 1) then above / 2
    else above
  (2 * units - below, 2 * units + above, (units / above) % 2 == 0)

def halfUnitsOfOne : Nat := Nat.pow 2 1075

/-- The digits `d` of the decimal `d × 10 ^ k` with the fewest digits, for the given `k`, that lies
between bounds `low` and `high` in half units (inclusive or not), and is nearest to `target`,
ties to an even last digit; none when no multiple of `10 ^ k` lies between them. -/
def digitsAt (low high target : Nat) (inclusive : Bool) (k : Int) : Option Nat :=
  let scale := Nat.pow 10 k.toNat * halfUnitsOfOne
  let boundScale := Nat.pow 10 (-k).toNat
  let lowN := low * boundScale
  let highN := high * boundScale
  let first := if inclusive then (lowN + scale - 1) / scale else lowN / scale + 1
  let last := if inclusive then highN / scale else (highN + scale - 1) / scale - 1
  if first ≤ last && first * scale ≤ highN then
    some (max first (min last (roundQuotient (target * boundScale) scale)))
  else none

/-- A decimal exponent `k` with `10 ^ k` above every magnitude below `2 ^ bits` half units. -/
def exponentAbove (bits : Nat) : Int :=
  ((bits : Int) - 1075) * 30103 / 100000 + 2

/-- The shortest decimal that reads back as a positive double of `units` units, as its digits
`d` and exponent `k` of `d × 10 ^ k`; among the shortest, the nearest. The search tries ever
smaller powers of ten from one above the double; the first that has a multiple between the
bounds gives the fewest digits. -/
def shortest (units : Nat) : Nat × Int :=
  let (low, high, inclusive) := roundTripBounds units
  go (low, high, inclusive) (2 * units) 800 (exponentAbove (bitLength high))
where
  go (bounds : Nat × Nat × Bool) (target : Nat) : Nat → Int → Nat × Int
    | 0, k => (units, k)
    | fuel + 1, k =>
      match digitsAt bounds.1 bounds.2.1 target bounds.2.2 k with
      | some d => (d, k)
      | none => go bounds target fuel (k - 1)

/-- The written form of a double: the shortest decimal that reads back as it, positional from
`1e-5` up to `1e16` and scientific outside, as the writer lays it out. -/
def render (x : Double) : String :=
  let sign := if x.negative then "-" else ""
  if x.units == 0 then sign ++ "0.0" else
  let (d, k) := shortest x.units
  let ds := Nat.toDigits 10 d
  let point : Int := ds.length + k
  let body : String :=
    if 0 ≤ k ∧ point ≤ 16 then
      String.ofList ds ++ String.ofList (List.replicate k.toNat '0') ++ ".0"
    else if 0 < point ∧ point ≤ 16 then
      String.ofList (ds.take point.toNat) ++ "." ++ String.ofList (ds.drop point.toNat)
    else if -5 < point ∧ point ≤ 0 then
      "0." ++ String.ofList (List.replicate (-point).toNat '0') ++ String.ofList ds
    else
      let e := point - 1
      let exponent := if 0 ≤ e then "e+" ++ toString e else "e" ++ toString e
      match ds with
      | [c] => String.singleton c ++ exponent
      | c :: rest => String.singleton c ++ "." ++ String.ofList rest ++ exponent
      | [] => "0.0"
  sign ++ body

end Double

end CssBundle.Json
