/-!
# Decimal text of double-precision numbers

Numbers of a stylesheet script are IEEE double-precision values, read from decimal text and
written back as decimal text. Both directions here are exact:

- `decimalToFloat` gives the double nearest to `m · 10^e` (ties to an even significand), by
  integer arithmetic on the exact quotient, so that `9007199254740993` reads as
  `9007199254740992`.
- `fixedText` writes the exact binary value of a double rounded to a number of decimal places
  (ties to an even last digit), so that the double nearest `1e40` is written
  `10000000000000000303786028427003666890752`.

A double is taken apart through its bits: a sign, a significand below `2^53` and a binary
exponent, the value being `significand · 2^exponent`.
-/

namespace CssBundle.Sass

/-- A finite double taken apart: its sign, and the significand and binary exponent of its
magnitude, which is `significand · 2^exponent`. -/
structure BinaryParts where
  negative : Bool
  significand : Nat
  exponent : Int
  deriving Repr, Inhabited

def binaryParts (x : Float) : Option BinaryParts :=
  let bits : Nat := x.toBits.toNat
  let negative : Bool := bits ≥ Nat.pow 2 63
  let biased : Nat := (bits / Nat.pow 2 52) % 2048
  let fraction : Nat := bits % Nat.pow 2 52
  if biased == 2047 then none
  else if biased == 0 then some ⟨negative, fraction, -1074⟩
  else some ⟨negative, fraction + Nat.pow 2 52, (biased : Int) - 1075⟩

def bitLength (n : Nat) : Nat := if n == 0 then 0 else Nat.log2 n + 1

def floatOfFields (negative : Bool) (biased fraction : Nat) : Float :=
  Float.ofBits (UInt64.ofNat ((if negative then Nat.pow 2 63 else 0) + biased * Nat.pow 2 52 + fraction))

def roundQuotient (num den : Nat) : Nat :=
  let q := num / den
  let r := num % den
  if 2 * r > den || (2 * r == den && q % 2 == 1) then q + 1 else q

def roundRatio (negative : Bool) (num den : Nat) : Float :=
  if num == 0 || den == 0 then floatOfFields negative 0 0
  else
    -- choose a binary exponent `e` with 2^52 ≤ num / (den · 2^e) < 2^54
    let e : Int := (bitLength num : Int) - (bitLength den : Int) - 53
    let e := max e (-1074)
    let scaled (e : Int) : Nat :=
      if e ≥ 0 then roundQuotient num (den * Nat.pow 2 e.toNat)
      else roundQuotient (num * Nat.pow 2 (-e).toNat) den
    let m := scaled e
    -- the rounded significand may need one more bit of room
    let (m, e) := if m ≥ Nat.pow 2 53 then (scaled (e + 1), e + 1) else (m, e)
    let (m, e) := if m ≥ Nat.pow 2 53 then (m / 2, e + 1) else (m, e)
    if m < Nat.pow 2 52 then
      -- subnormal (or rounded up into the first normal binade)
      if m == Nat.pow 2 52 then floatOfFields negative 1 0 else floatOfFields negative 0 m
    else
      let biased := e + 1075
      if biased ≥ 2047 then floatOfFields negative 2047 0
      else floatOfFields negative biased.toNat (m - Nat.pow 2 52)

def decimalToFloat (negative : Bool) (m : Nat) (e : Int) : Float :=
  if e ≥ 0 then roundRatio negative (m * Nat.pow 10 e.toNat) 1
  else roundRatio negative m (Nat.pow 10 (-e).toNat)

/-- The exact magnitude of a double as a fraction `num / den`, den a power of two. -/
def BinaryParts.ratio (p : BinaryParts) : Nat × Nat :=
  if p.exponent ≥ 0 then (p.significand * Nat.pow 2 p.exponent.toNat, 1)
  else (p.significand, Nat.pow 2 (-p.exponent).toNat)

/-- The digits of a natural number, at least `width` of them, zeros in front. -/
def padDigits (n width : Nat) : String :=
  let s := toString n
  String.ofList (List.replicate (width - s.length) '0') ++ s

/-- The magnitude of a double rounded to `places` decimal places (ties to an even last digit),
as whole part and fraction digits. -/
def BinaryParts.fixedDigits (p : BinaryParts) (places : Nat) : Nat × String :=
  let (num, den) := p.ratio
  let scaled := roundQuotient (num * Nat.pow 10 places) den
  (scaled / Nat.pow 10 places, if places == 0 then "" else padDigits (scaled % Nat.pow 10 places) places)

/-- The decimal text of a finite double rounded to `places` places, without a sign for a value
that rounds to zero, trailing zeros of the fraction and a bare point dropped. -/
def fixedText (x : Float) (places : Nat) : String :=
  match binaryParts x with
  | none => if x.isNaN then "NaN" else if x < 0 then "-Infinity" else "Infinity"
  | some p =>
    let (whole, frac) := p.fixedDigits places
    let frac := String.ofList (frac.toList.reverse.dropWhile (· == '0')).reverse
    let body := if frac.isEmpty then toString whole else toString whole ++ "." ++ frac
    if p.negative && body != "0" then "-" ++ body else body


end CssBundle.Sass
