import CssBundle.Sass.Decimal
import CssBundle.Sass.Unit
import CssBundle.Json.Double

/-!
# Numbers with units

A stylesheet number is a double with a compound unit: lists of numerator and denominator units.

Numbers are compared *fuzzily*: two doubles are equal when they differ by at most `10⁻¹¹` and
round to the same multiple of it, so that `0.1 + 0.2 == 0.3` and `1 == 1.000000000001` hold.
Rounding to an integer is fuzzy too: a fraction within `10⁻¹¹` of one half rounds up for
positive numbers and down for negative ones.

Adding, subtracting, taking remainders and comparing convert the right operand into the units of
the left one; a unitless operand takes the other's units, and units that do not convert are an
error naming both. Compound units (`px/s`, `px*em`) convert only into the same units written in
the same order. Multiplying and dividing join the units and cancel every numerator against a
denominator it converts into.

A number is written with at most ten decimal places of its exact binary value, trailing zeros
dropped, and never as `-0`.
-/

namespace CssBundle.Sass

def epsilon : Float := decimalToFloat false 1 (-11)

def inverseEpsilon : Float := 1 / epsilon

def fuzzyEquals (a b : Float) : Bool :=
  a == b || ((a - b).abs ≤ epsilon && (a * inverseEpsilon).round == (b * inverseEpsilon).round)

def fuzzyLessThan (a b : Float) : Bool := a < b && !fuzzyEquals a b

def fuzzyLessThanOrEquals (a b : Float) : Bool := a < b || fuzzyEquals a b

def fuzzyGreaterThan (a b : Float) : Bool := a > b && !fuzzyEquals a b

def fuzzyGreaterThanOrEquals (a b : Float) : Bool := a > b || fuzzyEquals a b

def fuzzyIsInt (a : Float) : Bool :=
  !a.isNaN && !a.isInf && fuzzyEquals a a.round

def fuzzyAsInt (a : Float) : Option Int :=
  if fuzzyIsInt a then
    match binaryParts a.round with
    | some p =>
      let (num, den) := p.ratio
      let n : Int := (num / den : Nat)
      some (if p.negative then -n else n)
    | none => none
  else none

/-- A double as the shortest decimal that reads back as it, positional with no exponent and no
`.0` after a whole number, the way some messages write a number's bare value: `2.5`, `-inf`,
`NaN`, `0.30000000000000004`, `1000000000000000000000000000000`. -/
def plainFloatText (x : Float) : String :=
  if x.isNaN then "NaN"
  else if x.isInf then (if x < 0 then "-inf" else "inf")
  else match binaryParts x with
    | none => "NaN"
    | some p =>
      let sign := if p.negative then "-" else ""
      let units := p.significand * Nat.pow 2 (p.exponent + 1074).toNat
      if units == 0 then sign ++ "0" else
      let (d, k) := Json.Double.shortest units
      let ds := Nat.toDigits 10 d
      let point : Int := ds.length + k
      let body :=
        if 0 ≤ k then String.ofList ds ++ String.ofList (List.replicate k.toNat '0')
        else if 0 < point then
          String.ofList (ds.take point.toNat) ++ "." ++ String.ofList (ds.drop point.toNat)
        else "0." ++ String.ofList (List.replicate (-point).toNat '0') ++ String.ofList ds
      sign ++ body

/-- The exact remainder of `a` by `b` truncated toward zero, as the C library computes it; both
are finite and `b` is not zero. -/
def truncRem (a b : Float) : Float :=
  match binaryParts a, binaryParts b with
  | some pa, some pb =>
    if pb.significand == 0 then 0.0 / 0.0
    else
      let e := min pa.exponent pb.exponent
      let ma := pa.significand * Nat.pow 2 (pa.exponent - e).toNat
      let mb := pb.significand * Nat.pow 2 (pb.exponent - e).toNat
      let r := ma % mb
      if e ≥ 0 then roundRatio pa.negative (r * Nat.pow 2 e.toNat) 1
      else roundRatio pa.negative r (Nat.pow 2 (-e).toNat)
  | _, _ => 0.0 / 0.0

def floorRem (a b : Float) : Float :=
  let r := truncRem a b
  if r < 0 then r + b.abs else r

/-- Round to the nearest integer, a fraction fuzzily one half going up for positive numbers and
down for negative ones. -/
def fuzzyRound (a : Float) : Float :=
  if a > 0 then
    if fuzzyLessThan (floorRem a 1) 0.5 then a.floor else a.ceil
  else
    if fuzzyLessThanOrEquals (floorRem a 1) 0.5 then a.floor else a.ceil

/-- The remainder whose sign follows the divisor, with infinities and zero handled as the
stylesheet language defines them. -/
def sassModulo (a b : Float) : Float :=
  if a.isInf then 0.0 / 0.0
  else if b.isInf then
    let aNeg := a < 0 || (a == 0 && (1 / a) < 0)
    if aNeg == (b < 0) then a else b
  else if b > 0 then floorRem a b
  else if b == 0 then 0.0 / 0.0
  else
    let r := floorRem a b
    if r == 0 then 0 else r + b

/-- A number: a double with numerator and denominator units. -/
structure Number where
  value : Float
  numer : List String := []
  denom : List String := []
  deriving Inhabited

def Number.plain (v : Float) : Number := { value := v }

def Number.withUnit (v : Float) (u : String) : Number := { value := v, numer := [u] }

def Number.isUnitless (n : Number) : Bool := n.numer.isEmpty && n.denom.isEmpty

/-- Whether a number has more than one numerator unit or any denominator unit; such a number
cannot be written as CSS. -/
def Number.hasComplexUnits (n : Number) : Bool := n.numer.length > 1 || !n.denom.isEmpty

def Number.unitString (n : Number) : String := unitText n.numer n.denom

def Number.hasUnit (n : Number) (u : String) : Bool := n.numer == [u] && n.denom.isEmpty

def Number.withValue (n : Number) (v : Float) : Number := { n with value := v }

/-- Remove the first unit of a list that converts into `u`, answering its factor and the rest. -/
def takeConvertible (u : String) : List String → Option (Float × List String)
  | [] => none
  | x :: xs =>
    match unitFactor u x with
    | some f => some (f, xs)
    | none => (takeConvertible u xs).map fun (f, rest) => (f, x :: rest)

/-- The value of a number in other units, when every unit pairs off with one it converts into. -/
def Number.valueIn (n : Number) (numer denom : List String) : Option Float :=
  let step (mult : Bool) (acc : Option (Float × List String)) (u : String) :=
    acc.bind fun (v, olds) =>
      (takeConvertible u olds).map fun (f, rest) => (if mult then v * f else v / f, rest)
  match numer.foldl (step true) (some (n.value, n.numer)) with
  | some (v, []) =>
    match denom.foldl (step false) (some (v, n.denom)) with
    | some (v, []) => some v
    | _ => none
  | _ => none

def Number.sameUnits (a b : Number) : Bool := a.numer == b.numer && a.denom == b.denom

/-- Whether two numbers' units convert into each other, a unitless number matching any. Compound
units convert into nothing but themselves, written in the same order: `px/s` and `px/ms` do not
compare, nor do `px*em` and `em*px`. -/
def Number.comparable (a b : Number) : Bool :=
  a.isUnitless || b.isUnitless ||
    if a.hasComplexUnits || b.hasComplexUnits then a.sameUnits b
    else (b.valueIn a.numer a.denom).isSome

def incompatibleUnits (a b : Number) : String :=
  "Incompatible units " ++ b.unitString ++ " and " ++ a.unitString ++ "."

/-- The values of two numbers in common units, and those units: the left one's, or the right
one's when the left is unitless. -/
def Number.coerce (a b : Number) : Except String (Float × Float × List String × List String) :=
  if a.isUnitless then .ok (a.value, b.value, b.numer, b.denom)
  else if b.isUnitless then .ok (a.value, b.value, a.numer, a.denom)
  else if !a.comparable b then .error (incompatibleUnits a b)
  else match b.valueIn a.numer a.denom with
    | some v => .ok (a.value, v, a.numer, a.denom)
    | none => .error (incompatibleUnits a b)

def Number.combine (f : Float → Float → Float) (a b : Number) : Except String Number := do
  let (x, y, numer, denom) ← a.coerce b
  return { value := f x y, numer, denom }

def Number.add (a b : Number) : Except String Number := Number.combine (· + ·) a b

def Number.sub (a b : Number) : Except String Number := Number.combine (· - ·) a b

def Number.mod (a b : Number) : Except String Number := Number.combine sassModulo a b

/-- Cancel numerators against denominators they convert into, dividing the value by each
factor; numerators that find no partner are kept, in order. -/
def cancelUnits (v : Float) (numers : List String) (denoms : List String) :
    Float × List String × List String :=
  numers.foldl (fun (v, kept, ds) u =>
    match takeConvertible u ds with
    | some (f, rest) => (v / f, kept, rest)
    | none => (v, kept ++ [u], ds)) (v, [], denoms)

/-- Whether some unit of the first list converts into some unit of the second. -/
def anyConvertible (xs ys : List String) : Bool := xs.any fun x => ys.any (convertible x)

/-- A value with the units of `a` times the units `numer / denom`, cancelled. -/
def Number.multiplyUnits (a : Number) (v : Float) (numer denom : List String) : Number :=
  if numer.isEmpty && denom.isEmpty then { value := v, numer := a.numer, denom := a.denom }
  else if a.numer.isEmpty && a.denom.isEmpty then { value := v, numer, denom }
  else if a.numer.isEmpty && denom.isEmpty && !anyConvertible numer a.denom then
    { value := v, numer, denom := a.denom }
  else if a.denom.isEmpty && numer.isEmpty && !anyConvertible a.numer denom then
    { value := v, numer := a.numer, denom }
  else
    let (v, kept1, otherDenoms) := cancelUnits v a.numer denom
    let (v, kept2, ownDenoms) := cancelUnits v numer a.denom
    { value := v, numer := kept1 ++ kept2, denom := ownDenoms ++ otherDenoms }

def Number.mul (a b : Number) : Number := a.multiplyUnits (a.value * b.value) b.numer b.denom

def Number.div (a b : Number) : Number := a.multiplyUnits (a.value / b.value) b.denom b.numer

/-- Whether two numbers are equal: the same number of units that convert into each other (the
very same units, when they are compound), and fuzzily equal values once converted. -/
def Number.equals (a b : Number) : Bool :=
  if a.numer.length != b.numer.length || a.denom.length != b.denom.length then false
  else if a.isUnitless then fuzzyEquals a.value b.value
  else if !a.comparable b then false
  else match b.valueIn a.numer a.denom with
    | some v => fuzzyEquals a.value v
    | none => false

def Number.compareBy (f : Float → Float → Bool) (a b : Number) : Except String Bool := do
  let (x, y, _, _) ← a.coerce b
  return f x y

/-- The decimal text of a double: at most ten places, no trailing zeros, no negative zero. -/
def numberText (v : Float) : String := fixedText v 10

/-- A number as it is shown in messages and by `inspect`: its value and all its units. -/
def Number.inspect (n : Number) : String := numberText n.value ++ n.unitString

end CssBundle.Sass
