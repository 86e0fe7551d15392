import CssBundle.Sass.Builtin.Args

/-!
# Number functions

Rounding keeps a number's units; `percentage` needs a unitless number. `min` and `max` compare
numbers whose units convert into each other. The trigonometric functions take unitless numbers
as radians or numbers in angle units, and the inverse ones answer degrees.
-/

namespace CssBundle.Sass

def numberArg (a : ArgValues) (name : String := "number") : Except String Number := do
  a.maxArgs 1
  expectNumber name (← a.need 0 name)

def mapNumber (f : Float → Float) (a : ArgValues) : Except String Value := do
  let n ← numberArg a
  return .number (n.withValue (f n.value)) none

def fnPercentage (a : ArgValues) : Except String Value := do
  let n ← numberArg a
  expectUnitless "number" n
  return .ofUnit (n.value * 100) "%"

/-- A function of one number that rounds it to an integer, keeping its units; an infinite or
undefined number has no integer to round to. -/
def roundNumber (f : Float → Float) (a : ArgValues) : Except String Value := do
  let n ← numberArg a
  if n.value.isNaN || n.value.isInf then .error "Infinity or NaN toInt"
  return .number (n.withValue (f n.value)) none

/-- `round($number)`: the nearest integer, a half rounded away from zero, with no tolerance for a
fraction just below one half. -/
def fnRound (a : ArgValues) : Except String Value := roundNumber Float.round a

def fnCeil (a : ArgValues) : Except String Value := roundNumber Float.ceil a

def fnFloor (a : ArgValues) : Except String Value := roundNumber Float.floor a

def fnAbs (a : ArgValues) : Except String Value := mapNumber Float.abs a

def fnUnit (a : ArgValues) : Except String Value := do
  let n ← numberArg a
  return .string n.unitString true

def fnUnitless (a : ArgValues) : Except String Value := do
  let n ← numberArg a
  return .bool n.isUnitless

def fnComparable (a : ArgValues) : Except String Value := do
  a.maxArgs 2
  let x ← expectNumber "number1" (← a.need 0 "number1")
  let y ← expectNumber "number2" (← a.need 1 "number2")
  return .bool (x.comparable y)

/-- The least or greatest of numbers: `better x y` tells whether `x` beats `y`. -/
def extremum (a : ArgValues) (better : Number → Number → Except String Bool) :
    Except String Value := do
  let vs ← a.variadic
  let ns ← vs.mapM fun v => match v with
    | .number n _ => pure n
    | other => .error (other.inspect ++ " is not a number.")
  match ns with
  | [] => .error "At least one argument must be passed."
  | first :: rest =>
    let best ← rest.foldlM (fun best n => do
      if ← better n best then pure n else pure best) first
    return .number best none

def fnMin (a : ArgValues) : Except String Value :=
  extremum a fun x y => x.compareBy fuzzyLessThan y

def fnMax (a : ArgValues) : Except String Value :=
  extremum a fun x y => x.compareBy fuzzyGreaterThan y

def fnDiv (a : ArgValues) : Except String Value := do
  a.maxArgs 2
  let x ← a.need 0 "number1"
  let y ← a.need 1 "number2"
  (x.withoutSlash).dividedBy y.withoutSlash

/-- How a number's units read in the message about mixing numbers with and without units. -/
def unitPhrase (n : Number) : String :=
  if n.isUnitless then "is unitless" else "has unit " ++ n.unitString

/-- `math.clamp($min, $number, $max)`: `$min` and `$max` must compare, the arguments must all
have units or all be unitless (`$max` is checked only against a `$min` with units), and a
`$number` equal to `$min` is answered as it is. -/
def fnClamp (a : ArgValues) : Except String Value := do
  a.maxArgs 3
  let lo ← expectNumber "min" (← a.need 0 "min")
  let n ← expectNumber "number" (← a.need 1 "number")
  let hi ← expectNumber "max" (← a.need 2 "max")
  let _ ← lo.compareBy fuzzyLessThan hi
  if lo.isUnitless != n.isUnitless then
    .error ("$min " ++ unitPhrase lo ++ " but $number " ++ unitPhrase n ++
      ". Arguments must all have units or all be unitless.")
  if !lo.isUnitless && hi.isUnitless then
    .error ("$min " ++ unitPhrase lo ++ " but $max " ++ unitPhrase hi ++
      ". Arguments must all have units or all be unitless.")
  if ← lo.compareBy fuzzyGreaterThan n then return .number lo none
  if ← lo.compareBy fuzzyEquals n then return .number n none
  if ← n.compareBy fuzzyGreaterThan hi then return .number hi none
  return .number n none

def unitlessArg (a : ArgValues) (pos : Nat) (name : String) : Except String Float := do
  let n ← expectNumber name (← a.need pos name)
  expectUnitless name n
  return n.value

def fnSqrt (a : ArgValues) : Except String Value := do
  a.maxArgs 1
  return .ofFloat (Float.sqrt (← unitlessArg a 0 "number"))

def fnPow (a : ArgValues) : Except String Value := do
  a.maxArgs 2
  let b ← unitlessArg a 0 "base"
  let e ← unitlessArg a 1 "exponent"
  return .ofFloat (Float.pow b e)

def fnLog (a : ArgValues) : Except String Value := do
  a.maxArgs 2
  let x ← unitlessArg a 0 "number"
  match a.get? 1 "base" with
  | none | some .null => return .ofFloat (Float.log x)
  | some _ =>
    let b ← unitlessArg a 1 "base"
    return .ofFloat (Float.log x / Float.log b)

/-- `math.hypot($numbers...)`: the numbers must all have units or all be unitless, and their
units must convert into the first one's. -/
def fnHypot (a : ArgValues) : Except String Value := do
  let vs ← a.variadic
  let ns ← vs.mapM fun v => match v with
    | .number n _ => pure n
    | other => .error (other.inspect ++ " is not a number.")
  match ns with
  | [] => .error "At least one argument must be passed."
  | first :: rest =>
    for (n, i) in rest.zipIdx do
      if n.isUnitless != first.isUnitless then
        .error ("Argument 1 " ++ unitPhrase first ++ " but argument " ++ toString (i + 2) ++ " " ++
          unitPhrase n ++ ". Arguments must all have units or all be unitless.")
    let total ← rest.foldlM (fun acc n => do
      if !n.comparable first then
        .error ("Incompatible units " ++ first.unitString ++ " and " ++ n.unitString ++ ".")
      match n.valueIn first.numer first.denom with
      | some v => pure (acc + v * v)
      | none => pure (acc + n.value * n.value)) (first.value * first.value)
    return .number (first.withValue (Float.sqrt total)) none

/-- A number as radians: unitless, or in an angle unit. -/
def toRadians (name : String) (n : Number) : Except String Float :=
  if n.isUnitless then .ok n.value
  else match n.valueIn ["rad"] [] with
    | some v => .ok v
    | none => .error ("$" ++ name ++ ": Expected " ++ n.inspect ++
        " to have an angle unit (deg, grad, rad, turn).")

def trig (f : Float → Float) (a : ArgValues) : Except String Value := do
  let n ← numberArg a
  return .ofFloat (f (← toRadians "number" n))

def inverseTrig (f : Float → Float) (a : ArgValues) : Except String Value := do
  a.maxArgs 1
  let x ← unitlessArg a 0 "number"
  return .ofUnit (f x * 180 / piFloat) "deg"

/-- `math.atan2($y, $x)`: both unitless, or `$y` in units that convert into `$x`'s. -/
def fnAtan2 (a : ArgValues) : Except String Value := do
  a.maxArgs 2
  let y ← expectNumber "y" (← a.need 0 "y")
  let x ← expectNumber "x" (← a.need 1 "x")
  let yv ← if x.isUnitless && y.isUnitless then pure y.value
    else if y.isUnitless || x.isUnitless then
      .error ("$y " ++ unitPhrase y ++ " but $x " ++ unitPhrase x ++
        ". Arguments must all have units or all be unitless.")
    else if x.comparable y then pure ((y.valueIn x.numer x.denom).getD y.value)
    else .error ("Incompatible units " ++ y.unitString ++ " and " ++ x.unitString ++ ".")
  return .ofUnit (Float.atan2 yv x.value * 180 / piFloat) "deg"

def fnIsUnitless (a : ArgValues) : Except String Value := fnUnitless a

def fnCompatible (a : ArgValues) : Except String Value := fnComparable a

end CssBundle.Sass
