/-!
# Units of stylesheet numbers

CSS units fall into families whose members convert into each other by fixed factors: absolute
lengths (`in`, `cm`, `pc`, `mm`, `q`, `pt`, `px`), angles (`deg`, `grad`, `rad`, `turn`), times
(`s`, `ms`), frequencies (`Hz`, `kHz`) and resolutions (`dpi`, `dpcm`, `dppx`). Any other unit
(`em`, `%`, `vw`, an unknown name) converts only into itself.

`unitFactor target source` is the number of `target` units in one `source` unit: a value in
`source` times the factor is the same quantity in `target`. The factors are computed in double
precision exactly as the table writes them (`1 / 2.54` is one division), which fixes the last
bits of converted values.

Unit names are read in any case: a known unit is kept in its usual spelling (`1PX` is `1px`,
`1Q` is `1q`, `1hz` is `1Hz`), any other name as written; `x` is not a known unit.

A compound unit is a list of numerator and a list of denominator units; `unitText` writes it as
`px*em`, `px/s`, `px^-1` or `(px*em)^-1`.
-/

namespace CssBundle.Sass

def piFloat : Float := 3.141592653589793

/-- The unit a unit name read in any case stands for: a known unit in its usual spelling, any
other name as written. -/
def canonicalUnit (name : String) : String :=
  match name.toLower with
  | "hz" => "Hz"
  | "khz" => "kHz"
  | lower =>
    if ["px", "mm", "in", "cm", "pt", "pc", "em", "rem", "lh", "%", "ex", "ch", "cap", "ic", "rlh",
        "vw", "vh", "vmin", "vmax", "vi", "vb", "deg", "grad", "rad", "turn", "s", "ms", "dpi",
        "dpcm", "dppx", "fr", "q"].contains lower then lower
    else name

/-- The factors converting lengths: how many of the first unit make one of the second. -/
def lengthFactor : String → String → Option Float
  | "in", "in" => some 1.0
  | "in", "cm" => some (1 / 2.54)
  | "in", "pc" => some (1 / 6)
  | "in", "mm" => some (1 / 25.4)
  | "in", "q" => some (1 / 101.6)
  | "in", "pt" => some (1 / 72)
  | "in", "px" => some (1 / 96)
  | "cm", "in" => some 2.54
  | "cm", "cm" => some 1.0
  | "cm", "pc" => some (2.54 / 6)
  | "cm", "mm" => some (1 / 10)
  | "cm", "q" => some (1 / 40)
  | "cm", "pt" => some (2.54 / 72)
  | "cm", "px" => some (2.54 / 96)
  | "pc", "in" => some 6.0
  | "pc", "cm" => some (6 / 2.54)
  | "pc", "pc" => some 1.0
  | "pc", "mm" => some (6 / 25.4)
  | "pc", "q" => some (6 / 101.6)
  | "pc", "pt" => some (1 / 12)
  | "pc", "px" => some (1 / 16)
  | "mm", "in" => some 25.4
  | "mm", "cm" => some 10.0
  | "mm", "pc" => some (25.4 / 6)
  | "mm", "mm" => some 1.0
  | "mm", "q" => some (1 / 4)
  | "mm", "pt" => some (25.4 / 72)
  | "mm", "px" => some (25.4 / 96)
  | "q", "in" => some 101.6
  | "q", "cm" => some 40.0
  | "q", "pc" => some (101.6 / 6)
  | "q", "mm" => some 4.0
  | "q", "q" => some 1.0
  | "q", "pt" => some (101.6 / 72)
  | "q", "px" => some (101.6 / 96)
  | "pt", "in" => some 72.0
  | "pt", "cm" => some (72 / 2.54)
  | "pt", "pc" => some 12.0
  | "pt", "mm" => some (72 / 25.4)
  | "pt", "q" => some (72 / 101.6)
  | "pt", "pt" => some 1.0
  | "pt", "px" => some (3 / 4)
  | "px", "in" => some 96.0
  | "px", "cm" => some (96 / 2.54)
  | "px", "pc" => some 16.0
  | "px", "mm" => some (96 / 25.4)
  | "px", "q" => some (96 / 101.6)
  | "px", "pt" => some (4 / 3)
  | "px", "px" => some 1.0
  | _, _ => none

def otherFactor : String → String → Option Float
  | "deg", "deg" => some 1.0
  | "deg", "grad" => some (9 / 10)
  | "deg", "rad" => some (180 / piFloat)
  | "deg", "turn" => some 360.0
  | "grad", "deg" => some (10 / 9)
  | "grad", "grad" => some 1.0
  | "grad", "rad" => some (200 / piFloat)
  | "grad", "turn" => some 400.0
  | "rad", "deg" => some (piFloat / 180)
  | "rad", "grad" => some (piFloat / 200)
  | "rad", "rad" => some 1.0
  | "rad", "turn" => some (2 * piFloat)
  | "turn", "deg" => some (1 / 360)
  | "turn", "grad" => some (1 / 400)
  | "turn", "rad" => some (1 / (2 * piFloat))
  | "turn", "turn" => some 1.0
  | "s", "s" => some 1.0
  | "s", "ms" => some (1 / 1000)
  | "ms", "s" => some 1000.0
  | "ms", "ms" => some 1.0
  | "Hz", "Hz" => some 1.0
  | "Hz", "kHz" => some 1000.0
  | "kHz", "Hz" => some (1 / 1000)
  | "kHz", "kHz" => some 1.0
  | "dpi", "dpi" => some 1.0
  | "dpi", "dpcm" => some 2.54
  | "dpi", "dppx" => some 96.0
  | "dpcm", "dpi" => some (1 / 2.54)
  | "dpcm", "dpcm" => some 1.0
  | "dpcm", "dppx" => some (96 / 2.54)
  | "dppx", "dpi" => some (1 / 96)
  | "dppx", "dpcm" => some (2.54 / 96)
  | "dppx", "dppx" => some 1.0
  | _, _ => none

/-- How many `target` units make one `source` unit, when the two convert into each other; a unit
always converts into itself with factor 1. -/
def unitFactor (target source : String) : Option Float :=
  if target == source then some 1.0
  else match lengthFactor target source with
    | some f => some f
    | none => otherFactor target source

def convertible (a b : String) : Bool := (unitFactor a b).isSome

def unitFamily (u : String) : Option String :=
  if ["in", "cm", "pc", "mm", "q", "pt", "px"].contains u then some "length"
  else if ["deg", "grad", "rad", "turn"].contains u then some "angle"
  else if ["s", "ms"].contains u then some "time"
  else if ["Hz", "kHz"].contains u then some "frequency"
  else if ["dpi", "dpcm", "dppx"].contains u then some "pixel density"
  else none

/-- A compound unit as text: numerators joined by `*`, then `/` and the denominators, or a
negative power when there are only denominators. -/
def unitText (numer denom : List String) : String :=
  match numer, denom with
  | [], [] => ""
  | [], [d] => d ++ "^-1"
  | [], ds => "(" ++ "*".intercalate ds ++ ")^-1"
  | ns, [] => "*".intercalate ns
  | ns, ds => "*".intercalate ns ++ "/" ++ "*".intercalate ds

end CssBundle.Sass
