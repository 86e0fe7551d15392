import CssBundle.Sass.Number
import CssBundle.Sass.Color.Names

/-!
# Colors

A color has red, green and blue channels, whole numbers from 0 to 255, and an alpha from 0 to 1.
A color made from hue, saturation and lightness keeps those as given, so that reading them back
does not pass through the rounded channels.

A color written in the stylesheet (`#ABC`, `Red`) is written back as it was written. A color made
by `rgb()` is written as `rgb(r, g, b)` or `rgba(r, g, b, a)`, and one made by `hsl()` as
`hsl(hdeg, s%, l%)` or `hsla(hdeg, s%, l%, a)`. Any other color is written by its keyword when it
is opaque and has one, else as `#rrggbb` when opaque, else as `rgba(r, g, b, a)`.

Hue, saturation and lightness convert to channels by the usual piecewise-linear formula, each
channel rounded fuzzily; channels convert back by the hexcone formula, the hue taken in
`[0, 360)`.
-/

namespace CssBundle.Sass

/-- How a color is written when it is not a literal: as the function that made it, or by its
channels. -/
inductive ColorForm where
  /-- By keyword, `#rrggbb` or `rgba()`, whichever fits. -/
  | channels
  /-- As `rgb()` or `rgba()`. -/
  | rgbFunction
  /-- As `hsl()` or `hsla()`. -/
  | hslFunction
  deriving Repr, BEq, Inhabited

/-- A color: channels from 0 to 255, alpha from 0 to 1, the hue, saturation and lightness it was
made from if any, the text it was written as if it is a literal, and how it is written
otherwise. -/
structure Color where
  red : Nat
  green : Nat
  blue : Nat
  alpha : Float
  hsl : Option (Float × Float × Float) := none
  written : Option String := none
  form : ColorForm := .channels
  deriving Inhabited

def hexValue (c : Char) : Nat :=
  if c.isDigit then c.toNat - '0'.toNat
  else if 'a' ≤ c && c ≤ 'f' then c.toNat - 'a'.toNat + 10
  else if 'A' ≤ c && c ≤ 'F' then c.toNat - 'A'.toNat + 10
  else 0

def isHexDigit (c : Char) : Bool :=
  c.isDigit || ('a' ≤ c && c ≤ 'f') || ('A' ≤ c && c ≤ 'F')

def hexPair (a b : Char) : Nat := hexValue a * 16 + hexValue b

def clampFloat (lo hi x : Float) : Float := if x < lo then lo else if x > hi then hi else x

/-- A channel from a double: rounded fuzzily and clamped to 0..255. -/
def channelOf (x : Float) : Nat :=
  let r := fuzzyRound (clampFloat 0 255 x)
  match fuzzyAsInt r with
  | some n => n.toNat
  | none => 0

def Color.solid (r g b : Nat) : Color := { red := r, green := g, blue := b, alpha := 1 }

def Color.ofRgb (r g b a : Float) : Color :=
  { red := channelOf r, green := channelOf g, blue := channelOf b, alpha := clampFloat 0 1 a }

def Color.ofHex6 (s : String) : Color :=
  match s.toList with
  | [r1, r2, g1, g2, b1, b2] => Color.solid (hexPair r1 r2) (hexPair g1 g2) (hexPair b1 b2)
  | _ => Color.solid 0 0 0

/-- The color a keyword names, in any case; `transparent` is black with alpha 0. -/
def Color.named? (name : String) : Option Color :=
  let lower := name.toLower
  if lower == "transparent" then some { red := 0, green := 0, blue := 0, alpha := 0 }
  else (colorNames.find? (·.1 == lower)).map fun (_, hex) => Color.ofHex6 hex

def Color.equals (a b : Color) : Bool :=
  a.red == b.red && a.green == b.green && a.blue == b.blue && fuzzyEquals a.alpha b.alpha

/-- The keyword of an opaque color's channels, the first one in the table when several match. -/
def Color.keyword? (c : Color) : Option String :=
  (colorNames.find? fun (_, hex) => (Color.ofHex6 hex).equals { c with alpha := 1 }).map
    (·.1)

def hexByte (n : Nat) : String :=
  let digit (d : Nat) : Char :=
    if d < 10 then Char.ofNat (d + '0'.toNat) else Char.ofNat (d - 10 + 'a'.toNat)
  String.ofList [digit (n / 16 % 16), digit (n % 16)]

/-- The color of a written hex literal's digits: three, four, six or eight of them, the fourth or
last pair giving the alpha. -/
def Color.ofHexDigits (ds : List Char) (text : String) : Color :=
  let base : Color := match ds with
    | [r, g, b] => Color.solid (hexPair r r) (hexPair g g) (hexPair b b)
    | [r, g, b, a] =>
      { Color.solid (hexPair r r) (hexPair g g) (hexPair b b) with
        alpha := (hexPair a a).toFloat / 255 }
    | [r1, r2, g1, g2, b1, b2] => Color.solid (hexPair r1 r2) (hexPair g1 g2) (hexPair b1 b2)
    | [r1, r2, g1, g2, b1, b2, a1, a2] =>
      { Color.solid (hexPair r1 r2) (hexPair g1 g2) (hexPair b1 b2) with
        alpha := (hexPair a1 a2).toFloat / 255 }
    | _ => Color.solid 0 0 0
  { base with written := some text }

def hueToChannel (m1 m2 hue : Float) : Float :=
  let hue := if hue < 0 then hue + 1 else hue
  let hue := if hue > 1 then hue - 1 else hue
  if hue < 1 / 6 then m1 + (m2 - m1) * hue * 6
  else if hue < 1 / 2 then m2
  else if hue < 2 / 3 then m1 + (m2 - m1) * (2 / 3 - hue) * 6
  else m1

/-- A color from hue (degrees), saturation and lightness (percent) and alpha; the hue is taken
modulo 360, the others clamped. -/
def Color.ofHsl (hue saturation lightness alpha : Float) : Color :=
  let h := floorRem hue 360
  let s := clampFloat 0 100 saturation
  let l := clampFloat 0 100 lightness
  let scaledHue := h / 360
  let ss := s / 100
  let sl := l / 100
  let m2 := if sl ≤ 0.5 then sl * (ss + 1) else sl + ss - sl * ss
  let m1 := sl * 2 - m2
  { red := channelOf (hueToChannel m1 m2 (scaledHue + 1 / 3) * 255)
    green := channelOf (hueToChannel m1 m2 scaledHue * 255)
    blue := channelOf (hueToChannel m1 m2 (scaledHue - 1 / 3) * 255)
    alpha := clampFloat 0 1 alpha
    hsl := some (h, s, l) }

/-- The hue, saturation and lightness of a color: those it was made from, or those of its
channels. -/
def Color.hslParts (c : Color) : Float × Float × Float :=
  match c.hsl with
  | some parts => parts
  | none =>
    let r := c.red.toFloat / 255
    let g := c.green.toFloat / 255
    let b := c.blue.toFloat / 255
    let mx := max (max r g) b
    let mn := min (min r g) b
    let delta := mx - mn
    let hue :=
      if mx == mn then 0
      else if mx == r then floorRem (60 * (g - b) / delta) 360
      else if mx == g then floorRem (120 + 60 * (b - r) / delta) 360
      else floorRem (240 + 60 * (r - g) / delta) 360
    let lightness := 50 * (mx + mn)
    let saturation :=
      if mx == mn then 0
      else if lightness < 50 then 100 * delta / (mx + mn)
      else 100 * delta / (2 - mx - mn)
    (hue, saturation, lightness)

def Color.hue (c : Color) : Float := c.hslParts.1

def Color.saturation (c : Color) : Float := c.hslParts.2.1

def Color.lightness (c : Color) : Float := c.hslParts.2.2

def Color.withAlpha (c : Color) (a : Float) : Color :=
  { c with alpha := clampFloat 0 1 a, written := none, form := .channels }

def Color.functionText (c : Color) : String :=
  let solid := fuzzyEquals c.alpha 1
  (if solid then "rgb(" else "rgba(") ++ toString c.red ++ ", " ++ toString c.green ++ ", " ++
    toString c.blue ++ (if solid then "" else ", " ++ numberText c.alpha) ++ ")"

/-- The color as `hsl(hdeg, s%, l%)` or, when not opaque, `hsla(hdeg, s%, l%, a)`. -/
def Color.hslText (c : Color) : String :=
  let solid := fuzzyEquals c.alpha 1
  let (h, s, l) := c.hslParts
  (if solid then "hsl(" else "hsla(") ++ numberText h ++ "deg, " ++ numberText s ++ "%, " ++
    numberText l ++ "%" ++ (if solid then "" else ", " ++ numberText c.alpha) ++ ")"

/-- The color as CSS: its written form, the function that made it, its keyword, `#rrggbb`, or
`rgba(...)`. -/
def Color.cssText (c : Color) : String :=
  match c.written, c.form with
  | some t, _ => t
  | none, .rgbFunction => c.functionText
  | none, .hslFunction => c.hslText
  | none, .channels =>
    if fuzzyEquals c.alpha 1 then
      match c.keyword? with
      | some name => name
      | none => "#" ++ hexByte c.red ++ hexByte c.green ++ hexByte c.blue
    else c.functionText

end CssBundle.Sass
