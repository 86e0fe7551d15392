import CssBundle.Sass.Builtin.Args

/-!
# Color functions

Colors are made from channels (`rgb`), from hue, saturation and lightness (`hsl`), or from
another color with a new alpha (`rgba($color, $alpha)`). Where an argument is a CSS function
that only the browser can compute (`var()`, `calc()`, `env()`, `min()`, `max()`, `clamp()`), the
call is kept as plain CSS text.

Functions that change a color in hue, saturation or lightness go through its HSL form and back;
`mix` weighs two colors by a weight and by the difference of their alphas.
-/

namespace CssBundle.Sass

/-- Whether a value is a CSS function that may stand for a number: a calculation, or an
unquoted string starting `calc(`, `var(`, `env(`, `clamp(`, `min(` or `max(`. -/
def Value.isSpecialNumber : Value → Bool
  | .calc _ _ => true
  | .string s false =>
    let lower := s.toLower
    s.length ≥ 7 && (["calc(", "var(", "env(", "clamp(", "min(", "max("].any fun p => lower.startsWith p)
  | _ => false

def Value.isVar : Value → Bool
  | .string s false => s.length ≥ 8 && s.toLower.startsWith "var("
  | _ => false

/-- A call kept as plain CSS: the name and the CSS texts of the arguments. -/
def functionString (name : String) (args : List Value) : Except String Value := do
  let texts ← args.mapM (·.css true)
  return .string (name ++ "(" ++ ", ".intercalate texts ++ ")") false

/-- A number that may be a percentage of `max` or a unitless value, clamped to `[0, max]`. -/
def percentageOrUnitless (n : Number) (max : Float) (name : String) : Except String Float := do
  let v ← if n.isUnitless then pure n.value
    else if n.hasUnit "%" then pure (max * n.value / 100)
    else .error ("$" ++ name ++ ": Expected " ++ n.inspect ++ " to have no units or \"%\".")
  return clampFloat 0 max v

/-- A value within a range, fuzzily: the bound when the value is fuzzily at a bound. -/
def fuzzyCheckRange (v lo hi : Float) : Option Float :=
  if fuzzyEquals v lo then some lo
  else if fuzzyEquals v hi then some hi
  else if v > lo && v < hi then some v
  else none

def valueInRange (n : Number) (lo hi : Float) (name : String) (unit : String := "") :
    Except String Float :=
  match fuzzyCheckRange n.value lo hi with
  | some v => .ok v
  | none => .error ("$" ++ name ++ ": Expected " ++ n.inspect ++ " to be within " ++
      numberText lo ++ unit ++ " and " ++ numberText hi ++ unit ++ ".")

def rgbFromChannels (name : String) (args : List Value) : Except String Value := do
  if args.any Value.isSpecialNumber then return ← functionString name args
  let r ← expectNumber "red" (args[0]?.getD .null)
  let g ← expectNumber "green" (args[1]?.getD .null)
  let b ← expectNumber "blue" (args[2]?.getD .null)
  let alpha ← match args[3]? with
    | some av => do percentageOrUnitless (← expectNumber "alpha" av) 1 "alpha"
    | none => pure 1
  let rv ← percentageOrUnitless r 255 "red"
  let gv ← percentageOrUnitless g 255 "green"
  let bv ← percentageOrUnitless b 255 "blue"
  return .color { red := channelOf (fuzzyRound rv), green := channelOf (fuzzyRound gv),
                  blue := channelOf (fuzzyRound bv), alpha, form := .rgbFunction }

/-- A color made from hue, saturation, lightness and an optional alpha argument. -/
def hslFromChannels (name : String) (args : List Value) : Except String Value := do
  if args.any Value.isSpecialNumber then return ← functionString name args
  let h ← expectNumber "hue" (args[0]?.getD .null)
  let s ← expectNumber "saturation" (args[1]?.getD .null)
  let l ← expectNumber "lightness" (args[2]?.getD .null)
  let alpha ← match args[3]? with
    | some av => do percentageOrUnitless (← expectNumber "alpha" av) 1 "alpha"
    | none => pure 1
  return .color { Color.ofHsl h.value (clampFloat 0 100 s.value) (clampFloat 0 100 l.value) alpha
    with form := .hslFunction }

/-- The channels of a single `$channels` argument: `r g b` or `r g b / a`, or the call kept as
plain CSS text. -/
def parseChannels (name : String) (names : List String) (channels : Value) :
    Except String (Sum Value (List Value)) := do
  if channels.isVar then return .inl (← functionString name [channels])
  let (channels, alphaFromSlash) ← match channels with
    | .list [first, second] .slash _ => do
      if !second.isSpecialNumber then let _ ← expectNumber "alpha" second
      pure (first, some second)
    | .list items .slash _ =>
      .error ("Only 2 slash-separated elements allowed, but " ++ toString items.length ++
        " " ++ (if items.length == 1 then "was" else "were") ++ " passed.")
    | other => pure (other, none)
  if alphaFromSlash.isSome && channels.isVar then
    return .inl (← functionString name [.list [channels, alphaFromSlash.getD .null] .slash false])
  let comma := channels.separator == .comma
  let bracketed := channels.hasBrackets
  if comma || bracketed then
    .error ("$channels must be" ++ (if bracketed then " an unbracketed" else "") ++
      (if comma then (if bracketed then "," else " a") ++ " space-separated" else "") ++
      " list.")
  let items := channels.asList
  if items.length > 3 then
    .error ("Only 3 elements allowed, but " ++ toString items.length ++ " were passed.")
  if items.length < 3 then
    let lastIsVarSlash := match items.getLast? with
      | some (.string s false) => s.toList.contains '/' && s.toLower.startsWith "var("
      | _ => false
    if items.any Value.isVar || lastIsVarSlash then
      return .inl (← functionString name [channels])
    .error ("Missing element " ++ (names[items.length]?.getD "") ++ ".")
  match alphaFromSlash with
  | some a => return .inr (items ++ [a])
  | none =>
    match (items[2]? : Option Value) with
    | some (.number _ (some sl)) =>
      return .inr [items[0]?.getD .null, items[1]?.getD .null, .number sl.left none,
        .number sl.right none]
    | some (.string s false) =>
      if s.toList.contains '/' then return .inl (← functionString name [channels])
      return .inr items
    | _ => return .inr items

def fnRgb (name : String) (a : ArgValues) : Except String Value := do
  a.maxArgs 4
  match a.count with
  | 0 | 1 =>
    let channels ← a.need 0 "channels"
    match ← parseChannels name ["$red", "$green", "$blue"] channels with
    | .inl v => return v
    | .inr items => rgbFromChannels name items
  | 2 =>
    let first ← a.need 0 "color"
    let second ← a.need 1 "alpha"
    if first.isVar then return ← functionString name [first, second]
    if second.isVar then
      match first with
      | .color c =>
        return .string (name ++ "(" ++ toString c.red ++ ", " ++ toString c.green ++ ", " ++
          toString c.blue ++ ", " ++ (← second.css true) ++ ")") false
      | _ => return ← functionString name [first, second]
    if second.isSpecialNumber then
      let c ← expectColor "color" first
      return .string (name ++ "(" ++ toString c.red ++ ", " ++ toString c.green ++ ", " ++
        toString c.blue ++ ", " ++ (← second.css true) ++ ")") false
    let c ← expectColor "color" first
    let alpha ← expectNumber "alpha" second
    return .color (c.withAlpha (← percentageOrUnitless alpha 1 "alpha"))
  | _ =>
    let r ← a.need 0 "red"
    let g ← a.need 1 "green"
    let b ← a.need 2 "blue"
    let rest := match a.get? 3 "alpha" with
      | some av => [av]
      | none => []
    rgbFromChannels name ([r, g, b] ++ rest)

def fnHsl (name : String) (a : ArgValues) : Except String Value := do
  a.maxArgs 4
  match a.count with
  | 0 | 1 =>
    let channels ← a.need 0 "channels"
    match ← parseChannels name ["$hue", "$saturation", "$lightness"] channels with
    | .inl v => return v
    | .inr items => hslFromChannels name items
  | 2 =>
    let first ← a.need 0 "hue"
    let second ← a.need 1 "saturation"
    if first.isVar || second.isVar then return ← functionString name [first, second]
    .error "Missing argument $lightness."
  | _ =>
    let h ← a.need 0 "hue"
    let s ← a.need 1 "saturation"
    let l ← a.need 2 "lightness"
    let rest := match a.get? 3 "alpha" with
      | some av => [av]
      | none => []
    hslFromChannels name ([h, s, l] ++ rest)

/-- A color from hue (degrees), whiteness and blackness (percent) and alpha. Whiteness and
blackness that add up to more than 100% are scaled down to add up to exactly that; the hue's
channel then fills what they leave. -/
def Color.ofHwb (hue whiteness blackness alpha : Float) : Color :=
  let scaledHue := floorRem hue 360 / 360
  let w := whiteness / 100
  let b := blackness / 100
  let sum := w + b
  let (w, b) := if sum > 1 then (w / sum, b / sum) else (w, b)
  let factor := 1 - w - b
  let channel (h : Float) : Nat := channelOf ((hueToChannel 0 1 h * factor + w) * 255)
  { red := channel (scaledHue + 1 / 3), green := channel scaledHue,
    blue := channel (scaledHue - 1 / 3), alpha := clampFloat 0 1 alpha }

def expectPercent (name : String) (n : Number) : Except String Unit :=
  if n.hasUnit "%" then .ok ()
  else .error ("$" ++ name ++ ": Expected " ++ n.inspect ++ " to have unit \"%\".")

/-- A color made from hue, whiteness, blackness and an optional alpha argument. -/
def hwbFromChannels (args : List Value) : Except String Value := do
  let h ← expectNumber "hue" (args[0]?.getD .null)
  let w ← expectNumber "whiteness" (args[1]?.getD .null)
  let b ← expectNumber "blackness" (args[2]?.getD .null)
  expectPercent "whiteness" w
  expectPercent "blackness" b
  let wv ← valueInRange w 0 100 "whiteness"
  let bv ← valueInRange b 0 100 "blackness"
  let alpha ← match args[3]? with
    | some av => do percentageOrUnitless (← expectNumber "alpha" av) 1 "alpha"
    | none => pure 1
  return .color (Color.ofHwb h.value wv bv alpha)

/-- `color.hwb($hue, $whiteness, $blackness, $alpha: 1)`, or `color.hwb($channels)` with the
channels as `h w b` or `h w b / a`. -/
def fnHwb (a : ArgValues) : Except String Value := do
  a.maxArgs 4
  match a.count with
  | 0 | 1 =>
    let channels ← a.need 0 "channels"
    match ← parseChannels "hwb" ["$hue", "$whiteness", "$blackness"] channels with
    | .inl v => .error ("Expected numeric channels, got \"" ++ v.inspect ++ "\".")
    | .inr items => hwbFromChannels items
  | _ =>
    let h ← a.need 0 "hue"
    let w ← a.need 1 "whiteness"
    let b ← a.need 2 "blackness"
    let rest := match a.get? 3 "alpha" with
      | some av => [av]
      | none => []
    hwbFromChannels ([h, w, b] ++ rest)

def colorArg (a : ArgValues) (max : Nat := 1) : Except String Color := do
  a.maxArgs max
  expectColor "color" (← a.need 0 "color")

def fnRed (a : ArgValues) : Except String Value := do
  return .ofFloat (← colorArg a).red.toFloat

def fnGreen (a : ArgValues) : Except String Value := do
  return .ofFloat (← colorArg a).green.toFloat

def fnBlue (a : ArgValues) : Except String Value := do
  return .ofFloat (← colorArg a).blue.toFloat

def fnHue (a : ArgValues) : Except String Value := do
  return .ofUnit (← colorArg a).hue "deg"

def fnSaturation (a : ArgValues) : Except String Value := do
  return .ofUnit (← colorArg a).saturation "%"

def fnLightness (a : ArgValues) : Except String Value := do
  return .ofUnit (← colorArg a).lightness "%"

/-- The whiteness of a color in percent: its least channel. -/
def Color.whiteness (c : Color) : Float := (min (min c.red c.green) c.blue).toFloat / 255 * 100

/-- The blackness of a color in percent: what its greatest channel lacks. -/
def Color.blackness (c : Color) : Float :=
  100 - (max (max c.red c.green) c.blue).toFloat / 255 * 100

def fnWhiteness (a : ArgValues) : Except String Value := do
  return .ofUnit (← colorArg a).whiteness "%"

def fnBlackness (a : ArgValues) : Except String Value := do
  return .ofUnit (← colorArg a).blackness "%"

def isFilterText (s : String) : Bool :=
  let letters := s.toList.takeWhile Char.isAlpha
  let rest := (s.toList.drop letters.length).dropWhile (fun c => c == ' ' || c == '\t' || c == '\n')
  !letters.isEmpty && rest.head? == some '='

/-- `alpha($color)`, also kept as plain CSS for the proprietary `alpha(opacity=20)`. -/
def fnAlpha (a : ArgValues) : Except String Value := do
  if a.count == 1 then
    let v ← a.need 0 "color"
    match v with
    | .string s false => if isFilterText s then return ← functionString "alpha" [v]
    | _ => pure ()
    return .ofFloat (← expectColor "color" v).alpha
  let vs := a.positional
  if !vs.isEmpty && vs.all (fun v => match v with
      | .string s false => isFilterText s
      | _ => false) then
    return ← functionString "alpha" vs
  if a.count == 0 then .error "Missing argument $color."
  .error ("Only 1 argument allowed, but " ++ toString a.count ++ " were passed.")

def fnOpacity (a : ArgValues) : Except String Value := do
  a.maxArgs 1
  let v ← a.need 0 "color"
  match v with
  | .number .. => functionString "opacity" [v]
  | _ => return .ofFloat (← expectColor "color" v).alpha

def mixColors (c1 c2 : Color) (weight : Number) : Except String Color := do
  let scale := (← valueInRange weight 0 100 "weight") / 100
  let normalized := scale * 2 - 1
  let alphaDistance := c1.alpha - c2.alpha
  let combined := if normalized * alphaDistance == -1 then normalized
    else (normalized + alphaDistance) / (1 + normalized * alphaDistance)
  let w1 := (combined + 1) / 2
  let w2 := 1 - w1
  let mixChannel (x y : Nat) : Nat := channelOf (fuzzyRound (x.toFloat * w1 + y.toFloat * w2))
  return { red := mixChannel c1.red c2.red, green := mixChannel c1.green c2.green,
           blue := mixChannel c1.blue c2.blue,
           alpha := c1.alpha * scale + c2.alpha * (1 - scale) }

def fnMix (a : ArgValues) : Except String Value := do
  a.maxArgs 3
  let c1 ← expectColor "color1" (← a.need 0 "color1")
  let c2 ← expectColor "color2" (← a.need 1 "color2")
  let w ← expectNumber "weight" (a.getD 2 "weight" (.ofUnit 50 "%"))
  return .color (← mixColors c1 c2 w)

def fnInvert (a : ArgValues) : Except String Value := do
  a.maxArgs 2
  let v ← a.need 0 "color"
  let w ← expectNumber "weight" (a.getD 1 "weight" (.ofUnit 100 "%"))
  match v with
  | .number .. =>
    if w.value != 100 || !w.hasUnit "%" then
      .error "Only one argument may be passed to the plain-CSS invert() function."
    functionString "invert" [v]
  | _ =>
    let c ← expectColor "color" v
    let inverse : Color := { red := 255 - c.red, green := 255 - c.green, blue := 255 - c.blue,
                             alpha := c.alpha }
    return .color (← mixColors inverse c w)

def Color.changeHsl (c : Color) (h : Float) (s : Float) (l : Float) : Color :=
  Color.ofHsl h s l c.alpha

def fnGrayscale (a : ArgValues) : Except String Value := do
  a.maxArgs 1
  let v ← a.need 0 "color"
  match v with
  | .number .. => functionString "grayscale" [v]
  | _ =>
    let c ← expectColor "color" v
    return .color (c.changeHsl c.hue 0 c.lightness)

def fnComplement (a : ArgValues) : Except String Value := do
  let c ← colorArg a
  return .color (c.changeHsl (c.hue + 180) c.saturation c.lightness)

def fnAdjustHue (a : ArgValues) : Except String Value := do
  a.maxArgs 2
  let c ← expectColor "color" (← a.need 0 "color")
  let d ← expectNumber "degrees" (← a.need 1 "degrees")
  return .color (c.changeHsl (c.hue + d.value) c.saturation c.lightness)

def colorAndAmount (a : ArgValues) (max : Float) : Except String (Color × Float) := do
  a.maxArgs 2
  let c ← expectColor "color" (← a.need 0 "color")
  let amount ← expectNumber "amount" (← a.need 1 "amount")
  return (c, ← valueInRange amount 0 max "amount")

def fnLighten (a : ArgValues) : Except String Value := do
  let (c, amount) ← colorAndAmount a 100
  return .color (c.changeHsl c.hue c.saturation (clampFloat 0 100 (c.lightness + amount)))

def fnDarken (a : ArgValues) : Except String Value := do
  let (c, amount) ← colorAndAmount a 100
  return .color (c.changeHsl c.hue c.saturation (clampFloat 0 100 (c.lightness - amount)))

def fnSaturate (a : ArgValues) : Except String Value := do
  if a.count == 1 then
    let v ← a.need 0 "amount"
    match v with
    | .number .. => return ← functionString "saturate" [v]
    | _ => .error (notA "amount" v "a number")
  let (c, amount) ← colorAndAmount a 100
  return .color (c.changeHsl c.hue (clampFloat 0 100 (c.saturation + amount)) c.lightness)

def fnDesaturate (a : ArgValues) : Except String Value := do
  let (c, amount) ← colorAndAmount a 100
  return .color (c.changeHsl c.hue (clampFloat 0 100 (c.saturation - amount)) c.lightness)

def fnOpacify (a : ArgValues) : Except String Value := do
  let (c, amount) ← colorAndAmount a 1
  return .color (c.withAlpha (clampFloat 0 1 (c.alpha + amount)))

def fnTransparentize (a : ArgValues) : Except String Value := do
  let (c, amount) ← colorAndAmount a 1
  return .color (c.withAlpha (clampFloat 0 1 (c.alpha - amount)))

def hexByteUpper (n : Nat) : String := (hexByte n).toUpper

def fnIeHexStr (a : ArgValues) : Except String Value := do
  let c ← colorArg a
  return .string ("#" ++ hexByteUpper (channelOf (fuzzyRound (c.alpha * 255))) ++
    hexByteUpper c.red ++ hexByteUpper c.green ++ hexByteUpper c.blue) false

/-- How `adjust-color`, `change-color` and `scale-color` treat their amounts. -/
inductive ColorUpdate where
  | change
  | adjust
  | scale
  deriving BEq

def updateColor (mode : ColorUpdate) (a : ArgValues) : Except String Value := do
  let c ← expectColor "color" (← a.need 0 "color")
  if a.positional.length > 1 then
    .error ("Only one positional argument is allowed. All other arguments must be passed by " ++
      "name.")
  let keywords := a.named.filter (·.1 != "color")
  let param (name : String) (max : Float) (percent : Bool := false)
      (assertPercent : Bool := false) : Except String (Option Float) := do
    match keywords.lookup name with
    | none => return none
    | some v =>
      let n ← expectNumber name v
      if mode == .scale then
        expectPercent name n
        return some (← valueInRange n (-100) 100 name "%")
      if assertPercent then
        expectPercent name n
        return some (← valueInRange n (if mode == .change then 0 else -max) max name)
      return some (← valueInRange n (if mode == .change then 0 else -max) max name
        (if percent then "%" else ""))
  let alpha ← param "alpha" 1
  let red ← param "red" 255
  let green ← param "green" 255
  let blue ← param "blue" 255
  let hue ← if mode == .scale then pure none else
    match keywords.lookup "hue" with
    | some v => do pure (some (← expectNumber "hue" v).value)
    | none => pure none
  let saturation ← param "saturation" 100 true
  let lightness ← param "lightness" 100 true
  let whiteness ← param "whiteness" 100 false true
  let blackness ← param "blackness" 100 false true
  let known := ["alpha", "red", "green", "blue", "saturation", "lightness", "whiteness",
    "blackness"] ++ (if mode == .scale then [] else ["hue"])
  let unknown := keywords.filter fun (k, _) => !known.contains k
  if !unknown.isEmpty then
    .error ("No argument" ++ (if unknown.length == 1 then "" else "s") ++ " named " ++
      toSentence (unknown.map fun (k, _) => "$" ++ k) "or" ++ ".")
  let hasRgb := red.isSome || green.isSome || blue.isSome
  let hasSL := saturation.isSome || lightness.isSome
  let hasWB := whiteness.isSome || blackness.isSome
  if hasRgb && (hasSL || hasWB || hue.isSome) then
    .error ("RGB parameters may not be passed along with " ++ (if hasWB then "HWB" else "HSL") ++
      " parameters.")
  if hasSL && hasWB then
    .error "HSL parameters may not be passed along with HWB parameters."
  let update (current : Float) (p : Option Float) (max : Float) : Float :=
    match p with
    | none => current
    | some v =>
      match mode with
      | .change => v
      | .adjust => clampFloat 0 max (current + v)
      | .scale => current + (if v > 0 then max - current else current) * (v / 100)
  if hasRgb then
    return .color { red := channelOf (fuzzyRound (update c.red.toFloat red 255)),
                    green := channelOf (fuzzyRound (update c.green.toFloat green 255)),
                    blue := channelOf (fuzzyRound (update c.blue.toFloat blue 255)),
                    alpha := update c.alpha alpha 1 }
  if hasWB then
    let h := match hue with
      | some v => if mode == .change then v else c.hue + v
      | none => c.hue
    return .color (Color.ofHwb h (update c.whiteness whiteness 100)
      (update c.blackness blackness 100) (update c.alpha alpha 1))
  if hue.isSome || hasSL then
    let h := match hue with
      | some v => if mode == .change then v else c.hue + v
      | none => c.hue
    return .color (Color.ofHsl h (update c.saturation saturation 100)
      (update c.lightness lightness 100) (update c.alpha alpha 1))
  if alpha.isSome then return .color (c.withAlpha (update c.alpha alpha 1))
  return .color c

end CssBundle.Sass
