import CssBundle.Sass.Builtin.Math
import CssBundle.Sass.Builtin.Strings
import CssBundle.Sass.Builtin.Lists
import CssBundle.Sass.Builtin.Maps
import CssBundle.Sass.Builtin.Colors
import CssBundle.Sass.Builtin.Selectors

/-!
# The table of built-in functions

Built-in functions are found by their global names (`map-get`, `str-index`) and, once a module
is loaded with `@use "sass:map"`, by their names in the module (`map.get`). The functions that
need the evaluator's state (`call`, `get-function`, `variable-exists` and the like) are not in
this table.
-/

namespace CssBundle.Sass

/-- A built-in function of evaluated arguments whose faults concern the whole call. -/
abbrev PlainFn := ArgValues → Except String Value

abbrev BuiltinFn := ArgValues → Except CallFault Value

def PlainFn.lift (f : PlainFn) : BuiltinFn := fun a => liftM (f a)

def fnTypeOf (a : ArgValues) : Except String Value := do
  a.maxArgs 1
  return .string (← a.need 0 "value").typeName false

def fnInspect (a : ArgValues) : Except String Value := do
  a.maxArgs 1
  return .string (← a.need 0 "value").inspect false

def expectCalculation (name : String) : Value → Except String (String × List CalcTerm)
  | .calc n terms => .ok (n, terms)
  | v => .error ("$" ++ name ++ ": " ++ v.inspect ++ " is not a calculation.")

/-- A calculation's argument as a value: a number or a calculation as it is, anything else as
the unquoted text it is written as. -/
def CalcTerm.asValue : CalcTerm → Value
  | .number n => .number n none
  | .calc n terms => .calc n terms
  | t => .string t.inspect false

/-- `calc-args($calc)`: the arguments of a calculation, comma-separated. -/
def fnCalcArgs (a : ArgValues) : Except String Value := do
  a.maxArgs 1
  let (_, terms) ← expectCalculation "calc" (← a.need 0 "calc")
  return .list (terms.map CalcTerm.asValue) .comma false

/-- `calc-name($calc)`: the name of a calculation, quoted. -/
def fnCalcName (a : ArgValues) : Except String Value := do
  a.maxArgs 1
  let (n, _) ← expectCalculation "calc" (← a.need 0 "calc")
  return .string n true

def knownFeatures : List String :=
  ["global-variable-shadowing", "extend-selector-pseudoclass", "units-level-3", "at-error",
   "custom-property"]

def fnFeatureExists (a : ArgValues) : Except String Value := do
  a.maxArgs 1
  let (s, _) ← expectString "feature" (← a.need 0 "feature")
  return .bool (knownFeatures.contains s)

/-- `keywords($args)`: the named arguments of an argument list, as a map. -/
def fnKeywords (a : ArgValues) : Except String Value := do
  a.maxArgs 1
  match ← a.need 0 "args" with
  | .args _ kw _ _ => return .map (kw.map fun (k, v) => (.string k false, v))
  | v => .error ("$args: " ++ v.inspect ++ " is not an argument list.")

/-- `random($limit: null)`: a fixed draw, since the output must not vary. -/
def fnRandom (a : ArgValues) : Except String Value := do
  a.maxArgs 1
  match a.get? 0 "limit" with
  | none | some .null => return .ofFloat 0.5
  | some v =>
    let n ← expectNumber "limit" v
    let i ← expectInt "limit" n
    if i < 1 then .error ("$limit: Must be greater than 0, was " ++ n.inspect ++ ".")
    return .ofFloat 1

/-- The built-in functions other than the selector functions, by their global names. -/
def globalPlain? (name : String) : Option PlainFn :=
  match name with
  | "rgb" => some (fnRgb "rgb")
  | "rgba" => some (fnRgb "rgba")
  | "hsl" => some (fnHsl "hsl")
  | "hsla" => some (fnHsl "hsla")
  | "red" => some fnRed
  | "green" => some fnGreen
  | "blue" => some fnBlue
  | "hue" => some fnHue
  | "saturation" => some fnSaturation
  | "lightness" => some fnLightness
  | "alpha" => some fnAlpha
  | "opacity" => some fnOpacity
  | "mix" => some fnMix
  | "invert" => some fnInvert
  | "grayscale" => some fnGrayscale
  | "complement" => some fnComplement
  | "adjust-hue" => some fnAdjustHue
  | "lighten" => some fnLighten
  | "darken" => some fnDarken
  | "saturate" => some fnSaturate
  | "desaturate" => some fnDesaturate
  | "opacify" | "fade-in" => some fnOpacify
  | "transparentize" | "fade-out" => some fnTransparentize
  | "adjust-color" => some (updateColor .adjust)
  | "scale-color" => some (updateColor .scale)
  | "change-color" => some (updateColor .change)
  | "ie-hex-str" => some fnIeHexStr
  | "length" => some fnLength
  | "nth" => some fnNth
  | "set-nth" => some fnSetNth
  | "join" => some fnJoin
  | "append" => some fnAppend
  | "zip" => some fnZip
  | "index" => some fnIndex
  | "list-separator" => some fnListSeparator
  | "is-bracketed" => some fnIsBracketed
  | "map-get" => some fnMapGet
  | "map-merge" => some fnMapMerge
  | "map-remove" => some fnMapRemove
  | "map-keys" => some fnMapKeys
  | "map-values" => some fnMapValues
  | "map-has-key" => some fnMapHasKey
  | "abs" => some fnAbs
  | "ceil" => some fnCeil
  | "floor" => some fnFloor
  | "max" => some fnMax
  | "min" => some fnMin
  | "percentage" => some fnPercentage
  | "random" => some fnRandom
  | "round" => some fnRound
  | "unit" => some fnUnit
  | "unitless" => some fnUnitless
  | "comparable" => some fnComparable
  | "quote" => some fnQuote
  | "str-index" => some fnStrIndex
  | "str-insert" => some fnStrInsert
  | "str-length" => some fnStrLength
  | "str-slice" => some fnStrSlice
  | "to-lower-case" => some fnToLowerCase
  | "to-upper-case" => some fnToUpperCase
  | "unquote" => some fnUnquote
  | "feature-exists" => some fnFeatureExists
  | "inspect" => some fnInspect
  | "keywords" => some fnKeywords
  | "type-of" => some fnTypeOf
  | _ => none

def builtinModuleOf? (url : String) : Option String :=
  match url with
  | "sass:math" => some "math"
  | "sass:string" => some "string"
  | "sass:list" => some "list"
  | "sass:map" => some "map"
  | "sass:color" => some "color"
  | "sass:selector" => some "selector"
  | "sass:meta" => some "meta"
  | _ => none

/-- The functions of the built-in modules other than `selector`, by their names in them. -/
def modulePlain? (module name : String) : Option PlainFn :=
  match module, name with
  | "math", "ceil" => some fnCeil
  | "math", "floor" => some fnFloor
  | "math", "max" => some fnMax
  | "math", "min" => some fnMin
  | "math", "round" => some fnRound
  | "math", "abs" => some fnAbs
  | "math", "clamp" => some fnClamp
  | "math", "compatible" => some fnCompatible
  | "math", "hypot" => some fnHypot
  | "math", "is-unitless" => some fnIsUnitless
  | "math", "log" => some fnLog
  | "math", "percentage" => some fnPercentage
  | "math", "pow" => some fnPow
  | "math", "random" => some fnRandom
  | "math", "sqrt" => some fnSqrt
  | "math", "unit" => some fnUnit
  | "math", "div" => some fnDiv
  | "math", "cos" => some (trig Float.cos)
  | "math", "sin" => some (trig Float.sin)
  | "math", "tan" => some (trig Float.tan)
  | "math", "acos" => some (inverseTrig Float.acos)
  | "math", "asin" => some (inverseTrig Float.asin)
  | "math", "atan" => some (inverseTrig Float.atan)
  | "math", "atan2" => some fnAtan2
  | "string", "unquote" => some fnUnquote
  | "string", "quote" => some fnQuote
  | "string", "index" => some fnStrIndex
  | "string", "insert" => some fnStrInsert
  | "string", "length" => some fnStrLength
  | "string", "slice" => some fnStrSlice
  | "string", "to-upper-case" => some fnToUpperCase
  | "string", "to-lower-case" => some fnToLowerCase
  | "string", "split" => some fnStrSplit
  | "list", "length" => some fnLength
  | "list", "nth" => some fnNth
  | "list", "set-nth" => some fnSetNth
  | "list", "join" => some fnJoin
  | "list", "append" => some fnAppend
  | "list", "zip" => some fnZip
  | "list", "index" => some fnIndex
  | "list", "separator" => some fnListSeparator
  | "list", "is-bracketed" => some fnIsBracketed
  | "list", "slash" => some fnSlash
  | "map", "get" => some fnMapGetNested
  | "map", "set" => some fnMapSet
  | "map", "merge" => some fnMapMerge
  | "map", "remove" => some fnMapRemove
  | "map", "keys" => some fnMapKeys
  | "map", "values" => some fnMapValues
  | "map", "has-key" => some fnMapHasKeyNested
  | "map", "deep-merge" => some fnMapDeepMerge
  | "map", "deep-remove" => some fnMapDeepRemove
  | "color", "adjust" => some (updateColor .adjust)
  | "color", "change" => some (updateColor .change)
  | "color", "scale" => some (updateColor .scale)
  | "color", "mix" => some fnMix
  | "color", "complement" => some fnComplement
  | "color", "grayscale" => some fnGrayscale
  | "color", "invert" => some fnInvert
  | "color", "alpha" => some fnAlpha
  | "color", "red" => some fnRed
  | "color", "green" => some fnGreen
  | "color", "blue" => some fnBlue
  | "color", "hue" => some fnHue
  | "color", "saturation" => some fnSaturation
  | "color", "lightness" => some fnLightness
  | "color", "whiteness" => some fnWhiteness
  | "color", "blackness" => some fnBlackness
  | "color", "ie-hex-str" => some fnIeHexStr
  | "color", "hwb" => some fnHwb
  | "meta", "feature-exists" => some fnFeatureExists
  | "meta", "inspect" => some fnInspect
  | "meta", "keywords" => some fnKeywords
  | "meta", "type-of" => some fnTypeOf
  | "meta", "calc-args" => some fnCalcArgs
  | "meta", "calc-name" => some fnCalcName
  | _, _ => none

def globalBuiltin? (name : String) : Option BuiltinFn :=
  match name with
  | "is-superselector" => selectorFunction? "is-superselector"
  | "simple-selectors" => selectorFunction? "simple-selectors"
  | "selector-parse" => selectorFunction? "parse"
  | "selector-nest" => selectorFunction? "nest"
  | "selector-append" => selectorFunction? "append"
  | "selector-extend" => selectorFunction? "extend"
  | "selector-replace" => selectorFunction? "replace"
  | "selector-unify" => selectorFunction? "unify"
  | _ => (globalPlain? name).map PlainFn.lift

def moduleBuiltin? (module name : String) : Option BuiltinFn :=
  if module == "selector" then selectorFunction? name
  else (modulePlain? module name).map PlainFn.lift

def moduleVariable? (module name : String) : Option Value :=
  match module, name with
  | "math", "e" => some (.ofFloat 2.718281828459045)
  | "math", "pi" => some (.ofFloat piFloat)
  | "math", "epsilon" => some (.ofFloat 2.220446049250313e-16)
  | "math", "max-safe-integer" => some (.ofFloat 9007199254740991)
  | "math", "min-safe-integer" => some (.ofFloat (-9007199254740991))
  | "math", "max-number" => some (.ofFloat 1.7976931348623157e308)
  | "math", "min-number" => some (.ofFloat 2.2250738585072014e-308)
  | _, _ => none

/-- The names of the variables of a built-in module, in the order the module declares them. -/
def moduleVariableNames (module : String) : List String :=
  match module with
  | "math" => ["e", "pi", "epsilon", "max-safe-integer", "min-safe-integer", "max-number",
               "min-number"]
  | _ => []

/-- The names of the functions of a built-in module, in the order the module declares them. -/
def moduleFunctionNames (module : String) : List String :=
  match module with
  | "math" => ["ceil", "floor", "max", "min", "round", "abs", "compatible", "is-unitless", "unit",
               "percentage", "clamp", "sqrt", "cos", "sin", "tan", "acos", "asin", "atan", "log",
               "pow", "hypot", "atan2", "div", "random"]
  | "string" => ["quote", "index", "insert", "length", "slice", "to-lower-case", "to-upper-case",
                 "unique-id", "unquote", "split"]
  | "list" => ["append", "index", "is-bracketed", "join", "length", "separator", "nth", "set-nth",
               "zip", "slash"]
  | "map" => ["get", "merge", "remove", "keys", "values", "has-key", "set", "deep-merge",
              "deep-remove"]
  | "color" => ["adjust", "alpha", "blackness", "blue", "change", "complement", "grayscale",
                "green", "hue", "hwb", "ie-hex-str", "invert", "lightness", "mix", "red",
                "saturation", "scale", "whiteness"]
  | "selector" => ["is-superselector", "simple-selectors", "parse", "nest", "append", "extend",
                   "replace", "unify"]
  | "meta" => ["feature-exists", "inspect", "type-of", "keywords", "global-variable-exists",
               "variable-exists", "function-exists", "mixin-exists", "content-exists",
               "module-variables", "module-functions", "get-function", "call", "calc-args",
               "calc-name"]
  | _ => []

/-- The names of the functions of a built-in module that need the evaluator's state. -/
def moduleMetaFunctions (module : String) : List String :=
  match module with
  | "meta" => ["call", "content-exists", "function-exists", "get-function",
               "global-variable-exists", "keywords", "mixin-exists", "variable-exists",
               "module-variables", "module-functions"]
  | "string" => ["unique-id"]
  | _ => []

end CssBundle.Sass
