import CssBundle.Sass.Builtin.Args

/-!
# Calculations

`calc()`, `min()`, `max()` and `clamp()` are reduced as far as their arguments allow: sums and
differences of numbers whose units convert, any products and quotients of numbers, and the least
or greatest of numbers that compare. What is left (numbers in units only the browser can relate,
`var()`, interpolation) stays a calculation and is written as CSS.

Units are checked where they can be: two numbers in units that can never convert (`1px` and
`2s`), or a number and a unitless one, cannot be added, and a number with several units cannot
stand in a calculation at all.
-/

namespace CssBundle.Sass

/-- The unit families of CSS, as lower-case units; units outside them may relate to anything. -/
def knownCompatibilities : List (List String) :=
  [["em", "ex", "ch", "rem", "vw", "vh", "vmin", "vmax", "cm", "mm", "q", "in", "pt", "pc", "px"],
   ["deg", "grad", "rad", "turn"], ["s", "ms"], ["hz", "khz"], ["dpi", "dpcm", "dppx"]]

def Number.possiblyCompatible (a b : Number) : Bool :=
  if a.hasComplexUnits || b.hasComplexUnits then false
  else match a.numer, b.numer with
    | [], [] => true
    | [u], [v] =>
      let u := u.toLower
      let v := v.toLower
      match knownCompatibilities.find? (·.contains u) with
      | none => true
      | some family => family.contains v || !(knownCompatibilities.any (·.contains v))
    | _, _ => false

/-- Whether two numbers have units of the same shape that convert into each other. -/
def Number.compatibleUnits (a b : Number) : Bool :=
  a.numer.length == b.numer.length && a.denom.length == b.denom.length && a.comparable b

def verifyCompatibleNumbers (terms : List CalcTerm) : Except String Unit := do
  for t in terms do
    match t with
    | .number n =>
      if n.hasComplexUnits then
        .error ("Number " ++ n.inspect ++ " isn't compatible with CSS calculations.")
    | _ => pure ()
  let numbers := terms.filterMap fun t => match t with
    | .number n => some n
    | _ => none
  let rec check : List Number → Except String Unit
    | [] => .ok ()
    | n :: rest => do
      for m in rest do
        if !n.possiblyCompatible m then
          .error (n.inspect ++ " and " ++ m.inspect ++ " are incompatible.")
      check rest
  check numbers

/-- A term in its simplest form: a nested `calc()` is its argument. -/
def CalcTerm.simplify : CalcTerm → CalcTerm
  | .calc "calc" [inner] => inner
  | t => t

def calcTermOf (v : Value) : Except String CalcTerm :=
  match v with
  | .number n _ => .ok (.number n)
  | .calc name args => .ok (.calc name args)
  | .string s false => .ok (.text s)
  | other => .error ("Value " ++ other.inspect ++ " can't be used in a calculation.")

/-- Apply an operator inside a calculation; `inMinMax` lets numbers that merely compare be
added. -/
def calcOperate (op : CalcOp) (left right : CalcTerm) (inMinMax : Bool) :
    Except String CalcTerm := do
  let left := left.simplify
  let right := right.simplify
  match op with
  | .plus | .minus =>
    match left, right with
    | .number a, .number b =>
      if (if inMinMax then a.comparable b else a.compatibleUnits b) then
        return .number (← if op == .plus then a.add b else a.sub b)
    | _, _ => pure ()
    verifyCompatibleNumbers [left, right]
    match right with
    | .number b =>
      if fuzzyLessThan b.value 0 then
        return .op (if op == .plus then .minus else .plus) left
          (.number (b.withValue (-b.value)))
      return .op op left right
    | _ => return .op op left right
  | .times | .div =>
    match left, right with
    | .number a, .number b => return .number (if op == .times then a.mul b else a.div b)
    | _, _ => return .op op left right

/-- The value of a calculation term: a number stays a number. -/
def CalcTerm.toValue : CalcTerm → Value
  | .number n => .number n none
  | .calc name args => .calc name args
  | t => .calc "calc" [t]

def calcOf (arg : CalcTerm) : Value :=
  match arg.simplify with
  | .number n => .number n none
  | .calc name args => .calc name args
  | t => .calc "calc" [t]

/-- `min(...)` or `max(...)`: `better x y` tells whether `x` replaces `y`. -/
def calcExtremum (name : String) (args : List CalcTerm)
    (better : Number → Number → Except String Bool) : Except String Value := do
  let args := args.map CalcTerm.simplify
  if args.isEmpty then .error (name ++ "() must have at least one argument.")
  let pick : Option Number → CalcTerm → Except String (Option Number)
    | none, _ => pure none
    | some best, .number n => do
      if !best.comparable n then pure none
      else if ← better n best then pure (some n) else pure (some best)
    | some _, _ => pure none
  match args with
  | .number first :: rest =>
    match ← rest.foldlM pick (some first) with
    | some best => return .number best none
    | none => pure ()
  | _ => pure ()
  verifyCompatibleNumbers args
  return .calc name args

def calcClamp (args : List CalcTerm) : Except String Value := do
  let args := args.map CalcTerm.simplify
  match args with
  | [.number lo, .number v, .number hi] =>
    if lo.compatibleUnits v && lo.compatibleUnits hi then
      if ← v.compareBy fuzzyLessThanOrEquals lo then return .number lo none
      if ← v.compareBy fuzzyGreaterThanOrEquals hi then return .number hi none
      return .number v none
  | _ => pure ()
  verifyCompatibleNumbers args
  if args.length != 3 && !args.any (fun t => match t with
      | .text _ | .interp _ => true
      | _ => false) then
    .error ("3 arguments required, but only " ++ toString args.length ++ " " ++
      (if args.length == 1 then "was" else "were") ++ " passed.")
  return .calc "clamp" args

end CssBundle.Sass
