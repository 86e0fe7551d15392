import CssBundle.Sass.Value.Text

/-!
# Operators on values

Arithmetic is defined on numbers (see `Number`). Where an operand is not a number, `+`, `-` and
`/` join the CSS texts of the operands into an unquoted string (`a-b`, `a/b`); `+` with a string
on either side keeps that string's quotes and its text without quotes. Colors take part in no
arithmetic, and `*`, `%`, `<`, `<=`, `>`, `>=` need two numbers: the other combinations are the
error `Undefined operation "a op b".`.
-/

namespace CssBundle.Sass

/-- The binary operators of the script language. -/
inductive BinOp where
  | singleEq
  | or
  | and
  | eq
  | ne
  | lt
  | le
  | gt
  | ge
  | plus
  | minus
  | times
  | div
  | rem
  deriving Repr, BEq, Inhabited, DecidableEq

/-- How tightly an operator binds: a larger number binds tighter. -/
def BinOp.precedence : BinOp → Nat
  | .singleEq => 0
  | .or => 1
  | .and => 2
  | .eq | .ne => 3
  | .lt | .le | .gt | .ge => 4
  | .plus | .minus => 5
  | .times | .div | .rem => 6

def BinOp.symbol : BinOp → String
  | .singleEq => "="
  | .or => "or"
  | .and => "and"
  | .eq => "=="
  | .ne => "!="
  | .lt => "<"
  | .le => "<="
  | .gt => ">"
  | .ge => ">="
  | .plus => "+"
  | .minus => "-"
  | .times => "*"
  | .div => "/"
  | .rem => "%"

/-- The unary operators. -/
inductive UnaryOp where
  | plus
  | minus
  | divide
  | not
  deriving Repr, BEq, Inhabited

def undefinedOperation (op : BinOp) (a b : Value) : String :=
  "Undefined operation \"" ++ a.inspect ++ " " ++ op.symbol ++ " " ++ b.inspect ++ "\"."

def joinTexts (a : Value) (symbol : String) (b : Value) : Except String Value := do
  let x ← a.css true
  let y ← b.css true
  return .string (x ++ symbol ++ y) false

def Value.plus (a b : Value) : Except String Value :=
  match a, b with
  | .number x _, .number y _ => do return .number (← x.add y) none
  | .number _ _, .color _ | .color _, .number _ _ | .color _, .color _ =>
    .error (undefinedOperation .plus a b)
  | .calc _ _, _ | _, .calc _ _ => .error (undefinedOperation .plus a b)
  | .string s q, .string t _ => .ok (.string (s ++ t) q)
  | .string s q, other => do return .string (s ++ (← other.css true)) q
  | other, .string t q => do return .string ((← other.css true) ++ t) q
  | _, _ => joinTexts a "" b

def Value.minus (a b : Value) : Except String Value :=
  match a, b with
  | .number x _, .number y _ => do return .number (← x.sub y) none
  | .number _ _, .color _ | .color _, .number _ _ | .color _, .color _ =>
    .error (undefinedOperation .minus a b)
  | .calc _ _, _ | _, .calc _ _ => .error (undefinedOperation .minus a b)
  | _, _ => joinTexts a "-" b

def Value.dividedBy (a b : Value) : Except String Value :=
  match a, b with
  | .number x _, .number y _ => .ok (.number (x.div y) none)
  | .number _ _, .color _ | .color _, .number _ _ | .color _, .color _ =>
    .error (undefinedOperation .div a b)
  | .calc _ _, _ | _, .calc _ _ => .error (undefinedOperation .div a b)
  | _, _ => joinTexts a "/" b

def Value.times (a b : Value) : Except String Value :=
  match a, b with
  | .number x _, .number y _ => .ok (.number (x.mul y) none)
  | _, _ => .error (undefinedOperation .times a b)

def Value.modulo (a b : Value) : Except String Value :=
  match a, b with
  | .number x _, .number y _ => do return .number (← x.mod y) none
  | _, _ => .error (undefinedOperation .rem a b)

def Value.compare (op : BinOp) (f : Float → Float → Bool) (a b : Value) : Except String Value :=
  match a, b with
  | .number x _, .number y _ => do return .bool (← x.compareBy f y)
  | _, _ => .error (undefinedOperation op a b)

def applyBinary (op : BinOp) (a b : Value) : Except String Value :=
  match op with
  | .singleEq => joinTexts a "=" b
  | .or => .ok (if a.isTruthy then a else b)
  | .and => .ok (if a.isTruthy then b else a)
  | .eq => .ok (.bool (a.equals b))
  | .ne => .ok (.bool !(a.equals b))
  | .lt => Value.compare .lt fuzzyLessThan a b
  | .le => Value.compare .le fuzzyLessThanOrEquals a b
  | .gt => Value.compare .gt fuzzyGreaterThan a b
  | .ge => Value.compare .ge fuzzyGreaterThanOrEquals a b
  | .plus => a.plus b
  | .minus => a.minus b
  | .times => a.times b
  | .div => a.dividedBy b
  | .rem => a.modulo b

def applyUnary (op : UnaryOp) (v : Value) : Except String Value :=
  match op, v with
  | .not, _ => .ok (.bool !v.isTruthy)
  | .minus, .number n _ => .ok (.number (n.withValue (-n.value)) none)
  | .plus, .number n _ => .ok (.number n none)
  | .minus, .calc _ _ | .plus, .calc _ _ | .divide, .calc _ _ =>
    .error ("Undefined operation \"" ++ (match op with
      | .minus => "-" | .plus => "+" | _ => "/") ++ v.inspect ++ "\".")
  | .minus, _ => do return .string ("-" ++ (← v.css true)) false
  | .plus, _ => do return .string ("+" ++ (← v.css true)) false
  | .divide, _ => do return .string ("/" ++ (← v.css true)) false

end CssBundle.Sass
