import CssBundle.Sass.Color

/-!
# Values of the stylesheet language

A value is `null`, a boolean, a number (which remembers the `a/b` text it was written as when it
came from dividing two written numbers), a quoted or unquoted string, a color, a list (separated
by spaces, commas or slashes, or not yet decided, with or without brackets), a map (ordered pairs
with distinct keys), a reference to a function, an argument list (the rest of a call's arguments
with the named ones beside them), or a calculation (`calc()`, `min()`, `max()` or `clamp()` that
could not be reduced to a number).

Every value is also a list: a map is the list of its pairs, each a two-item space-separated list;
any other single value is a list of itself. `null` and `false` are false; all else is true.

Equality is structural, with fuzzy numbers (see `Number.equals`), strings equal whatever their
quotes, lists equal only with the same separator and brackets (an empty list equals an empty
map), and maps equal when they have the same keys with equal values in any order.
-/

namespace CssBundle.Sass

/-- How the items of a list are separated. -/
inductive ListSep where
  | space
  | comma
  | slash
  | undecided
  deriving Repr, BEq, Inhabited, DecidableEq

/-- The operators inside a calculation. -/
inductive CalcOp where
  | plus
  | minus
  | times
  | div
  deriving Repr, BEq, Inhabited, DecidableEq

def CalcOp.symbol : CalcOp → String
  | .plus => "+"
  | .minus => "-"
  | .times => "*"
  | .div => "/"

def CalcOp.precedence : CalcOp → Nat
  | .plus | .minus => 1
  | .times | .div => 2

/-- A term of a calculation: a number, text kept as it is (an unknown function, interpolation,
an unquoted string), an operation, or a nested calculation. -/
inductive CalcTerm where
  | number (n : Number)
  | text (s : String)
  /-- Interpolated text, put in parentheses when it is an operand. -/
  | interp (s : String)
  | op (o : CalcOp) (l r : CalcTerm)
  | calc (name : String) (args : List CalcTerm)
  deriving Inhabited

/-- How a number was written as the division of two written numbers: the text `a/b` it keeps
and the two numbers. -/
structure Slash where
  text : String
  left : Number
  right : Number
  deriving Inhabited

/-- A value of the stylesheet language. -/
inductive Value where
  | null
  | bool (b : Bool)
  /-- A number, with its written `a/b` text when it came from dividing two written numbers. -/
  | number (n : Number) (slash : Option Slash)
  | string (text : String) (quoted : Bool)
  | color (c : Color)
  | list (items : List Value) (sep : ListSep) (brackets : Bool)
  | map (entries : List (Value × Value))
  /-- A function, by its name and the built-in module it belongs to, if it is a member of one. -/
  | function (name : String) (module : Option String)
  /-- The arguments a rest parameter collects: the extra positional ones, the named ones no
  parameter took, and a number that tells this argument list from others, so that evaluation
  can record whether its named arguments were read. -/
  | args (items : List Value) (keywords : List (String × Value)) (sep : ListSep) (id : Nat)
  | calc (name : String) (args : List CalcTerm)
  deriving Inhabited

def Value.ofFloat (v : Float) : Value := .number (Number.plain v) none

def Value.ofNumber (n : Number) : Value := .number n none

def Value.ident (s : String) : Value := .string s false

def Value.quotedString (s : String) : Value := .string s true

/-- Whether a value counts as true: all but `false` and `null`. -/
def Value.isTruthy : Value → Bool
  | .null => false
  | .bool b => b
  | _ => true

def Value.withoutSlash : Value → Value
  | .number n _ => .number n none
  | v => v

def Value.asList : Value → List Value
  | .list items _ _ => items
  | .args items _ _ _ => items
  | .map entries => entries.map fun (k, v) => .list [k, v] .space false
  | v => [v]

def Value.separator : Value → ListSep
  | .list _ sep _ => sep
  | .args _ _ sep _ => sep
  | .map entries => if entries.isEmpty then .undecided else .comma
  | _ => .undecided

def Value.hasBrackets : Value → Bool
  | .list _ _ b => b
  | _ => false

/-- The pairs of a value seen as a map: an empty list is the empty map. -/
def Value.asMap? : Value → Option (List (Value × Value))
  | .map entries => some entries
  | .list [] _ _ => some []
  | .args [] [] _ _ => some []
  | _ => none

mutual

/-- Whether a value writes nothing: `null`, an empty unquoted string, or a list without
brackets whose items all write nothing. -/
def Value.isBlank : Value → Bool
  | .null => true
  | .string s false => s.isEmpty
  | .list items _ false => Value.allBlank items
  | .args items _ _ _ => Value.allBlank items
  | _ => false

def Value.allBlank : List Value → Bool
  | [] => true
  | v :: vs => v.isBlank && Value.allBlank vs

end

mutual

def CalcTerm.equals : CalcTerm → CalcTerm → Bool
  | .number a, .number b => a.equals b
  | .text a, .text b => a == b
  | .interp a, .interp b => a == b
  | .op o1 l1 r1, .op o2 l2 r2 => o1 == o2 && l1.equals l2 && r1.equals r2
  | .calc n1 a1, .calc n2 a2 => n1 == n2 && CalcTerm.allEqual a1 a2
  | _, _ => false

def CalcTerm.allEqual : List CalcTerm → List CalcTerm → Bool
  | [], [] => true
  | a :: as, b :: bs => a.equals b && CalcTerm.allEqual as bs
  | _, _ => false

end

mutual

/-- Whether two values are equal, as `==` answers. Lists are equal when their separators,
brackets and items are, so an empty list equals only an empty list of the same kind. The
comparison is not symmetric for argument lists: an argument list equals a comma-separated list
of the same items, with brackets or without, while a list equals no argument list. A map never
equals a list, even when both are empty. -/
def Value.equals : Value → Value → Bool
  | .null, .null => true
  | .bool a, .bool b => a == b
  | .number a _, .number b _ => a.equals b
  | .string a _, .string b _ => a == b
  | .color a, .color b => a.equals b
  | .list as sa ba, .list bs sb bb => sa == sb && ba == bb && Value.allEqual as bs
  | .args as _ _ _, .list bs sb _ => sb == .comma && Value.allEqual as bs
  | .args as _ sa _, .args bs _ sb _ => sa == sb && Value.allEqual as bs
  | .map as, .map bs => as.length == bs.length && Value.entriesIn as bs
  | .function a ma, .function b mb => a == b && ma == mb
  | .calc n1 a1, .calc n2 a2 => n1 == n2 && CalcTerm.allEqual a1 a2
  | _, _ => false

def Value.allEqual : List Value → List Value → Bool
  | [], [] => true
  | a :: as, b :: bs => a.equals b && Value.allEqual as bs
  | _, _ => false

/-- Whether every entry of the first map is in the second with an equal value. -/
def Value.entriesIn : List (Value × Value) → List (Value × Value) → Bool
  | [], _ => true
  | (k, v) :: rest, other =>
    Value.lookupEqual k v other && Value.entriesIn rest other

def Value.lookupEqual (k v : Value) : List (Value × Value) → Bool
  | [] => false
  | (k', v') :: rest => (k.equals k' && v.equals v') || Value.lookupEqual k v rest

end

def mapGet? (entries : List (Value × Value)) (key : Value) : Option Value :=
  (entries.find? fun (k, _) => k.equals key).map (·.2)

/-- A map with a key set: replaced where it is, or added at the end. -/
def mapSet (entries : List (Value × Value)) (key value : Value) : List (Value × Value) :=
  if entries.any (fun (k, _) => k.equals key) then
    entries.map fun (k, v) => if k.equals key then (k, value) else (k, v)
  else entries ++ [(key, value)]

def mapRemove (entries : List (Value × Value)) (key : Value) : List (Value × Value) :=
  entries.filter fun (k, _) => !k.equals key

def Value.typeName : Value → String
  | .null => "null"
  | .bool _ => "bool"
  | .number _ _ => "number"
  | .string _ _ => "string"
  | .color _ => "color"
  | .list _ _ _ => "list"
  | .map _ => "map"
  | .function _ _ => "function"
  | .args _ _ _ _ => "arglist"
  | .calc _ _ => "calculation"

end CssBundle.Sass
