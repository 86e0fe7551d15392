import CssBundle.Json.Double

/-!
# JSON values

A JSON value keeps the members of an object in the order they were written, since the order of
plugin options decides the order in which the plugins run. Numbers fall into three classes:
integers that fit in 64 unsigned bits, negative integers that fit in 64 signed bits, and
everything else, kept as a double.

The writer produces the compact form: no blank between tokens, strings escaped with the short
escapes where JSON has one and `\u00XX` for the other control characters, and every character
beyond ASCII written as itself.
-/

namespace CssBundle.Json

/-- A JSON number as the reader classifies it. -/
inductive Number where
  /-- A non-negative integer below `2 ^ 64`. -/
  | nat (n : Nat)
  /-- The negative integer `-n`, with `0 < n ≤ 2 ^ 63`. -/
  | neg (n : Nat)
  /-- Any other number: one with a fraction or an exponent, a negative zero, or an integer out
  of range, as the double the reader computes for it. -/
  | float (x : Double)
  deriving Repr, BEq, DecidableEq, Inhabited

/-- A JSON value; object members keep their written order. -/
inductive Value where
  | null
  | bool (b : Bool)
  | num (n : Number)
  | str (s : String)
  | arr (items : List Value)
  | obj (members : List (String × Value))
  deriving Repr, Inhabited

namespace Number

def render : Number → String
  | .nat n => toString n
  | .neg n => "-" ++ toString n
  | .float x => x.render

end Number

def hexDigit (n : Nat) : Char :=
  if n < 10 then Char.ofNat (48 + n) else Char.ofNat (87 + n)

def escapeChar (c : Char) : List Char :=
  if c = '"' then ['\\', '"']
  else if c = '\\' then ['\\', '\\']
  else if c = '\n' then ['\\', 'n']
  else if c = '\r' then ['\\', 'r']
  else if c = '\t' then ['\\', 't']
  else if c.toNat = 8 then ['\\', 'b']
  else if c.toNat = 12 then ['\\', 'f']
  else if c.toNat < 0x20 then
    ['\\', 'u', '0', '0', hexDigit (c.toNat / 16), hexDigit (c.toNat % 16)]
  else [c]

def quote (s : String) : String :=
  String.ofList ('"' :: (s.toList.flatMap escapeChar ++ ['"']))

mutual

def Value.render : Value → String
  | .null => "null"
  | .bool true => "true"
  | .bool false => "false"
  | .num n => n.render
  | .str s => quote s
  | .arr items => "[" ++ renderItems items ++ "]"
  | .obj members => "\x7b" ++ renderMembers members ++ "\x7d"

def renderItems : List Value → String
  | [] => ""
  | [v] => v.render
  | v :: rest => v.render ++ "," ++ renderItems rest

def renderMembers : List (String × Value) → String
  | [] => ""
  | [(k, v)] => quote k ++ ":" ++ v.render
  | (k, v) :: rest => quote k ++ ":" ++ v.render ++ "," ++ renderMembers rest

end

namespace Value

/-- The member of an object under a key: the first one, as the reader keeps keys unique. -/
def get? (v : Value) (key : String) : Option Value :=
  match v with
  | .obj members => members.lookup key
  | _ => none

/-- Adds or replaces a member: a new key goes to the end, a known key keeps its place. -/
def insertMember (members : List (String × Value)) (key : String) (v : Value) :
    List (String × Value) :=
  if members.any (fun m => m.1 == key) then
    members.map fun m => if m.1 == key then (key, v) else m
  else members ++ [(key, v)]

def ofNat (n : Nat) : Value := .num (.nat n)

def ofInt (n : Int) : Value :=
  if n < 0 then .num (.neg n.natAbs) else .num (.nat n.toNat)

def ofOption {α : Type} (f : α → Value) : Option α → Value
  | none => .null
  | some a => f a

def ofStrings (xs : List String) : Value := .arr (xs.map .str)

end Value

end CssBundle.Json
