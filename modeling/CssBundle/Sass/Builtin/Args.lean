import CssBundle.Sass.Value.Operate

/-!
# Arguments of built-in functions

A call passes positional and named arguments. A built-in function looks an argument up by its
name first and by its position second; it refuses more arguments than it has parameters, and
checks the kind of each value it uses, naming the parameter in the message
(`$color: 1px is not a color.`).
-/

namespace CssBundle.Sass

/-- A fault of a built-in function. Most concern the whole call. A fault in the text of a
selector argument carries the bytes of that text it concerns and the size of the text in bytes:
the text's bytes stand for the call's characters from its start, so the fault is placed there
when the text is no longer than the call. -/
structure CallFault where
  message : String
  place : Option ((Nat × Nat) × Nat) := none
  deriving Inhabited

instance : MonadLift (Except String) (Except CallFault) where
  monadLift r := r.mapError fun message => { message }

/-- The evaluated arguments of a call: positional ones, named ones, and the separator of the
list they came from when it was spread with `...`. -/
structure ArgValues where
  positional : List Value := []
  named : List (String × Value) := []
  separator : ListSep := .undecided
  deriving Inhabited

def ArgValues.count (a : ArgValues) : Nat := a.positional.length + a.named.length

def ArgValues.maxArgs (a : ArgValues) (n : Nat) : Except String Unit :=
  let len := a.count
  if len > n then
    .error ("Only " ++ toString n ++ " argument" ++ (if n == 1 then "" else "s") ++
      " allowed, but " ++ toString len ++ " " ++ (if len == 1 then "was" else "were") ++
      " passed.")
  else .ok ()

def ArgValues.get? (a : ArgValues) (pos : Nat) (name : String) : Option Value :=
  match a.named.lookup name with
  | some v => some v
  | none => a.positional[pos]?

def ArgValues.need (a : ArgValues) (pos : Nat) (name : String) : Except String Value :=
  match a.get? pos name with
  | some v => .ok v
  | none => .error ("Missing argument $" ++ name ++ ".")

def ArgValues.getD (a : ArgValues) (pos : Nat) (name : String) (default : Value) : Value :=
  (a.get? pos name).getD default

/-- A list of items joined as a sentence: `a, b or c`. -/
def toSentence (items : List String) (conjunction : String) : String :=
  match items.reverse with
  | [] => ""
  | [x] => x
  | last :: rest => ", ".intercalate rest.reverse ++ " " ++ conjunction ++ " " ++ last

def noArgumentsNamed (names : List String) : String :=
  "No argument" ++ (if names.length == 1 then "" else "s") ++ " named " ++
    toSentence (names.map ("$" ++ ·)) "or" ++ "."

def ArgValues.variadic (a : ArgValues) : Except String (List Value) :=
  match a.named with
  | [] => .ok a.positional
  | named => .error (noArgumentsNamed (named.map (·.1)))

def notA (name : String) (v : Value) (kind : String) : String :=
  "$" ++ name ++ ": " ++ v.inspect ++ " is not " ++ kind ++ "."

def expectNumber (name : String) (v : Value) : Except String Number :=
  match v with
  | .number n _ => .ok n
  | _ => .error (notA name v "a number")

def expectColor (name : String) (v : Value) : Except String Color :=
  match v with
  | .color c => .ok c
  | _ => .error (notA name v "a color")

/-- A string argument: its text and whether it is quoted. -/
def expectString (name : String) (v : Value) : Except String (String × Bool) :=
  match v with
  | .string s q => .ok (s, q)
  | _ => .error (notA name v "a string")

/-- A map argument; an empty list counts as the empty map. -/
def expectMap (name : String) (v : Value) : Except String (List (Value × Value)) :=
  match v.asMap? with
  | some m => .ok m
  | none => .error (notA name v "a map")

def expectUnitless (name : String) (n : Number) : Except String Unit :=
  if n.isUnitless then .ok ()
  else .error ("$" ++ name ++ ": Expected " ++ n.inspect ++ " to have no units.")

def expectInt (name : String) (n : Number) : Except String Int :=
  match fuzzyAsInt n.value with
  | some i => .ok i
  | none => .error ("$" ++ name ++ ": " ++ n.inspect ++ " is not an int.")

def Value.ofUnit (v : Float) (unit : String) : Value := .number (Number.withUnit v unit) none

end CssBundle.Sass
