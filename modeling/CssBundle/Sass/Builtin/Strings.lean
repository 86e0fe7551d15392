import CssBundle.Sass.Builtin.Args

/-!
# String functions

Positions in strings count characters from 1; a negative position counts from the end, `-1`
being the last character. A result keeps the quotes of the string it came from, except the
pieces of `string.split`, which are always quoted.
-/

namespace CssBundle.Sass

def stringArg (a : ArgValues) (pos : Nat) (name : String) : Except String (String × Bool) := do
  expectString name (← a.need pos name)

def fnUnquote (a : ArgValues) : Except String Value := do
  a.maxArgs 1
  let (s, _) ← stringArg a 0 "string"
  return .string s false

def fnQuote (a : ArgValues) : Except String Value := do
  a.maxArgs 1
  let (s, _) ← stringArg a 0 "string"
  return .string s true

def fnStrLength (a : ArgValues) : Except String Value := do
  a.maxArgs 1
  let (s, _) ← stringArg a 0 "string"
  return .ofFloat s.length.toFloat

def fnToUpperCase (a : ArgValues) : Except String Value := do
  a.maxArgs 1
  let (s, q) ← stringArg a 0 "string"
  return .string (s.map fun c => if 'a' ≤ c && c ≤ 'z' then c.toUpper else c) q

def fnToLowerCase (a : ArgValues) : Except String Value := do
  a.maxArgs 1
  let (s, q) ← stringArg a 0 "string"
  return .string (s.map fun c => if 'A' ≤ c && c ≤ 'Z' then c.toLower else c) q

def charIndexOf (hay needle : List Char) : Option Nat :=
  go (hay.length + 1) hay 0
where
  go : Nat → List Char → Nat → Option Nat
    | 0, _, _ => none
    | fuel + 1, rest, offset =>
      if needle.isPrefixOf rest then some offset
      else match rest with
        | [] => none
        | _ :: tail => go fuel tail (offset + 1)

/-- `str-index($string, $substring)`: the position of the first occurrence, or null. -/
def fnStrIndex (a : ArgValues) : Except String Value := do
  a.maxArgs 2
  let (s, _) ← stringArg a 0 "string"
  let (sub, _) ← stringArg a 1 "substring"
  match charIndexOf s.toList sub.toList with
  | some i => return .ofFloat (i + 1).toFloat
  | none => return .null

def positionArg (a : ArgValues) (pos : Nat) (name : String) (default : Option Value := none) :
    Except String Int := do
  let v ← match a.get? pos name, default with
    | some v, _ => pure v
    | none, some d => pure d
    | none, none => .error ("Missing argument $" ++ name ++ ".")
  let n ← expectNumber name v
  expectUnitless name n
  expectInt name n

/-- A position counted from 1 (negative from the end) as a count of characters before it,
within `0` and `length`; a negative result stays when `allowNegative`. -/
def codepointForIndex (index : Int) (length : Nat) (allowNegative : Bool := false) : Int :=
  if index == 0 then 0
  else if index > 0 then min (index - 1) length
  else
    let r := length + index
    if r < 0 && !allowNegative then 0 else r

/-- `str-insert($string, $insert, $index)`: the inserted text ends up at `$index`. -/
def fnStrInsert (a : ArgValues) : Except String Value := do
  a.maxArgs 3
  let (s, q) ← stringArg a 0 "string"
  let (ins, _) ← stringArg a 1 "insert"
  let index ← positionArg a 2 "index"
  let len := s.length
  let index := if index < 0 then len + index + 2 else index
  let cut := (codepointForIndex index len).toNat
  return .string (String.ofList (s.toList.take cut ++ ins.toList ++ s.toList.drop cut)) q

/-- A position of `str-slice`: a unitless integer. A number that is no integer is named by its
bare value as a double is written, without the parameter's name (`1.5 is not an int.`). -/
def slicePositionArg (a : ArgValues) (pos : Nat) (name : String) (default : Value) :
    Except String Int := do
  let n ← expectNumber name (a.getD pos name default)
  expectUnitless name n
  match fuzzyAsInt n.value with
  | some i => .ok i
  | none => .error (plainFloatText n.value ++ " is not an int.")

def fnStrSlice (a : ArgValues) : Except String Value := do
  a.maxArgs 3
  let (s, q) ← stringArg a 0 "string"
  let start ← slicePositionArg a 1 "start-at" (← a.need 1 "start-at")
  let stop ← slicePositionArg a 2 "end-at" (.ofFloat (-1))
  let len := s.length
  if stop == 0 then return .string "" q
  let startAt := codepointForIndex start len
  let stopAt := codepointForIndex stop len true
  let stopAt := if stopAt == len then stopAt - 1 else stopAt
  if stopAt < startAt then return .string "" q
  let chars := s.toList
  return .string (String.ofList ((chars.take (stopAt + 1).toNat).drop startAt.toNat)) q

def fnUniqueId (a : ArgValues) (counter : Nat) : Except String Value := do
  a.maxArgs 0
  return .string ("u" ++ padDigits (counter + 12345) 8) false

/-- The text before the first place of a non-empty separator and the text after it. -/
def splitOnce (text sep : List Char) : Option (List Char × List Char) :=
  go text.length [] text
where
  go : Nat → List Char → List Char → Option (List Char × List Char)
    | 0, _, _ => none
    | fuel + 1, before, rest =>
      if sep.isPrefixOf rest then some (before.reverse, rest.drop sep.length)
      else match rest with
        | [] => none
        | c :: tail => go fuel (c :: before) tail

/-- At most `n` pieces of a text between the places a non-empty separator is found, left to
right; the last piece holds the rest of the text. -/
def splitPieces (sep : List Char) : Nat → List Char → List (List Char)
  | 0, text | 1, text => [text]
  | n + 1, text =>
    match splitOnce text sep with
    | some (before, after) => before :: splitPieces sep n after
    | none => [text]

/-- The pieces of a text between the places a separator is found, at most `n` of them, the last
holding the rest of the text. An empty separator is found at the start, between every two
characters and at the end, so the pieces are an empty text, the characters one by one, and an
empty text. -/
def splitText (text sep : List Char) (n : Nat) : List (List Char) :=
  if sep.isEmpty then
    let pieces := [] :: text.map (fun c => [c]) ++ [[]]
    if n ≥ pieces.length then pieces
    else pieces.take (n - 1) ++ [(pieces.drop (n - 1)).flatten]
  else splitPieces sep n text

/-- `string.split($string, $separator, $limit: null)`: the pieces between the places the
separator is found, as a bracketed comma-separated list of quoted strings, whether `$string` is
quoted or not. A limit of `k` splits at the first `k` places only. -/
def fnStrSplit (a : ArgValues) : Except String Value := do
  a.maxArgs 3
  let (s, _) ← stringArg a 0 "string"
  let (sep, _) ← stringArg a 1 "separator"
  let n ← match a.getD 2 "limit" .null with
    | .null => pure (s.length + 2)
    | v => do
      let k ← expectInt "limit" (← expectNumber "limit" v)
      if k < 1 then .error ("$limit: Must be 1 or greater, was " ++ toString k ++ ".")
      pure (k.toNat + 1)
  let pieces := splitText s.toList sep.toList n
  return .list (pieces.map fun p => .string (String.ofList p) true) .comma true

end CssBundle.Sass
