/-!
# Splitting at top-level separators

A selector list is split at its commas, but only at commas that stand at the top level: outside
parentheses and square brackets, outside quoted strings, and not escaped by a backslash. A scan
keeps the bracket depth (a closing bracket never takes it below zero), the open quote if any,
and whether the previous character was an escaping backslash. A backslash escapes the next
character inside quotes too.

Joining the parts with the separator gives back the text, since only the separators between the
parts are dropped.
-/

namespace CssBundle.Css

/-- Where a scan stands: bracket depth, the open quote, and a pending escape. -/
structure ScanState where
  depth : Nat := 0
  quote : Option Char := none
  escaped : Bool := false
  deriving Repr, BEq, DecidableEq, Inhabited

namespace ScanState

/-- One character of the scan: the next state, and whether the character is a top-level
occurrence of `sep`. -/
def step (sep : Char) (s : ScanState) (c : Char) : ScanState × Bool :=
  if s.escaped then ({ s with escaped := false }, false)
  else if c = '\\' then ({ s with escaped := true }, false)
  else match s.quote with
    | some q => if c = q then ({ s with quote := none }, false) else (s, false)
    | none =>
      if c = '"' ∨ c = '\'' then ({ s with quote := some c }, false)
      else if c = '(' ∨ c = '[' then ({ s with depth := s.depth + 1 }, false)
      else if c = ')' ∨ c = ']' then ({ s with depth := s.depth - 1 }, false)
      else if c = sep ∧ s.depth = 0 then (s, true)
      else (s, false)

end ScanState

/-- Splits the characters at top-level separators, given the scan state, the characters of the
current part (reversed) and the finished parts (reversed). -/
def splitChars (sep : Char) : List Char → ScanState → List Char → List (List Char) →
    List (List Char)
  | [], _, cur, parts => (cur.reverse :: parts).reverse
  | c :: cs, s, cur, parts =>
    let (s', cut) := s.step sep c
    if cut then splitChars sep cs s' [] (cur.reverse :: parts)
    else splitChars sep cs s' (c :: cur) parts

/-- The parts of a text between its top-level separators. There is always at least one. -/
def splitTopLevel (text : String) (sep : Char) : List String :=
  (splitChars sep text.toList {} [] []).map String.ofList

end CssBundle.Css
