import CssBundle.Sass.Reader.Scan

/-!
# Reading plain CSS values

Selectors and media queries are read again from their evaluated text, where no script is left.
Their free-form parts (the argument of `:nth-child(...)`, a media feature in parentheses) are
plain values: text up to an unmatched closing bracket or a `;`, with brackets matched, strings
and comments kept as written, and blanks folded (a run of blanks is one space, a run of line
breaks one line break).
-/

namespace CssBundle.Sass

def isSpaceChar (c : Char) : Bool := c == ' ' || c == '\t' || isNewlineChar c

/-- Read `url(` with an address not in quotes, up to its `)`, if that is next; else read
nothing. -/
def tryPlainUrl : Reader (Option String) := do
  let start ← Reader.pos
  if !(← scanIdentifier "url") then return none
  if !(← scanChar '(') then
    Reader.seek start
    return none
  whitespace
  let result ← go ((← read).size + 1) "url("
  if result.isNone then Reader.seek start
  return result
where
  go : Nat → String → Reader (Option String)
    | 0, _ => pure none
    | fuel + 1, acc => do
      match ← peek with
      | none => pure none
      | some c =>
        if c == '\\' then
          let e ← escape
          go fuel (acc ++ e)
        else if c == '!' || c == '%' || c == '&' || ('*' ≤ c && c ≤ '~') || c.toNat ≥ 0x80 then
          advance
          go fuel (acc.push c)
        else if isSpaceChar c then
          whitespace
          if (← peek) != some ')' then pure none else go fuel acc
        else if c == ')' then
          advance
          pure (some (acc.push ')'))
        else pure none

/-- Read a plain value: text up to an unmatched closing bracket or a `;` outside brackets. -/
def plainValue (allowEmpty : Bool := false) : Reader String := do
  let text ← go ((← read).size + 1) "" [] false
  if !allowEmpty && text.isEmpty then failHere "Expected token."
  return text
where
  /-- At most `fuel` more steps; `closers` are the brackets still open, innermost first. -/
  go : Nat → String → List Char → Bool → Reader String
    | 0, acc, _, _ => pure acc
    | fuel + 1, acc, closers, wroteNewline => do
      match ← peek with
      | none =>
        match closers with
        | c :: _ => expectChar c; pure acc
        | [] => pure acc
      | some c =>
        if c == '\\' then
          let e ← escape true
          go fuel (acc ++ e) closers false
        else if c == '"' || c == '\'' then
          let start ← Reader.pos
          let _ ← plainString
          go fuel (acc ++ (← Reader.slice start (← Reader.pos))) closers false
        else if c == '/' then
          if (← peekAt 1) == some '*' then
            let start ← Reader.pos
            let _ ← scanComment
            go fuel (acc ++ (← Reader.slice start (← Reader.pos))) closers false
          else
            advance
            go fuel (acc.push c) closers false
        else if c == ' ' || c == '\t' then
          let next ← peekAt 1
          let acc := if wroteNewline || !((next.map isSpaceChar).getD false) then acc.push ' '
            else acc
          advance
          go fuel acc closers wroteNewline
        else if isNewlineChar c then
          let back ← peekBack
          let acc := if (back.map isNewlineChar).getD false then acc else acc.push '\n'
          advance
          go fuel acc closers true
        else if c == '(' || c == '{' || c == '[' then
          advance
          go fuel (acc.push c) ((if c == '(' then ')' else if c == '[' then ']' else '}') :: closers)
            false
        else if c == ')' || c == '}' || c == ']' then
          match closers with
          | [] => pure acc
          | closer :: rest =>
            let acc := acc.push c
            expectChar closer
            go fuel acc rest false
        else if c == ';' then
          if closers.isEmpty then pure acc
          else
            advance
            go fuel (acc.push ';') closers wroteNewline
        else if c == 'u' || c == 'U' then
          match ← tryPlainUrl with
          | some url => go fuel (acc ++ url) closers false
          | none =>
            advance
            go fuel (acc.push c) closers false
        else if ← lookingAtIdentifier then
          let name ← identifier
          go fuel (acc ++ name) closers false
        else
          advance
          go fuel (acc.push c) closers false

/-- Run a reader over a whole text, answering its result or its fault, placed in the text. -/
def readWholePlaced {α : Type} (text : String) (r : Reader α) : Except SassError α :=
  match (r.run text.toList.toArray).run { pos := 0 } with
  | .ok (a, _) => .ok a
  | .error e => .error e

/-- Run a reader over a whole text, answering its result or the message of its fault. -/
def readWhole {α : Type} (text : String) (r : Reader α) : Except String α :=
  (readWholePlaced text r).mapError (·.message)

end CssBundle.Sass
