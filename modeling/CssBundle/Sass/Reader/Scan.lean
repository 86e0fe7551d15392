import CssBundle.Sass.Syntax

/-!
# Reading stylesheet text: characters, blanks, names and numbers

The reader walks the stylesheet as an array of characters. `Reader` keeps the position and the
context that decides how text is read (inside parentheses, a style rule, a mixin, ...); a failed
attempt restores both, so a reader can try one reading and fall back to another.

This module holds the lexical layer: blanks and comments, escapes, names (identifiers), numbers
with units and the tests that look ahead without reading. Every loop here takes at least one
character per round and is bounded by the length of the text.

Names follow CSS: a name starts with a letter, `_`, a character beyond ASCII, an escape, or a
`-` followed by one of those or by another `-`; it goes on with those and digits and `-`. An
escape `\41 ` stands for the character with that hex code; in a name it is kept as the character
itself when that character could stand there unescaped, and otherwise kept as an escape.
-/

namespace CssBundle.Sass

/-- What decides how text is read at a point of the stylesheet. -/
structure ReadState where
  pos : Nat
  inParens : Bool := false
  inStyleRule : Bool := false
  inMixin : Bool := false
  inContentBlock : Bool := false
  inUnknownAtRule : Bool := false
  inControl : Bool := false
  inFunction : Bool := false
  useAllowed : Bool := true
  sawContent : Bool := false
  /-- Whether the last `@for` bound read was `to` (exclusive) or `through`. -/
  forBound : Option Bool := none
  deriving Inhabited

abbrev Reader := ReaderT (Array Char) (StateT ReadState (Except SassError))

/-- Whether a character is a blank: space, tab, line feed, carriage return or form feed. -/
def isBlankChar (c : Char) : Bool :=
  c == ' ' || c == '\t' || c == '\n' || c == '\r' || c == '\x0c'

def isNewlineChar (c : Char) : Bool := c == '\n' || c == '\r' || c == '\x0c'

def isNameStart (c : Char) : Bool := c.isAlpha || c == '_' || c.toNat ≥ 0x80

def isNameChar (c : Char) : Bool := isNameStart c || c.isDigit || c == '-'

def Reader.pos : Reader Nat := do return (← get).pos

def Reader.seek (p : Nat) : Reader Unit := modify fun s => { s with pos := p }

def peekAt (k : Nat) : Reader (Option Char) := do return (← read)[(← get).pos + k]?

def peek : Reader (Option Char) := peekAt 0

def peekIs (c : Char) (k : Nat := 0) : Reader Bool := do return (← peekAt k) == some c

def peekBack : Reader (Option Char) := do
  let p ← Reader.pos
  if p == 0 then return none else return (← read)[p - 1]?

def advance (n : Nat := 1) : Reader Unit := modify fun s => { s with pos := s.pos + n }

def readChar : Reader (Option Char) := do
  let c ← peek
  if c.isSome then advance
  return c

def isDone : Reader Bool := do return (← Reader.pos) ≥ (← read).size

def Reader.slice (a b : Nat) : Reader String := do
  return String.ofList ((← read).extract a b).toList

def failSpan {α : Type} (message : String) (start stop : Nat) : Reader α :=
  throw ⟨message, ⟨start, stop⟩⟩

def failHere {α : Type} (message : String) : Reader α := do
  let p ← Reader.pos
  let size := (← read).size
  failSpan message p (if p < size then p + 1 else p)

def scanChar (c : Char) : Reader Bool := do
  if (← peek) == some c then advance; return true
  else return false

def expectChar (c : Char) (name : Option String := none) : Reader Unit := do
  unless (← scanChar c) do
    failHere ("expected " ++ name.getD ("\"" ++ String.singleton c ++ "\"") ++ ".")

def matchesText (s : String) : Reader Bool := do
  let src ← read
  let p ← Reader.pos
  return (s.toList.zipIdx.all fun (c, i) => src[p + i]? == some c)

def scanText (s : String) : Reader Bool := do
  if ← matchesText s then advance s.length; return true
  else return false

def expectText (s : String) : Reader Unit := do
  unless (← scanText s) do failHere ("expected \"" ++ s ++ "\".")

def skipWhile (src : Array Char) (p : Char → Bool) (i : Nat) : Nat :=
  go (src.size - i) i
where
  go : Nat → Nat → Nat
    | 0, i => i
    | fuel + 1, i =>
      match src[i]? with
      | some c => if p c then go fuel (i + 1) else i
      | none => i

def scanWhile (p : Char → Bool) : Reader String := do
  let start ← Reader.pos
  let stop := skipWhile (← read) p start
  Reader.seek stop
  Reader.slice start stop

def blanks : Reader Unit := do
  let _ ← scanWhile isBlankChar

/-- The position after the `*/` that closes a comment opened before `i`, if there is one. -/
def commentEnd (src : Array Char) (i : Nat) : Option Nat :=
  go (src.size - i) i
where
  go : Nat → Nat → Option Nat
    | 0, _ => none
    | fuel + 1, i =>
      if src[i]? == some '*' && src[i + 1]? == some '/' then some (i + 2)
      else if i < src.size then go fuel (i + 1) else none

/-- Read a `//` comment to the end of its line, or a `/* */` comment; answer whether one was
read. -/
def scanComment : Reader Bool := do
  if (← peek) != some '/' then return false
  match ← peekAt 1 with
  | some '/' =>
    let _ ← scanWhile (fun c => !isNewlineChar c)
    return true
  | some '*' =>
    let src ← read
    match commentEnd src ((← Reader.pos) + 2) with
    | some e => Reader.seek e; return true
    | none => Reader.seek src.size; failHere "expected more input."
  | _ => return false

def whitespace : Reader Unit := do
  let n := (← read).size + 1
  go n
where
  go : Nat → Reader Unit
    | 0 => pure ()
    | fuel + 1 => do
      blanks
      if ← scanComment then go fuel

/-- Read hex digits, at most `k`, answering their value and how many were read. -/
def hexRun (k : Nat) : Reader (Nat × Nat) := do
  go k 0 0
where
  go : Nat → Nat → Nat → Reader (Nat × Nat)
    | 0, v, n => pure (v, n)
    | k + 1, v, n => do
      match ← peek with
      | some c =>
        if isHexDigit c then advance; go k (v * 16 + hexValue c) (n + 1)
        else pure (v, n)
      | none => pure (v, n)

/-- Read an escape `\...` inside a name, answering the text it stands for there. -/
def escape (identifierStart : Bool := false) : Reader String := do
  let start ← Reader.pos
  expectChar '\\'
  let value ← match ← peek with
    | none => failHere "Expected escape sequence."
    | some c =>
      if isNewlineChar c then failHere "Expected escape sequence."
      else if isHexDigit c then do
        let (v, _) ← hexRun 6
        match ← peek with
        | some w => if isBlankChar w then advance
        | none => pure ()
        pure v
      else do advance; pure c.toNat
  if value > 0x10FFFF then failSpan "Invalid Unicode code point." start (← Reader.pos)
  let ch := if 0xD800 ≤ value && value ≤ 0xDFFF then Char.ofNat 0xFFFD else Char.ofNat value
  if (if identifierStart then isNameStart ch else isNameChar ch) then
    return String.singleton ch
  else if value ≤ 0x1F || value == 0x7F || (identifierStart && ch.isDigit) then
    return "\\" ++ hexDigits value ++ " "
  else return "\\" ++ String.singleton ch

/-- Read an escape inside a quoted string, answering the character it stands for. -/
def escapeCharacter : Reader Char := do
  expectChar '\\'
  match ← peek with
  | none => return Char.ofNat 0xFFFD
  | some c =>
    if isNewlineChar c then failHere "Expected escape sequence."
    else if isHexDigit c then
      let (v, _) ← hexRun 6
      match ← peek with
      | some w => if isBlankChar w then advance
      | none => pure ()
      if v == 0 || (0xD800 ≤ v && v ≤ 0xDFFF) || v > 0x10FFFF then return Char.ofNat 0xFFFD
      else return Char.ofNat v
    else advance; return c

def unvendor (name : String) : String :=
  match name.toList with
  | '-' :: '-' :: _ => name
  | '-' :: rest =>
    match rest.dropWhile (· != '-') with
    | '-' :: tail => String.ofList tail
    | _ => name
  | _ => name

def lookingAtIdentifier (k : Nat := 0) : Reader Bool := do
  match ← peekAt k with
  | none => return false
  | some first =>
    if isNameStart first || first == '\\' then return true
    if first != '-' then return false
    match ← peekAt (k + 1) with
    | none => return false
    | some second => return isNameStart second || second == '\\' || second == '-'

def lookingAtIdentifierBody : Reader Bool := do
  match ← peek with
  | some c => return isNameChar c || c == '\\'
  | none => return false

/-- Read the rest of a name onto `acc`; `normalize` turns `_` into `-`, and `unit` stops before a
`-` followed by a digit or a point. -/
def identifierBody (normalize unit : Bool) (acc : String) : Reader String := do
  go ((← read).size + 1) acc
where
  go : Nat → String → Reader String
    | 0, acc => pure acc
    | fuel + 1, acc => do
      match ← peek with
      | none => pure acc
      | some c =>
        if c == '-' && unit then
          match ← peekAt 1 with
          | some n =>
            if n == '.' || n.isDigit then pure acc else do advance; go fuel (acc.push c)
          | none => do advance; go fuel (acc.push c)
        else if c == '_' && normalize then do advance; go fuel (acc.push '-')
        else if isNameChar c then do advance; go fuel (acc.push c)
        else if c == '\\' then do
          let e ← escape
          go fuel (acc ++ e)
        else pure acc

def identifier (normalize : Bool := false) (unit : Bool := false) : Reader String := do
  let mut text := ""
  if ← scanChar '-' then
    text := "-"
    if ← scanChar '-' then
      return ← identifierBody normalize unit "--"
  match ← peek with
  | none => failHere "Expected identifier."
  | some c =>
    if c == '_' && normalize then advance; identifierBody normalize unit (text.push '-')
    else if isNameStart c then advance; identifierBody normalize unit (text.push c)
    else if c == '\\' then
      let e ← escape true
      identifierBody normalize unit (text ++ e)
    else failHere "Expected identifier."

/-- Read the name `text` (ASCII letters in any case) if it is next as a whole name. -/
def scanIdentifier (text : String) (caseSensitive : Bool := false) : Reader Bool := do
  if !(← lookingAtIdentifier) then return false
  let start ← Reader.pos
  let src ← read
  let same (a b : Char) : Bool := if caseSensitive then a == b else a.toLower == b.toLower
  let ok := text.toList.zipIdx.all fun (c, i) => (src[start + i]?.map (same c)).getD false
  if ok then
    advance text.length
    if !(← lookingAtIdentifierBody) then return true
  Reader.seek start
  return false

def expectIdentifier (text : String) : Reader Unit := do
  unless (← scanIdentifier text) do failHere ("Expected \"" ++ text ++ "\".")

def lookingAtInterpolatedIdentifier : Reader Bool := do
  match ← peek with
  | none => return false
  | some first =>
    if isNameStart first || first == '\\' then return true
    if first == '#' then return (← peekAt 1) == some '{'
    if first != '-' then return false
    match ← peekAt 1 with
    | none => return false
    | some second =>
      if second == '#' then return (← peekAt 2) == some '{'
      return isNameStart second || second == '\\' || second == '-'

def lookingAtInterpolatedIdentifierBody : Reader Bool := do
  match ← peek with
  | none => return false
  | some c =>
    if c == '#' then return (← peekAt 1) == some '{'
    return isNameChar c || c == '\\'

def lookingAtExpression : Reader Bool := do
  match ← peek with
  | none => return false
  | some c =>
    if c == '.' then return (← peekAt 1) != some '.'
    if c == '!' then
      match ← peekAt 1 with
      | none => return true
      | some n => return n == 'i' || n == 'I' || isBlankChar n
    return c == '(' || c == '/' || c == '[' || c == '\'' || c == '"' || c == '#' || c == '+' ||
      c == '-' || c == '\\' || c == '$' || c == '&' || isNameStart c || c.isDigit

def lookingAtChildren : Reader Bool := peekIs '{'

def atEndOfStatement : Reader Bool := do
  match ← peek with
  | none => return true
  | some c => return c == ';' || c == '}' || c == '{'

/-- After a statement: blanks, then the end of the text, a `;` or a `}`. -/
def expectStatementSeparator : Reader Unit := do
  blanks
  if ← isDone then return
  match ← peek with
  | some ';' | some '}' => return
  | _ => expectChar ';'

def plainString : Reader String := do
  let start ← Reader.pos
  let some q ← readChar | failHere "Expected string."
  if q != '\'' && q != '"' then failSpan "Expected string." start (start + 1)
  go ((← read).size + 1) q ""
where
  go : Nat → Char → String → Reader String
    | 0, _, acc => pure acc
    | fuel + 1, q, acc => do
      match ← peek with
      | none => failHere ("Expected " ++ String.singleton q ++ ".")
      | some c =>
        if c == q then advance; pure acc
        else if isNewlineChar c then failHere ("Expected " ++ String.singleton q ++ ".")
        else if c == '\\' then
          match ← peekAt 1 with
          | some s =>
            if isNewlineChar s then
              advance 2
              if s == '\r' then let _ ← scanChar '\n'
              go fuel q acc
            else go fuel q (acc.push (← escapeCharacter))
          | none => go fuel q (acc.push (← escapeCharacter))
        else advance; go fuel q (acc.push c)

/-- Read a blank or comment, which must be there, and the blanks and comments after it. -/
def expectWhitespace : Reader Unit := do
  let start ← Reader.pos
  whitespace
  if (← Reader.pos) == start then failHere "Expected whitespace."

def whitespaceText : Reader String := do
  let start ← Reader.pos
  whitespace
  Reader.slice start (← Reader.pos)

def digits : Reader String := scanWhile Char.isDigit

def digitValue (s : String) : Nat := s.foldl (fun acc d => acc * 10 + (d.toNat - '0'.toNat)) 0

/-- Read a number with its unit: an optional sign, digits with an optional fraction, an optional
exponent, then `%` or a unit name. The value is the double nearest to the written decimal. -/
def readNumber : Reader Expr := do
  let start ← Reader.pos
  let first ← peek
  let negative := first == some '-'
  if first == some '+' || first == some '-' then advance
  let whole ← if (← peek) == some '.' then pure "" else digits
  let afterWhole ← Reader.pos
  let mut frac := ""
  if (← peek) == some '.' then
    match ← peekAt 1 with
    | some d =>
      if d.isDigit then advance; frac ← digits
      else if afterWhole == start + (if first == some '+' || first == some '-' then 1 else 0) then
        failSpan "Expected digit." (afterWhole + 1) (afterWhole + 2)
    | none =>
      if whole.isEmpty then failSpan "Expected digit." (afterWhole + 1) (afterWhole + 1)
  let mut exponent : Int := 0
  match ← peek with
  | some 'e' | some 'E' =>
    match ← peekAt 1 with
    | some n =>
      if n.isDigit || n == '-' || n == '+' then
        advance
        let sign : Int := if n == '-' then -1 else 1
        if n == '-' || n == '+' then advance
        let ds ← digits
        if ds.isEmpty then failHere "Expected digit."
        exponent := sign * (digitValue ds : Int)
    | none => pure ()
  | _ => pure ()
  let mantissa := digitValue (whole ++ frac)
  let value := decimalToFloat negative mantissa (exponent - (frac.length : Int))
  let unit ← if ← scanChar '%' then pure (some "%")
    else if (← lookingAtIdentifier) && !((← peekIs '-') && (← peekIs '-' 1)) then
      (some ∘ canonicalUnit) <$> identifier false true
    else pure none
  return .number value unit ⟨start, ← Reader.pos⟩

end CssBundle.Sass
