import CssBundle.Css.Syntax
import CssBundle.Text.Whitespace
import CssBundle.Text.Units
import CssBundle.Text.Alphanumeric

/-!
# Reading a stylesheet

The reader walks the text once, keeping the byte offset, the row and the UTF-16 column of the
next character. A byte order mark at the very start is skipped without moving the row or the
column.

At the top level, blanks and stray semicolons are skipped, a closing brace is an error, and
everything else starts a rule. A comment runs from `/*` to the next `*/`. An at-rule is `@`,
a name of letters, digits, hyphens and underscores, and a prelude up to a `{`, a `;` or a `}`;
after the prelude comes a block, a `;`, or nothing (a `}` is left to the enclosing block). A
style rule is a selector up to a `{`, then a block.

Inside a block the reader takes declarations and nested rules. A declaration runs up to a `;`, a
`}` or the end, and splits at its first colon into property and value, both trimmed; a nested
style rule is recognised by reaching a `{` first.

Scanning up to a stop character steps over quoted strings, comments and backslash escapes, and
only stops outside parentheses and square brackets; a closing bracket that does not match the
innermost open one is an ordinary character. The errors name the construct left open or the
character that cannot start anything, at its location.
-/

namespace CssBundle.Css

open Text

/-- Why a stylesheet could not be read. -/
inductive ParseProblem where
  | unexpectedClose
  | unknownWord
  | atRuleWithoutName
  | unclosedBlock
  | unclosedBracket
  | unclosedString
  | unclosedComment
  deriving Repr, BEq, DecidableEq, Inhabited

def ParseProblem.message : ParseProblem → String
  | .unexpectedClose => "Unexpected \x7d"
  | .unknownWord => "Unknown word"
  | .atRuleWithoutName => "At-rule without name"
  | .unclosedBlock => "Unclosed block"
  | .unclosedBracket => "Unclosed bracket"
  | .unclosedString => "Unclosed string"
  | .unclosedComment => "Unclosed comment"

/-- A problem and the location of the construct it names. -/
structure ParseError where
  problem : ParseProblem
  location : Location
  deriving Repr, BEq, DecidableEq, Inhabited

def ParseError.message (e : ParseError) : String := e.problem.message

def ParseError.lineColumn (e : ParseError) : Nat × Nat := (e.location.row + 1, e.location.column + 1)

/-- The reader's place in the text: what is left, and the location of its first character. -/
structure Cursor where
  rest : List Char
  offset : Nat
  row : Nat
  column : Nat
  deriving Repr, Inhabited

namespace Cursor

def here (c : Cursor) : Location := ⟨c.offset, c.row, c.column⟩

def peek (c : Cursor) : Option Char := c.rest.head?

/-- Moves past the next character: a line feed starts a new row, any other character moves
the column by its UTF-16 length. -/
def bump (c : Cursor) : Cursor :=
  match c.rest with
  | [] => c
  | x :: xs =>
    if x = '\n' then ⟨xs, c.offset + x.utf8Size, c.row + 1, 0⟩
    else ⟨xs, c.offset + x.utf8Size, c.row, c.column + units16 x⟩

def startsWith2 (c : Cursor) (a b : Char) : Bool :=
  match c.rest with
  | x :: y :: _ => x == a && y == b
  | _ => false

def skipBlank (c : Cursor) : Cursor :=
  go c.rest.length c
where
  go : Nat → Cursor → Cursor
    | 0, c => c
    | n + 1, c =>
      match c.rest with
      | x :: _ => if isBlank x then go n c.bump else c
      | [] => c

/-- The characters between two places of one text, the first before the second. -/
def textTo (a b : Cursor) : List Char := a.rest.take (a.rest.length - b.rest.length)

/-- The start of a text: after a byte order mark, if there is one, with row and column 0. -/
def start (text : String) : Cursor :=
  match text.toList with
  | '\uFEFF' :: rest => ⟨rest, 3, 0, 0⟩
  | cs => ⟨cs, 0, 0, 0⟩

end Cursor

/-- A result of the reader: a value and the place after it, or an error. -/
abbrev Step (α : Type) := Except ParseError (α × Cursor)

section Scanning

def skipComment (c : Cursor) : Except ParseError Cursor :=
  go c.rest.length (c.bump.bump)
where
  go : Nat → Cursor → Except ParseError Cursor
    | 0, _ => .error ⟨.unclosedComment, c.here⟩
    | n + 1, d =>
      if d.startsWith2 '*' '/' then .ok d.bump.bump
      else match d.rest with
        | [] => .error ⟨.unclosedComment, c.here⟩
        | _ :: _ => go n d.bump

/-- Moves past a quoted string that starts at the cursor, closing quote included; a backslash
takes the next character with it. -/
def skipString (c : Cursor) : Except ParseError Cursor :=
  match c.peek with
  | none => .ok c
  | some q => go q c.rest.length c.bump
where
  go (q : Char) : Nat → Cursor → Except ParseError Cursor
    | 0, _ => .error ⟨.unclosedString, c.here⟩
    | n + 1, d =>
      match d.rest with
      | [] => .error ⟨.unclosedString, c.here⟩
      | x :: _ =>
        if x = '\\' then go q n d.bump.bump
        else if x = q then .ok d.bump
        else go q n d.bump

/-- Whether a character stops a scan: the start of a block, the end of a statement, or the end
of a block. -/
def isStop (c : Char) : Bool := c = '{' || c = ';' || c = '}'

/-- Scans up to the first stop character outside brackets, strings and comments. The stack
holds the open brackets, innermost first, each with the closing character it waits for and
its location. At the end of the text an open bracket is an error at the outermost one. -/
def scanUntil (c : Cursor) : Except ParseError (Option Char × Cursor) :=
  go (c.rest.length + 1) c []
where
  go : Nat → Cursor → List (Char × Location) → Except ParseError (Option Char × Cursor)
    | 0, d, _ => .ok (none, d)
    | n + 1, d, stack =>
      match d.rest with
      | [] =>
        match stack.getLast? with
        | some (_, open_) => .error ⟨.unclosedBracket, open_⟩
        | none => .ok (none, d)
      | x :: _ =>
        if stack.isEmpty && isStop x then .ok (some x, d)
        else if x = '\\' then go n d.bump.bump stack
        else if x = '"' || x = '\'' then
          match skipString d with
          | .ok e => go n e stack
          | .error err => .error err
        else if x = '/' && d.startsWith2 '/' '*' then
          match skipComment d with
          | .ok e => go n e stack
          | .error err => .error err
        else if x = '(' then go n d.bump ((')', d.here) :: stack)
        else if x = '[' then go n d.bump ((']', d.here) :: stack)
        else if x = ')' || x = ']' then
          match stack with
          | (close, _) :: rest => if close = x then go n d.bump rest else go n d.bump stack
          | [] => go n d.bump stack
        else go n d.bump stack

end Scanning

def spanFrom (source : String) (start : Location) (c : Cursor) : Span := ⟨source, ⟨start, c.here⟩⟩

def isNameChar (c : Char) : Bool := isAlphanumeric c || c = '-' || c = '_'

/-- Splits a declaration's text at its first colon into trimmed property and value; the
property must not be empty. -/
def splitDeclaration (text : List Char) : Option (String × String) :=
  let before := text.takeWhile (· ≠ ':')
  if before.length = text.length then none else
  let property := trimChars before
  let value := trimChars (text.drop (before.length + 1))
  if property.isEmpty then none else some (String.ofList property, String.ofList value)

section Reading

variable (source : String)

mutual

def readComment (c : Cursor) : Step Rule :=
  match skipComment c with
  | .error e => .error e
  | .ok d =>
    let inner := Cursor.textTo c d
    let text := (inner.drop 2).take (inner.length - 4)
    .ok (.comment (String.ofList text) (spanFrom source c.here d), d)

def readAtRule : Nat → Cursor → Step Rule
  | 0, c => .error ⟨.unclosedBlock, c.here⟩
  | fuel + 1, c =>
    let start := c.here
    let afterAt := c.bump
    let nameLen := (afterAt.rest.takeWhile isNameChar).length
    let afterName := (List.range nameLen).foldl (fun d _ => d.bump) afterAt
    if nameLen = 0 then .error ⟨.atRuleWithoutName, start⟩ else
    let name := String.ofList (afterAt.rest.take nameLen)
    match scanUntil afterName with
    | .error e => .error e
    | .ok (stop, d) =>
      let prelude := String.ofList (trimChars (Cursor.textTo afterName d))
      match stop with
      | some '{' =>
        match readBlock fuel d with
        | .error e => .error e
        | .ok (body, e) => .ok (.atRule name prelude (some body) (spanFrom source start e), e)
      | some ';' =>
        let e := d.bump
        .ok (.atRule name prelude none (spanFrom source start e), e)
      | _ => .ok (.atRule name prelude none (spanFrom source start d), d)

def readBlock : Nat → Cursor → Step (List Item)
  | 0, c => .error ⟨.unclosedBlock, c.here⟩
  | fuel + 1, c => readItems fuel c.here c.bump []

/-- Reads the entries of a block whose `{` is at `open_`, up to and with its `}`. -/
def readItems : Nat → Location → Cursor → List Item → Step (List Item)
  | 0, open_, _, _ => .error ⟨.unclosedBlock, open_⟩
  | fuel + 1, open_, c, acc =>
    let c := c.skipBlank
    match c.rest with
    | [] => .error ⟨.unclosedBlock, open_⟩
    | x :: _ =>
      if x = '}' then .ok (acc.reverse, c.bump)
      else if x = ';' then readItems fuel open_ c.bump acc
      else if x = '@' then
        match readAtRule fuel c with
        | .error e => .error e
        | .ok (r, d) => readItems fuel open_ d (.rule r :: acc)
      else if c.startsWith2 '/' '*' then
        match readComment c with
        | .error e => .error e
        | .ok (r, d) => readItems fuel open_ d (.rule r :: acc)
      else
        match readItem fuel c with
        | .error e => .error e
        | .ok (i, d) => readItems fuel open_ d (i :: acc)

def readItem : Nat → Cursor → Step Item
  | 0, c => .error ⟨.unclosedBlock, c.here⟩
  | fuel + 1, c =>
    let start := c.here
    match scanUntil c with
    | .error e => .error e
    | .ok (stop, d) =>
      let text := Cursor.textTo c d
      if stop = some '{' then
        match readBlock fuel d with
        | .error e => .error e
        | .ok (body, e) =>
          .ok (.rule (.style (String.ofList (trimChars text)) body (spanFrom source start e)), e)
      else
        let span := spanFrom source start d
        let e := if stop = some ';' then d.bump else d
        match splitDeclaration text with
        | some (p, v) => .ok (.decl p v span, e)
        | none => .error ⟨.unknownWord, start⟩

def readRule : Nat → Cursor → Step Rule
  | 0, c => .error ⟨.unclosedBlock, c.here⟩
  | fuel + 1, c =>
    if c.startsWith2 '/' '*' then readComment c
    else if c.peek = some '@' then readAtRule fuel c
    else
      let start := c.here
      match scanUntil c with
      | .error e => .error e
      | .ok (some '{', d) =>
        let selector := String.ofList (trimChars (Cursor.textTo c d))
        match readBlock fuel d with
        | .error e => .error e
        | .ok (body, e) => .ok (.style selector body (spanFrom source start e), e)
      | .ok _ => .error ⟨.unknownWord, start⟩

end

def readRules : Nat → Cursor → List Rule → Except ParseError (List Rule)
  | 0, c, _ => .error ⟨.unclosedBlock, c.here⟩
  | fuel + 1, c, acc =>
    let c := c.skipBlank
    match c.rest with
    | [] => .ok acc.reverse
    | x :: _ =>
      if x = '}' then .error ⟨.unexpectedClose, c.here⟩
      else if x = ';' then readRules fuel c.bump acc
      else
        match readRule source fuel c with
        | .error e => .error e
        | .ok (r, d) => readRules fuel d (r :: acc)

end Reading

def parse (text : String) (filename : String) : Except ParseError Stylesheet :=
  let c := Cursor.start text
  let fuel := 3 * c.rest.length + 3
  (readRules filename fuel c []).map fun rules => ⟨filename, rules⟩

end CssBundle.Css
