import CssBundle.Regex.Ast
import CssBundle.Text.Whitespace
import CssBundle.Text.Alphanumeric
import CssBundle.Unicode.Binary

/-!
# Reading search patterns

`readPattern` turns pattern text into its parse tree, an `Ast`, with the capture groups and
their names. It reads left to right like a stack machine: a sequence of items is gathered until
`|`, `)` or the end of the text closes it, and a group opens a new sequence whose result becomes
one item of the enclosing one. A repetition operator applies to the last item read. Blanks and
`#` comments are skipped wherever the flag `x` is in force, which the reader follows as it meets
flag groups; every other flag is left in the tree for the meaning of the pattern to apply.

A fault of form (a missing item, an unclosed group or class, a reversed range, a bad escape and
the others of `SyntaxFault`) is reported with the columns it covers.
-/

namespace CssBundle.Regex

open CssBundle.Text CssBundle.Unicode

def fault {α : Type} (kind : SyntaxFault) (start stop : Nat) : Except SyntaxError α :=
  .error { fault := kind, span := ⟨start, stop⟩ }

def isMeta (c : Char) : Bool :=
  "\\.+*?()|[]\x7b\x7d^$#&-~".contains c

/-- The characters a backslash may precede to stand for themselves: the meta characters and any
other ASCII character that is neither a letter, a digit, nor an angle bracket. -/
def isEscapeable (c : Char) : Bool :=
  isMeta c || (c.toNat < 0x80 && !c.isAlphanum && c != '<' && c != '>')

def hexValue? (c : Char) : Option Nat :=
  if c.isDigit then some (c.toNat - '0'.toNat)
  else if 'a' ≤ c && c ≤ 'f' then some (c.toNat - 'a'.toNat + 10)
  else if 'A' ≤ c && c ≤ 'F' then some (c.toNat - 'A'.toNat + 10)
  else none

def hexNumber (digits : List Char) : Nat :=
  digits.foldl (fun acc c => acc * 16 + (hexValue? c).getD 0) 0

/-- The character with a code point, when the code point is a 32-bit number that names a
Unicode scalar value. -/
def scalar? (n : Nat) : Option Char :=
  if n < 0xD800 || (0xDFFF < n && n < 0x110000) then some (Char.ofNat n) else none

def slice (src : Array Char) (start stop : Nat) : List Char :=
  (src.extract start stop).toList

/-- The index of the first character at or after `i` that fails a test, or the end. -/
def scanWhile (src : Array Char) (p : Char → Bool) (i : Nat) : Nat :=
  go (src.size + 1) i
where
  go : Nat → Nat → Nat
    | 0, i => i
    | fuel + 1, i =>
      match src[i]? with
      | some c => if p c then go fuel (i + 1) else i
      | none => i

def skipSpace (src : Array Char) (verbose : Bool) (i : Nat) : Nat :=
  if verbose then go (src.size + 1) i false else i
where
  go : Nat → Nat → Bool → Nat
    | 0, i, _ => i
    | fuel + 1, i, inComment =>
      match src[i]? with
      | none => i
      | some c =>
        if inComment then go fuel (i + 1) (c != '\n')
        else if isBlank c then go fuel (i + 1) false
        else if c == '#' then go fuel (i + 1) true
        else i

def startsAt (src : Array Char) (i : Nat) (s : String) : Bool :=
  slice src i (i + s.length) == s.toList

/-- The ASCII classes that `[:name:]` names inside a bracketed class, as ranges. -/
def asciiClass? (name : String) : Option (List (Char × Char)) :=
  match name with
  | "alnum" => some [('0', '9'), ('A', 'Z'), ('a', 'z')]
  | "alpha" => some [('A', 'Z'), ('a', 'z')]
  | "ascii" => some [('\x00', '\x7F')]
  | "blank" => some [('\t', '\t'), (' ', ' ')]
  | "cntrl" => some [('\x00', '\x1F'), ('\x7F', '\x7F')]
  | "digit" => some [('0', '9')]
  | "graph" => some [('!', '~')]
  | "lower" => some [('a', 'z')]
  | "print" => some [(' ', '~')]
  | "punct" => some [('!', '/'), (':', '@'), ('[', '\x60'), ('\x7B', '~')]
  | "space" => some [('\t', '\r'), (' ', ' ')]
  | "upper" => some [('A', 'Z')]
  | "word" => some [('0', '9'), ('A', 'Z'), ('a', 'z'), ('_', '_')]
  | "xdigit" => some [('0', '9'), ('A', 'F'), ('a', 'f')]
  | _ => none

/-- The Perl class a letter names, and whether it is the complement (capital letter). -/
def perlClass? : Char → Option (PerlKind × Bool)
  | 'd' => some (.digit, false)
  | 's' => some (.space, false)
  | 'w' => some (.word, false)
  | 'D' => some (.digit, true)
  | 'S' => some (.space, true)
  | 'W' => some (.word, true)
  | _ => none

/-- What an escape or a plain character stands for, before it is placed in a sequence or a
class. -/
inductive Primitive where
  | literal (lit : Literal)
  | assertion (span : Span) (kind : AssertionKind)
  | perl (span : Span) (kind : PerlKind) (negated : Bool)
  | unicode (span : Span) (negated : Bool) (query : PropertyQuery)
  deriving Inhabited

def Primitive.span : Primitive → Span
  | .literal lit => lit.span
  | .assertion s _ | .perl s _ _ | .unicode s _ _ => s

def Primitive.ast : Primitive → Ast
  | .literal lit => .literal lit
  | .assertion s k => .assertion s k
  | .perl s k n => .perlClass s k n
  | .unicode s n q => .unicodeClass s n q

/-- Read the hexadecimal digits of `{digits}` from `i`, blanks and comments skipped under the
flag `x`: the digits and the index of the closing brace, or the end of the text. -/
def readBracedDigits (src : Array Char) (verbose : Bool) :
    Nat → Nat → List Char → Except SyntaxError (List Char × Nat)
  | 0, i, acc => .ok (acc.reverse, i)
  | fuel + 1, i, acc =>
    match src[i]? with
    | none => .ok (acc.reverse, i)
    | some '}' => .ok (acc.reverse, i)
    | some c =>
      if (hexValue? c).isSome then
        readBracedDigits src verbose fuel (skipSpace src verbose (i + 1)) (c :: acc)
      else fault .escapeHexInvalidDigit i (i + 1)

/-- Read `count` hexadecimal digits from `i`, blanks and comments skipped under the flag `x`
after each: the digits and the index after the last one and what follows it. -/
def readFixedDigits (src : Array Char) (verbose : Bool) :
    Nat → Nat → List Char → Except SyntaxError (List Char × Nat)
  | 0, i, acc => .ok (acc.reverse, i)
  | count + 1, i, acc =>
    match src[i]? with
    | none => fault .escapeUnexpectedEof i i
    | some c =>
      if (hexValue? c).isSome then
        readFixedDigits src verbose count (skipSpace src verbose (i + 1)) (c :: acc)
      else fault .escapeHexInvalidDigit i (i + 1)

/-- The character with the code point that hexadecimal digits spell, when it is a 32-bit number
naming a Unicode scalar value. -/
def hexScalar? (digits : List Char) : Option Char :=
  let n := hexNumber digits
  if n < UInt32.size then scalar? n else none

/-- Read a hexadecimal escape whose backslash stands at `start` and whose digits start at `k`:
`{digits}`, or exactly `width` digits. Under the flag `x` blanks and comments may stand between
the digits and after the escape, and belong to it. -/
def readHex (src : Array Char) (verbose : Bool) (start k width : Nat) :
    Except SyntaxError (Primitive × Nat) := do
  let sp := skipSpace src verbose
  match src[k]? with
  | none => fault .escapeUnexpectedEof k k
  | some '{' =>
    let (digits, close) ← readBracedDigits src verbose (src.size + 1) (sp (k + 1)) []
    if close ≥ src.size then fault .escapeUnexpectedEof k close
    else
      let after := sp (close + 1)
      if digits.isEmpty then fault .escapeHexEmpty k after
      else
        match hexScalar? digits with
        | none => fault .escapeHexInvalid (k + 1) close
        | some ch => .ok (.literal { span := ⟨start, after⟩, c := ch }, after)
  | some _ =>
    let (digits, after) ← readFixedDigits src verbose width k []
    match hexScalar? digits with
    | none => fault .escapeHexInvalid k after
    | some ch => .ok (.literal { span := ⟨start, after⟩, c := ch, byte := width == 2 }, after)

/-- The query a class name stands for: `name!=value`, `name:value`, `name=value` or a name. The
first `!=` splits the name; without one the first `:`, and without that the first `=`. -/
def queryOf (name : String) : PropertyQuery :=
  match name.splitOn "!=" with
  | key :: rest@(_ :: _) => .byValue key ("!=".intercalate rest) true
  | _ =>
    let cs := name.toList
    match cs.findIdx? (· == ':') <|> cs.findIdx? (· == '=') with
    | some i => .byValue (String.ofList (cs.take i)) (String.ofList (cs.drop (i + 1))) false
    | none => .named name

/-- The characters of a braced class name from `k` up to the closing brace, blanks and comments
skipped under the flag `x`: the name and the index of the brace, if there is one. -/
def readBraced (src : Array Char) (verbose : Bool) (k : Nat) : List Char × Option Nat :=
  go (src.size + 1) (skipSpace src verbose (k + 1)) []
where
  go : Nat → Nat → List Char → List Char × Option Nat
    | 0, i, acc => (acc.reverse, if src[i]? == some '}' then some i else none)
    | fuel + 1, i, acc =>
      match src[i]? with
      | none => (acc.reverse, none)
      | some '}' => (acc.reverse, some i)
      | some c => go fuel (skipSpace src verbose (i + 1)) (c :: acc)

/-- Read a Unicode class escape whose backslash stands at `start` and whose name starts at `k`,
the complement for `\P`. -/
def readProperty (src : Array Char) (verbose : Bool) (start k : Nat) (capital : Bool) :
    Except SyntaxError (Primitive × Nat) :=
  let k := skipSpace src verbose k
  match src[k]? with
  | none => fault .escapeUnexpectedEof k k
  | some '{' =>
    match readBraced src verbose k with
    | (_, none) => fault .escapeUnexpectedEof src.size src.size
    | (name, some close) =>
      let query := queryOf (String.ofList name)
      .ok (.unicode ⟨start, close + 1⟩ capital query, close + 1)
  | some '\\' => fault .unicodeClassInvalid k (k + 1)
  | some c =>
    let next := skipSpace src verbose (k + 1)
    .ok (.unicode ⟨start, next⟩ capital (.oneLetter c), next)

def isBoundaryNameChar (c : Char) : Bool :=
  ('A' ≤ c && c ≤ 'Z') || ('a' ≤ c && c ≤ 'z') || c == '-'

/-- Read `{start}`, `{end}`, `{start-half}` or `{end-half}` after `\b`, the backslash at `start`
and the brace at `brace`: the assertion and the index after the closing brace, or none when the
brace starts a counted repetition instead. -/
def readSpecialBoundary (src : Array Char) (verbose : Bool) (start brace : Nat) :
    Except SyntaxError (Option (AssertionKind × Nat)) :=
  let sp := skipSpace src verbose
  let first := sp (brace + 1)
  match src[first]? with
  | none => fault .specialWordOrRepetitionUnexpectedEof start src.size
  | some c =>
    if !isBoundaryNameChar c then .ok none
    else
      let (name, stop) := go (src.size + 1) first []
      if src[stop]? != some '}' then fault .specialWordBoundaryUnclosed brace stop
      else
        match String.ofList name with
        | "start" => .ok (some (.wordStart, stop + 1))
        | "end" => .ok (some (.wordEnd, stop + 1))
        | "start-half" => .ok (some (.wordStartHalf, stop + 1))
        | "end-half" => .ok (some (.wordEndHalf, stop + 1))
        | _ => fault .specialWordBoundaryUnrecognized first stop
where
  /-- Gather the name's characters from `i`: the name and the index after it. -/
  go : Nat → Nat → List Char → List Char × Nat
    | 0, i, acc => (acc.reverse, i)
    | fuel + 1, i, acc =>
      match src[i]? with
      | some c =>
        if isBoundaryNameChar c then go fuel (skipSpace src verbose (i + 1)) (c :: acc)
        else (acc.reverse, i)
      | none => (acc.reverse, i)

def readEscape (src : Array Char) (verbose : Bool) (start : Nat) :
    Except SyntaxError (Primitive × Nat) :=
  let j := start + 1
  match src[j]? with
  | none => fault .escapeUnexpectedEof start j
  | some c =>
    if c.isDigit then fault .unsupportedBackreference start (j + 1)
    else if c == 'x' then readHex src verbose start (skipSpace src verbose (j + 1)) 2
    else if c == 'u' then readHex src verbose start (skipSpace src verbose (j + 1)) 4
    else if c == 'U' then readHex src verbose start (skipSpace src verbose (j + 1)) 8
    else if c == 'p' || c == 'P' then readProperty src verbose start (j + 1) (c == 'P')
    else
      let next := j + 1
      let span : Span := ⟨start, next⟩
      let lit (ch : Char) : Except SyntaxError (Primitive × Nat) :=
        .ok (.literal { span, c := ch }, next)
      let assert (kind : AssertionKind) : Except SyntaxError (Primitive × Nat) :=
        .ok (.assertion span kind, next)
      match perlClass? c with
      | some (kind, negated) => .ok (.perl span kind negated, next)
      | none =>
        if isEscapeable c then lit c
        else match c with
          | 'a' => lit '\x07'
          | 'f' => lit '\x0C'
          | 't' => lit '\t'
          | 'n' => lit '\n'
          | 'r' => lit '\r'
          | 'v' => lit '\x0B'
          | 'A' => assert .startText
          | 'z' => assert .endText
          | 'b' =>
            if src[next]? == some '{' then do
              match ← readSpecialBoundary src verbose start next with
              | some (kind, after) => .ok (.assertion ⟨start, after⟩ kind, after)
              | none => assert .wordBoundary
            else assert .wordBoundary
          | 'B' => assert .notWordBoundary
          | '<' => assert .wordStart
          | '>' => assert .wordEnd
          | _ => fault .escapeUnrecognized start next

/-- Read one member of a bracketed class at `j`: an escape or a plain character. -/
def readClassPiece (src : Array Char) (verbose : Bool) (j : Nat) :
    Except SyntaxError (Primitive × Nat) :=
  match src[j]? with
  | some '\\' => readEscape src verbose j
  | some c => .ok (.literal { span := ⟨j, j + 1⟩, c }, j + 1)
  | none => fault .classUnclosed j j

/-- The class member a primitive stands for; an assertion has no place in a class. -/
def Primitive.member : Primitive → Except SyntaxError ClassItem
  | .literal lit => .ok (.literal lit)
  | .perl s k n => .ok (.perl s k n)
  | .unicode s n q => .ok (.unicode s n q)
  | .assertion s _ => .error { fault := .classEscapeInvalid, span := s }

/-- The literal a range bound stands for; only a single character can bound a range. -/
def Primitive.bound : Primitive → Except SyntaxError Literal
  | .literal lit => .ok lit
  | p => .error { fault := .classRangeLiteral, span := p.span }

/-- The character after the one at `i`. Under the flag `x` the look goes past blanks and past
the `#` that opens a comment, but not past the comment's text: it finds the first later character
that is neither blank nor the first `#`, or, when there is none, the very next character. -/
def peekSpace (src : Array Char) (verbose : Bool) (i : Nat) : Option Char :=
  if !verbose then src[i + 1]?
  else if i ≥ src.size then none
  else go (src.size + 1) (i + 1) false
where
  go : Nat → Nat → Bool → Option Char
    | 0, _, _ => src[i + 1]?
    | fuel + 1, j, hashSeen =>
      match src[j]? with
      | none => src[i + 1]?
      | some c =>
        if isBlank c then go fuel (j + 1) hashSeen
        else if !hashSeen && c == '#' then go fuel (j + 1) true
        else some c

/-- Read a class member or a range `a-z` at `j`, inside a class opened over `opening`. -/
def readRange (src : Array Char) (verbose : Bool) (opening : Span) (j : Nat) :
    Except SyntaxError (ClassItem × Nat) := do
  let sp := skipSpace src verbose
  let (first, k) ← readClassPiece src verbose j
  let k' := sp k
  if k' ≥ src.size then throw { fault := .classUnclosed, span := opening }
  let after := peekSpace src verbose k'
  if src[k']? != some '-' || after == some ']' || after == some '-' then
    let item ← first.member
    return (item, k')
  let m := sp (k' + 1)
  if m ≥ src.size then throw { fault := .classUnclosed, span := opening }
  let (second, stop) ← readClassPiece src verbose m
  let lo ← first.bound
  let hi ← second.bound
  let span : Span := ⟨lo.span.start, hi.span.stop⟩
  if hi.c < lo.c then .error { fault := .classRangeInvalid, span }
  else return (.range span lo hi, stop)

def readAsciiClass (src : Array Char) (j : Nat) : Option (ClassItem × Nat) :=
  if src[j + 1]? != some ':' || j + 2 ≥ src.size then none
  else
    let (negated, k) := if src[j + 2]? == some '^' then (true, j + 3) else (false, j + 2)
    if k ≥ src.size then none
    else
      let colon := scanWhile src (· != ':') k
      if src[colon]? != some ':' || src[colon + 1]? != some ']' then none
      else
        match asciiClass? (String.ofList (slice src k colon)) with
        | some ranges => some (.ascii ⟨j, colon + 2⟩ ranges negated, colon + 2)
        | none => none

/-- The columns of members read, given where they would start when there are none. -/
def unionSpan (start : Nat) (items : List ClassItem) : Span :=
  match items.head?, items.getLast? with
  | some a, some b => ⟨a.span.start, b.span.stop⟩
  | _, _ => ⟨start, start⟩

def combine (pending : Option (Span × SetOp × ClassSet)) (rhs : ClassSet) : ClassSet :=
  match pending with
  | some (lhsSpan, op, lhs) => .op ⟨lhsSpan.start, rhs.span.stop⟩ op lhs rhs
  | none => rhs

def pendingOf (pending : Option (Span × SetOp × ClassSet)) (rhs : ClassSet) :
    Span × ClassSet :=
  let s := combine pending rhs
  (s.span, s)

mutual

/-- Read a bracketed class whose `[` stands at `start`: the class and the index after its `]`. -/
def readClass (src : Array Char) (verbose : Bool) :
    Nat → Nat → Except SyntaxError (Ast × Nat)
  | 0, start => fault .classUnclosed start start
  | fuel + 1, start => do
    let sp := skipSpace src verbose
    let j := sp (start + 1)
    if j ≥ src.size then fault .classUnclosed start j
    else
      let (negated, j) := if src[j]? == some '^' then (true, sp (j + 1)) else (false, j)
      if j ≥ src.size then fault .classUnclosed start j
      else
        let unionStart := j
        let (items, j) ← readDashes src verbose start (src.size + 1) [] j
        let (items, j) ←
          if items.isEmpty && src[j]? == some ']' then
            let j' := sp (j + 1)
            if j' ≥ src.size then fault .classUnclosed start j'
            else pure ([ClassItem.literal { span := ⟨j, j + 1⟩, c := ']' }], j')
          else pure (items, j)
        let (set, stop) ← readMembers src verbose fuel ⟨start, j⟩ none unionStart items j
        return (.bracketed ⟨start, stop⟩ negated set, stop)

def readDashes (src : Array Char) (verbose : Bool) (start : Nat) :
    Nat → List ClassItem → Nat → Except SyntaxError (List ClassItem × Nat)
  | 0, items, j => .ok (items, j)
  | fuel + 1, items, j =>
    if src[j]? == some '-' then
      let j' := skipSpace src verbose (j + 1)
      if j' ≥ src.size then fault .classUnclosed start start
      else readDashes src verbose start fuel (.literal { span := ⟨j, j + 1⟩, c := '-' } :: items) j'
    else .ok (items, j)

/-- Read the members of a class up to its `]`, with the operand waiting for a set operation;
`items` are the members of the current union, most recent first, and `unionStart` where it
began. -/
def readMembers (src : Array Char) (verbose : Bool) :
    Nat → Span → Option (Span × SetOp × ClassSet) → Nat → List ClassItem → Nat →
      Except SyntaxError (ClassSet × Nat)
  | 0, opening, _, _, _, _ => .error { fault := .classUnclosed, span := opening }
  | fuel + 1, opening, pending, unionStart, items, j0 =>
    let j := skipSpace src verbose j0
    let union := fun (_ : Unit) =>
      ClassSet.item (unionOf (unionSpan unionStart items.reverse) items.reverse)
    let operand := fun (op : SetOp) =>
      let (lhsSpan, lhs) := pendingOf pending (union ())
      readMembers src verbose fuel opening (some (lhsSpan, op, lhs)) (j + 2) [] (j + 2)
    match src[j]?, src[j + 1]? with
    | none, _ => .error { fault := .classUnclosed, span := opening }
    | some ']', _ => .ok (combine pending (union ()), j + 1)
    | some '&', some '&' => operand .inter
    | some '-', some '-' => operand .diff
    | some '~', some '~' => operand .symm
    | some '[', _ =>
      match readAsciiClass src j with
      | some (item, next) => readMembers src verbose fuel opening pending unionStart (item :: items) next
      | none => do
        let (inner, next) ← readClass src verbose fuel j
        let item := match inner with
          | .bracketed s n set => ClassItem.bracketed s n set
          | _ => ClassItem.empty ⟨j, next⟩
        readMembers src verbose fuel opening pending unionStart (item :: items) next
    | some _, _ => do
      let (item, next) ← readRange src verbose opening j
      readMembers src verbose fuel opening pending unionStart (item :: items) next

end

/-- Read the flag letters of `(?flags)` or `(?flags:` from `i` up to the `:` or `)`: the flags
set, in order, and the index of the `:` or `)`. `seen` holds the flags met with their columns,
`negation` the column of the `-` if there was one, `dangling` the column of a `-` that no flag has
followed yet. -/
def readFlags (src : Array Char) :
    Nat → Nat → List FlagItem → List (FlagName × Nat) → Option Nat → Option Nat → Nat →
      Except SyntaxError (List FlagItem × Nat × Nat)
  | 0, i, _, _, _, _, _ => fault .flagUnexpectedEof i i
  | fuel + 1, i, items, seen, negation, dangling, count =>
    match src[i]? with
    | none => fault .flagUnexpectedEof i i
    | some c =>
      if c == ':' || c == ')' then
        match dangling with
        | some d => fault .flagDanglingNegation d (d + 1)
        | none => .ok (items.reverse, count, i)
      else
        let next (items : List FlagItem) seen negation dangling :=
          if i + 1 ≥ src.size then fault .flagUnexpectedEof (i + 1) (i + 1)
          else readFlags src fuel (i + 1) items seen negation dangling (count + 1)
        if c == '-' then
          match negation with
          | some first =>
            .error { fault := .flagRepeatedNegation, span := ⟨i, i + 1⟩,
                     earlier := some ⟨first, first + 1⟩ }
          | none => next items seen (some i) (some i)
        else
          match FlagName.ofChar? c with
          | none => fault .flagUnrecognized i (i + 1)
          | some name =>
            match seen.find? (·.1 == name) with
            | some (_, first) =>
              .error { fault := .flagDuplicate, span := ⟨i, i + 1⟩,
                       earlier := some ⟨first, first + 1⟩ }
            | none => next (⟨name, negation.isNone⟩ :: items) ((name, i) :: seen) negation none

def verboseAfter (verbose : Bool) (items : List FlagItem) : Bool :=
  items.foldl (fun v item => if item.name == .verbose then item.on else v) verbose

def isAlphabetic (c : Char) : Bool :=
  if c.toNat < 0x80 then c.isAlpha else memRanges alphabeticRanges c.toNat

def isNameChar (c : Char) (first : Bool) : Bool :=
  c == '_' || (if first then isAlphabetic c
    else c == '.' || c == '[' || c == ']' || isAlphanumeric c)

/-- The state of reading: where the next character is, whether the flag `x` is in force, and the
capture groups opened so far with their names. -/
structure Reading where
  pos : Nat
  verbose : Bool
  groups : Nat
  names : List (String × Nat × Span)

/-- Read a group's name starting at `k` (after `<`); answer the name, its columns and the index
after the `>`. -/
def readGroupName (src : Array Char) (r : Reading) (k : Nat) :
    Except SyntaxError (String × Span × Nat) :=
  if k ≥ src.size then fault .groupNameUnexpectedEof k k
  else
    let stop := go (src.size + 1) k
    match src[stop]? with
    | none => fault .groupNameUnexpectedEof stop stop
    | some '>' =>
      let name := String.ofList (slice src k stop)
      if name.isEmpty then fault .groupNameEmpty k k
      else match r.names.find? (·.1 == name) with
        | some (_, _, first) =>
          .error { fault := .groupNameDuplicate, span := ⟨k, stop⟩, earlier := some first }
        | none => .ok (name, ⟨k, stop⟩, stop + 1)
    | some _ => fault .groupNameInvalid stop (stop + 1)
where
  /-- The index of the `>`, of the first character that may not stand in a name, or the end. -/
  go : Nat → Nat → Nat
    | 0, i => i
    | fuel + 1, i =>
      match src[i]? with
      | some '>' => i
      | some c => if isNameChar c (i == k) then go fuel (i + 1) else i
      | none => i

/-- What an opening parenthesis starts. -/
inductive GroupHead where
  /-- `(?flags)`: flags in force from here to the end of the enclosing group. -/
  | setFlags (items : List FlagItem) (next : Nat)
  /-- A group of some kind whose inside starts at `next`, read with `verbose`. -/
  | opens (kind : GroupKind) (verbose : Bool) (next : Nat) (r : Reading)

def readGroupHead (src : Array Char) (r : Reading) (i : Nat) : Except SyntaxError GroupHead := do
  let j := skipSpace src r.verbose (i + 1)
  if startsAt src j "?=" || startsAt src j "?!" then fault .unsupportedLookAround i (j + 2)
  else if startsAt src j "?<=" || startsAt src j "?<!" then fault .unsupportedLookAround i (j + 3)
  else if startsAt src j "?P<" || startsAt src j "?<" then
    let k := if startsAt src j "?P<" then j + 3 else j + 2
    let index := r.groups + 1
    let (name, span, next) ← readGroupName src r k
    return .opens (.capture index) r.verbose next
      { r with groups := index, names := r.names ++ [(name, index, span)] }
  else if src[j]? == some '?' then
    if j + 1 ≥ src.size then fault .groupUnclosed i (i + 1)
    else
      let (items, count, k) ← readFlags src (src.size + 1) (j + 1) [] [] none none 0
      if src[k]? == some ')' then
        if count > 0 then return .setFlags items (k + 1) else fault .repetitionMissing j j
      else return .opens (.plain items) (verboseAfter r.verbose items) (k + 1) r
  else
    let index := r.groups + 1
    return .opens (.capture index) r.verbose j { r with groups := index }

/-- Apply a repetition to the last item; the operator stands at `i` and the repetition ends at
`stop`. -/
def repeatLast (items : List Ast) (i stop : Nat) (kind : RepetitionKind) (greedy : Bool) :
    Except SyntaxError (List Ast) :=
  match items with
  | .flags _ _ :: _ | [] => fault .repetitionMissing i i
  | a :: rest => .ok (.repetition ⟨a.span.start, stop⟩ kind greedy a :: rest)

/-- Read the digits of a count from `i`, blanks and comments skipped under the flag `x` after
each: the digits and the index after them. -/
def readCountDigits (src : Array Char) (verbose : Bool) :
    Nat → Nat → List Char → List Char × Nat
  | 0, i, acc => (acc.reverse, i)
  | fuel + 1, i, acc =>
    match src[i]? with
    | some c =>
      if c.isDigit then readCountDigits src verbose fuel (skipSpace src verbose (i + 1)) (c :: acc)
      else (acc.reverse, i)
    | none => (acc.reverse, i)

def skipCountBlanks (src : Array Char) (verbose : Bool) : Nat → Nat → Nat
  | 0, i => i
  | fuel + 1, i =>
    match src[i]? with
    | some c => if isBlank c then skipCountBlanks src verbose fuel (skipSpace src verbose (i + 1)) else i
    | none => i

/-- Read a decimal count at `j`: blanks before it are skipped (comments are not), and under the
flag `x` blanks and comments may stand between its digits. Answer the count or its fault, and the
index after the blanks that follow it. -/
def readCount (src : Array Char) (verbose : Bool) (j : Nat) : Except SyntaxError Nat × Nat :=
  let a := scanWhile src isBlank j
  let (digits, b) := readCountDigits src verbose (src.size + 1) a []
  let c := skipCountBlanks src verbose (src.size + 1) b
  if digits.isEmpty then (fault .repetitionCountDecimalEmpty a b, c)
  else
    let n := digits.foldl (fun acc d => acc * 10 + (d.toNat - '0'.toNat)) 0
    if n < UInt32.size then (.ok n, c) else (fault .decimalInvalid a b, c)

/-- Read a counted repetition `{n}`, `{n,}` or `{n,m}` whose brace stands at `i`: its bounds,
whether it is greedy, and the index after it. -/
def readCounted (src : Array Char) (verbose : Bool) (i : Nat) :
    Except SyntaxError (RepetitionKind × Bool × Nat) := do
  let sp := skipSpace src verbose
  let j := sp (i + 1)
  if j ≥ src.size then fault .repetitionCountUnclosed i j
  else
    let (low?, j) := readCount src verbose j
    if j ≥ src.size then fault .repetitionCountUnclosed i j
    else
      let (low, high, j) ←
        if src[j]? == some ',' then
          let j := sp (j + 1)
          if j ≥ src.size then fault .repetitionCountUnclosed i j
          else if src[j]? != some '}' then do
            let low ← low?
            let (high?, j) := readCount src verbose j
            let high ← high?
            pure (low, some high, j)
          else do
            let low ← low?
            pure (low, none, j)
        else do
          let low ← low?
          pure (low, some low, j)
      if src[j]? != some '}' then fault .repetitionCountUnclosed i j
      else
        let k := sp (j + 1)
        let (greedy, k) := if src[k]? == some '?' then (false, sp (k + 1)) else (true, k)
        match high with
        | some h =>
          if h < low then fault .repetitionCountInvalid i k
          else return (.range low high, greedy, k)
        | none => return (.range low high, greedy, k)

/-- Where the sequence being read began, and the branches before it with where the first of
them began. -/
structure Frame where
  concatStart : Nat
  altStart : Nat
  branches : List Ast

/-- Read the branches of a group, or of the whole pattern when `opening` is none, up to its
closing parenthesis (consumed) or the end of the text. `items` are the items of the current
branch, most recent first. -/
def readSeq (src : Array Char) :
    Nat → Option Span → Reading → Frame → List Ast → Except SyntaxError (Ast × Reading)
  | 0, _, r, _, _ => fault .groupUnclosed r.pos r.pos
  | fuel + 1, opening, r0, frame, items =>
    let i := skipSpace src r0.verbose r0.pos
    let r := { r0 with pos := i }
    let push (a : Ast) (next : Nat) :=
      readSeq src fuel opening { r with pos := next } frame (a :: items)
    let finish (stop : Nat) : Ast :=
      let last := concatOf ⟨frame.concatStart, stop⟩ items.reverse
      match frame.branches with
      | [] => last
      | bs => alternationOf ⟨frame.altStart, stop⟩ (bs.reverse ++ [last])
    let uncounted (kind : RepetitionKind) : Except SyntaxError (Ast × Reading) := do
      let (greedy, next) := if src[i + 1]? == some '?' then (false, i + 2) else (true, i + 1)
      let items ← repeatLast items i next kind greedy
      readSeq src fuel opening { r with pos := next } frame items
    match src[i]? with
    | none =>
      match opening with
      | some span => .error { fault := .groupUnclosed, span }
      | none => .ok (finish i, r)
    | some ')' =>
      match opening with
      | none => fault .groupUnopened i (i + 1)
      | some _ => .ok (finish i, { r with pos := i + 1 })
    | some '|' =>
      let branch := concatOf ⟨frame.concatStart, i⟩ items.reverse
      let frame' : Frame :=
        { concatStart := i + 1
          altStart := if frame.branches.isEmpty then frame.concatStart else frame.altStart
          branches := branch :: frame.branches }
      readSeq src fuel opening { r with pos := i + 1 } frame' []
    | some '(' => do
      match ← readGroupHead src r i with
      | .setFlags flagItems next =>
        readSeq src fuel opening { r with pos := next, verbose := verboseAfter r.verbose flagItems }
          frame (.flags ⟨i, next⟩ flagItems :: items)
      | .opens kind inner next r' =>
        let (body, r'') ← readSeq src fuel (some ⟨i, i + 1⟩) { r' with pos := next, verbose := inner }
          { concatStart := next, altStart := next, branches := [] } []
        readSeq src fuel opening { r'' with verbose := r.verbose } frame
          (.group ⟨i, r''.pos⟩ kind body :: items)
    | some '[' => do
      let (cls, next) ← readClass src r.verbose (src.size + 1) i
      push cls next
    | some '?' => uncounted .zeroOrOne
    | some '*' => uncounted .zeroOrMore
    | some '+' => uncounted .oneOrMore
    | some '{' =>
      match items with
      | .flags _ _ :: _ | [] => fault .repetitionMissing i i
      | _ => do
        let (kind, greedy, next) ← readCounted src r.verbose i
        let items ← repeatLast items i next kind greedy
        readSeq src fuel opening { r with pos := next } frame items
    | some '.' => push (.dot ⟨i, i + 1⟩) (i + 1)
    | some '^' => push (.assertion ⟨i, i + 1⟩ .startLine) (i + 1)
    | some '$' => push (.assertion ⟨i, i + 1⟩ .endLine) (i + 1)
    | some '\\' => do
      let (p, next) ← readEscape src r.verbose i
      push p.ast next
    | some c => push (.literal { span := ⟨i, i + 1⟩, c }) (i + 1)

/-- A pattern read: its tree, the number of its capture groups and their names with indices. -/
structure Parsed where
  ast : Ast
  groups : Nat
  names : List (String × Nat)

/-- Read pattern text into its tree, or the first fault of its form; a tree nested deeper than
the limit is a fault too. -/
def readPattern (text : String) : Except SyntaxError Parsed := do
  let src := text.toList.toArray
  let start : Reading := { pos := 0, verbose := false, groups := 0, names := [] }
  let (ast, r) ← readSeq src (2 * src.size + 2) none start
    { concatStart := 0, altStart := 0, branches := [] } []
  match ast.nestFault? 0 with
  | some e => throw e
  | none => return { ast, groups := r.groups, names := r.names.map fun (n, i, _) => (n, i) }

end CssBundle.Regex
