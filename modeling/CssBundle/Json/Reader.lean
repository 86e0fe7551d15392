import CssBundle.Json.Value

/-!
# Reading JSON text

The reader turns a JSON text into a `Doc`: the values it holds, each with the byte index where it
ends, in the order they are written. Where the text goes wrong the `Doc` holds the fault in place
of the rest, so that a reader of typed records, which walks the `Doc` in text order, reports the
first problem in text order, whether it is a fault of the text or a value of the wrong type.

Faults are reported at a byte index. A fault found on a character already taken is reported just
after it; a fault found by looking at the next character is reported one byte past the current
index, or at the end of the text when there is nothing left. Containers nest at most 127 deep.

A value that is skipped rather than read is held to fewer rules: its numbers may be of any size,
its `\u` escapes need not pair surrogates, and its containers may nest without limit. Where only
the full rules fail, the `Doc` holds the value as a skip reads it beside the fault.
-/

namespace CssBundle.Json

/-- A fault of a JSON text. -/
inductive Fault where
  | eofList
  | eofObject
  | eofString
  | eofValue
  | expectedColon
  | expectedListCommaOrEnd
  | expectedObjectCommaOrEnd
  | expectedIdent
  | expectedValue
  | invalidEscape
  | invalidNumber
  | numberOutOfRange
  | controlCharacter
  | keyMustBeString
  | loneLeadingSurrogate
  | trailingComma
  | trailingCharacters
  | unexpectedEndOfHexEscape
  | recursionLimit
  deriving Repr, BEq, DecidableEq, Inhabited

def Fault.message : Fault → String
  | .eofList => "EOF while parsing a list"
  | .eofObject => "EOF while parsing an object"
  | .eofString => "EOF while parsing a string"
  | .eofValue => "EOF while parsing a value"
  | .expectedColon => "expected `:`"
  | .expectedListCommaOrEnd => "expected `,` or `]`"
  | .expectedObjectCommaOrEnd => "expected `,` or `\x7d`"
  | .expectedIdent => "expected ident"
  | .expectedValue => "expected value"
  | .invalidEscape => "invalid escape"
  | .invalidNumber => "invalid number"
  | .numberOutOfRange => "number out of range"
  | .controlCharacter => "control character (\\u0000-\\u001F) found while parsing a string"
  | .keyMustBeString => "key must be a string"
  | .loneLeadingSurrogate => "lone leading surrogate in hex escape"
  | .trailingComma => "trailing comma"
  | .trailingCharacters => "trailing characters"
  | .unexpectedEndOfHexEscape => "unexpected end of hex escape"
  | .recursionLimit => "recursion limit exceeded"

/-- A fault with the byte index where it is reported. -/
structure Failure where
  fault : Fault
  index : Nat
  deriving Repr, BEq, DecidableEq, Inhabited

/-- How a container ends: closed, with the byte index after its closing bracket, or broken. -/
inductive Ending where
  | closed (stop : Nat)
  | broken (f : Failure)
  deriving Repr, Inhabited

/-- A JSON text as read: scalars with the index where they end, containers with the index of
their opening bracket, object members with the index after their key and the blanks that follow
it, and a fault in place of whatever could not be read. -/
inductive Doc where
  /-- A null, boolean, number or string. -/
  | leaf (v : Value) (stop : Nat)
  | arr (start : Nat) (items : List Doc) (ending : Ending)
  | obj (start : Nat) (members : List (String × Nat × Doc)) (ending : Ending)
  | broken (f : Failure)
  /-- A value refused by the full rules with `f`, and as read when it is only skipped. -/
  | rejected (f : Failure) (skipped : Doc)
  deriving Repr, Inhabited

def Doc.stop? : Doc → Option Failure
  | .broken f => some f
  | .rejected _ (.broken f) => some f
  | _ => none

/-- A whole text as read: its value and, after it, the fault of any text that follows. -/
structure Document where
  root : Doc
  trailing : Option Failure
  deriving Repr, Inhabited

/-- JSON's blanks: space, tab, line feed and carriage return. -/
def isJsonBlank (c : Char) : Bool := c = ' ' || c = '\t' || c = '\n' || c = '\r'

def skipBlank : List Char → Nat → List Char × Nat
  | c :: cs, i => if isJsonBlank c then skipBlank cs (i + 1) else (c :: cs, i)
  | [], i => ([], i)

def hexValue (c : Char) : Option Nat :=
  let n := c.toNat
  if 48 ≤ n ∧ n ≤ 57 then some (n - 48)
  else if 65 ≤ n ∧ n ≤ 70 then some (n - 55)
  else if 97 ≤ n ∧ n ≤ 102 then some (n - 87)
  else none

def isDigit (c : Char) : Bool := '0' ≤ c && c ≤ '9'

section Reading

variable (total : Nat)

/-- The index at which a fault found by looking at the next character is reported. -/
def peekIndex (i : Nat) : Nat := min total (i + 1)

/-- Reads the four hexadecimal digits of a `\u` escape that start at byte `i`. -/
def readHex4 (cs : List Char) (i : Nat) : Except Failure (Nat × List Char × Nat) :=
  if total < i + 4 then .error ⟨.eofString, total⟩ else
  match cs with
  | a :: b :: c :: d :: rest =>
    match hexValue a, hexValue b, hexValue c, hexValue d with
    | some w, some x, some y, some z => .ok (((w * 16 + x) * 16 + y) * 16 + z, rest, i + 4)
    | _, _, _, _ => .error ⟨.invalidEscape, i + 4⟩
  | _ => .error ⟨.invalidEscape, i + 4⟩

/-- Reads a `\u` escape whose four digits start at byte `i`, and the second half of a surrogate
pair when the first half asks for one. -/
def readUnicodeEscape (cs : List Char) (i : Nat) : Except Failure (Char × List Char × Nat) := do
  let (n, rest, j) ← readHex4 total cs i
  if 0xDC00 ≤ n ∧ n ≤ 0xDFFF then throw ⟨.loneLeadingSurrogate, j⟩
  if n < 0xD800 ∨ 0xDBFF < n then return (Char.ofNat n, rest, j)
  match rest with
  | [] => throw ⟨.eofString, total⟩
  | '\\' :: rest =>
    match rest with
    | [] => throw ⟨.eofString, total⟩
    | 'u' :: rest =>
      let (m, rest, k) ← readHex4 total rest (j + 2)
      if m < 0xDC00 ∨ 0xDFFF < m then throw ⟨.loneLeadingSurrogate, k⟩
      return (Char.ofNat (((n - 0xD800) * 1024 + (m - 0xDC00)) + 0x10000), rest, k)
    | _ :: _ => throw ⟨.unexpectedEndOfHexEscape, j + 2⟩
  | _ :: _ => throw ⟨.unexpectedEndOfHexEscape, j + 1⟩

/-- Reads the rest of a string whose opening quote is already taken; `i` is the byte index of
the next character. Returns the string, the text after the closing quote and its index. -/
def readString : Nat → List Char → Nat → List Char → Except Failure (String × List Char × Nat)
  | 0, _, _, _ => .error ⟨.eofString, total⟩
  | _ + 1, [], _, _ => .error ⟨.eofString, total⟩
  | fuel + 1, c :: cs, i, acc =>
    if c = '"' then .ok (String.ofList acc.reverse, cs, i + 1)
    else if c = '\\' then
      match cs with
      | [] => .error ⟨.eofString, total⟩
      | e :: rest =>
        if e = 'u' then
          match readUnicodeEscape total rest (i + 2) with
          | .ok (u, rest, j) => readString fuel rest j (u :: acc)
          | .error f => .error f
        else
          let plain : Option Char :=
            if e = '"' then some '"' else if e = '\\' then some '\\'
            else if e = '/' then some '/' else if e = 'b' then some (Char.ofNat 8)
            else if e = 'f' then some (Char.ofNat 12) else if e = 'n' then some '\n'
            else if e = 'r' then some '\r' else if e = 't' then some '\t' else none
          match plain with
          | some p => readString fuel rest (i + 2) (p :: acc)
          | none => .error ⟨.invalidEscape, i + 2⟩
    else if c.toNat < 0x20 then .error ⟨.controlCharacter, i + 1⟩
    else readString fuel cs (i + c.utf8Size) (c :: acc)

def takeDigits (cs : List Char) : List Char × List Char := (cs.takeWhile isDigit, cs.dropWhile isDigit)

def digitValue (c : Char) : Nat := c.toNat - 48

/-- The largest value of 64 unsigned bits, the bound of the digits a number keeps. -/
def significandLimit : Nat := UInt64.size - 1

/-- The largest value of 32 signed bits, `2 ^ 31 - 1`, the bound of a written exponent. -/
def exponentLimit : Nat := 2147483647

def passes (acc digit limit : Nat) : Bool :=
  acc ≥ limit / 10 && (acc > limit / 10 || digit > limit % 10)

def saturate (x : Int) : Int := max (-2147483648) (min 2147483647 x)

def floatAt (negative : Bool) (significand : Nat) (exponent : Int) (rest : List Char) (i : Nat) :
    Except Failure (Number × List Char × Nat) :=
  match Double.ofParts negative significand exponent with
  | some x => .ok (.float x, rest, i)
  | none => .error ⟨.numberOutOfRange, i⟩

/-- Reads the digits of an exponent after the first, which is `exp`; `positive` tells its sign,
`start` is the exponent the digits before it gave. An exponent past 32 bits is out of range
unless the number is zero or the exponent negative, when the number is zero. -/
def readExponentDigits (negative : Bool) (significand : Nat) (start : Int) (positive : Bool)
    (exp : Nat) : List Char → Nat → Except Failure (Number × List Char × Nat)
  | c :: rest, i =>
    if isDigit c then
      if passes exp (digitValue c) exponentLimit then
        if significand != 0 && positive then .error ⟨.numberOutOfRange, i + 1⟩
        else
          let (ds, rest) := takeDigits rest
          .ok (.float (Double.zero negative), rest, i + 1 + ds.length)
      else readExponentDigits negative significand start positive (exp * 10 + digitValue c) rest (i + 1)
    else
      let e := saturate (if positive then start + exp else start - exp)
      floatAt negative significand e (c :: rest) i
  | [], i =>
    floatAt negative significand (saturate (if positive then start + exp else start - exp)) [] i

/-- Reads the exponent of a number, after its `e`; `start` is the exponent the digits gave. -/
def readExponent (negative : Bool) (significand : Nat) (start : Int) (cs : List Char) (i : Nat) :
    Except Failure (Number × List Char × Nat) :=
  let (positive, cs, i) : Bool × List Char × Nat :=
    match cs with
    | '+' :: rest => (true, rest, i + 1)
    | '-' :: rest => (false, rest, i + 1)
    | _ => (true, cs, i)
  match cs with
  | [] => .error ⟨.eofValue, i⟩
  | c :: rest =>
    if isDigit c then readExponentDigits negative significand start positive (digitValue c) rest (i + 1)
    else .error ⟨.invalidNumber, i + 1⟩

/-- What follows digits that no longer fit: more digits, which are dropped, then an exponent or
the end of the number. -/
def readAfterDropped (negative : Bool) (significand : Nat) (exponent : Int) (cs : List Char)
    (i : Nat) : Except Failure (Number × List Char × Nat) :=
  let (ds, rest) := takeDigits cs
  let i := i + ds.length
  match rest with
  | c :: rest' =>
    if c = 'e' || c = 'E' then readExponent negative significand exponent rest' (i + 1)
    else floatAt negative significand exponent rest i
  | [] => floatAt negative significand exponent rest i

/-- Reads the digits of a fraction, after its point: `after` of them are taken, `before` is the
exponent the integer digits dropped. A digit that no longer fits the significand is dropped with
all that follow. At least one digit must follow the point. -/
def readFraction (negative : Bool) (significand : Nat) (before : Int) (after : Nat) :
    List Char → Nat → Except Failure (Number × List Char × Nat)
  | c :: rest, i =>
    if isDigit c then
      if passes significand (digitValue c) significandLimit then
        readAfterDropped negative significand (before - after) (c :: rest) i
      else readFraction negative (significand * 10 + digitValue c) before (after + 1) rest (i + 1)
    else if after == 0 then .error ⟨.invalidNumber, peekIndex total i⟩
    else if c = 'e' || c = 'E' then readExponent negative significand (before - after) rest (i + 1)
    else floatAt negative significand (before - after) (c :: rest) i
  | [], i =>
    if after == 0 then .error ⟨.eofValue, peekIndex total i⟩
    else floatAt negative significand (before - after) [] i

/-- Reads the integer digits after those that fit: each is dropped and raises the exponent. -/
def readLongInteger (negative : Bool) (significand : Nat) (dropped : Nat) :
    List Char → Nat → Except Failure (Number × List Char × Nat)
  | c :: rest, i =>
    if isDigit c then readLongInteger negative significand (dropped + 1) rest (i + 1)
    else if c = '.' then readFraction total negative significand dropped 0 rest (i + 1)
    else if c = 'e' || c = 'E' then readExponent negative significand dropped rest (i + 1)
    else floatAt negative significand dropped (c :: rest) i
  | [], i => floatAt negative significand dropped [] i

/-- Classifies a number with no fraction and no exponent: a negative zero and a negative number
below `-2 ^ 63` are doubles. -/
def integerNumber (negative : Bool) (m : Nat) : Number :=
  if negative then
    if m = 0 then .float (Double.zero true)
    else if m ≤ 9223372036854775808 then .neg m else .float (Double.ofNat true m)
  else .nat m

/-- Reads what follows the integer digits of a number: a fraction, an exponent, or nothing. -/
def readNumberTail (negative : Bool) (m : Nat) (cs : List Char) (i : Nat) :
    Except Failure (Number × List Char × Nat) :=
  match cs with
  | '.' :: rest => readFraction total negative m 0 0 rest (i + 1)
  | c :: rest =>
    if c = 'e' || c = 'E' then readExponent negative m 0 rest (i + 1)
    else .ok (integerNumber negative m, c :: rest, i)
  | [] => .ok (integerNumber negative m, [], i)

/-- Reads the integer digits of a number after the first, as long as they fit in 64 bits. -/
def readIntegerDigits (negative : Bool) (m : Nat) : List Char → Nat →
    Except Failure (Number × List Char × Nat)
  | c :: rest, i =>
    if isDigit c then
      if passes m (digitValue c) significandLimit then
        readLongInteger total negative m 0 (c :: rest) i
      else readIntegerDigits negative (m * 10 + digitValue c) rest (i + 1)
    else readNumberTail total negative m (c :: rest) i
  | [], i => readNumberTail total negative m [] i

def readNumber (negative : Bool) (cs : List Char) (i : Nat) :
    Except Failure (Number × List Char × Nat) :=
  match cs with
  | [] => .error ⟨.eofValue, i⟩
  | c :: rest =>
    if c = '0' then
      match rest with
      | d :: _ =>
        if isDigit d then .error ⟨.invalidNumber, peekIndex total (i + 1)⟩
        else readNumberTail total negative 0 rest (i + 1)
      | [] => readNumberTail total negative 0 rest (i + 1)
    else if isDigit c then readIntegerDigits total negative (digitValue c) rest (i + 1)
    else .error ⟨.invalidNumber, i + 1⟩

/-- Skips a number from its first digit at byte `i` as a skipped value is read: digits, then an
optional fraction and exponent, of any size. The full reader has already checked its form. -/
def skipNumber (cs : List Char) (i : Nat) : List Char × Nat :=
  let (ds, rest) := takeDigits cs
  let i := i + ds.length
  let (rest, i) : List Char × Nat := match rest with
    | '.' :: r => let (fs, r) := takeDigits r; (r, i + 1 + fs.length)
    | _ => (rest, i)
  match rest with
  | e :: r =>
    if e = 'e' || e = 'E' then
      let (r, i) : List Char × Nat := match r with
        | '+' :: r' => (r', i + 2)
        | '-' :: r' => (r', i + 2)
        | _ => (r, i + 1)
      let (xs, r) := takeDigits r
      (r, i + xs.length)
    else (rest, i)
  | [] => (rest, i)

/-- Skips the rest of a string whose opening quote is taken, as a skipped value is read: a `\u`
escape needs four hexadecimal digits but no surrogate pairing. -/
def skipString : Nat → List Char → Nat → Except Failure (List Char × Nat)
  | 0, _, _ => .error ⟨.eofString, total⟩
  | _ + 1, [], _ => .error ⟨.eofString, total⟩
  | fuel + 1, c :: cs, i =>
    if c = '"' then .ok (cs, i + 1)
    else if c = '\\' then
      match cs with
      | [] => .error ⟨.eofString, total⟩
      | e :: rest =>
        if e = 'u' then
          match readHex4 total rest (i + 2) with
          | .ok (_, rest, j) => skipString fuel rest j
          | .error f => .error f
        else if e = '"' || e = '\\' || e = '/' || e = 'b' || e = 'f' || e = 'n' || e = 'r'
            || e = 't' then skipString fuel rest (i + 2)
        else .error ⟨.invalidEscape, i + 2⟩
    else if c.toNat < 0x20 then .error ⟨.controlCharacter, i + 1⟩
    else skipString fuel cs (i + c.utf8Size)

/-- Whether a fault of a scalar comes only from the full rules, so that a skip reads past it. -/
def Fault.onlyWhenRead : Fault → Bool
  | .numberOutOfRange | .loneLeadingSurrogate | .unexpectedEndOfHexEscape => true
  | _ => false

/-- Skips a scalar from its first character `c` at byte `i`, as a skipped value is read. -/
def skipScalar (c : Char) (cs : List Char) (i : Nat) : Except Failure (List Char × Nat) :=
  if c = '"' then skipString total (cs.length + 1) cs (i + 1)
  else if c = '-' then .ok (skipNumber cs (i + 1))
  else .ok (skipNumber (c :: cs) i)

def readWord : List Char → List Char → Nat → Except Failure (List Char × Nat)
  | [], cs, i => .ok (cs, i)
  | _ :: _, [], i => .error ⟨.eofValue, i⟩
  | w :: ws, c :: cs, i => if w = c then readWord ws cs (i + 1) else .error ⟨.expectedIdent, i + 1⟩

/-- A scalar read from its first character, or `none` when the character starts no scalar. -/
def readScalar (c : Char) (cs : List Char) (i : Nat) :
    Option (Except Failure (Value × List Char × Nat)) :=
  let word (w : List Char) (v : Value) : Except Failure (Value × List Char × Nat) :=
    (readWord w cs (i + 1)).map fun (rest, j) => (v, rest, j)
  if c = 'n' then some (word ['u', 'l', 'l'] .null)
  else if c = 't' then some (word ['r', 'u', 'e'] (.bool true))
  else if c = 'f' then some (word ['a', 'l', 's', 'e'] (.bool false))
  else if c = '-' then some ((readNumber total true cs (i + 1)).map fun (n, r, j) => (.num n, r, j))
  else if isDigit c then
    some ((readNumber total false (c :: cs) i).map fun (n, r, j) => (.num n, r, j))
  else if c = '"' then
    some ((readString total (cs.length + 1) cs (i + 1) []).map fun (s, r, j) => (.str s, r, j))
  else none

def depthLimit : Nat := 127

mutual

/-- Reads one value, skipping the blanks before it; `depth` counts the enclosing containers. -/
def readValue : Nat → Nat → List Char → Nat → Doc × List Char × Nat
  | 0, _, cs, i => (.broken ⟨.eofValue, i⟩, cs, i)
  | fuel + 1, depth, cs, i =>
    let (cs, i) := skipBlank cs i
    match cs with
    | [] => (.broken ⟨.eofValue, total⟩, [], i)
    | c :: rest =>
      let limited (d : Doc) : Doc :=
        if depth ≥ depthLimit then .rejected ⟨.recursionLimit, peekIndex total i⟩ d else d
      if c = '[' then
        let ((items, ending), rest', j) := readItems fuel (depth + 1) true rest (i + 1) []
        (limited (.arr i items ending), rest', j)
      else if c = '{' then
        let ((members, ending), rest', j) := readMembers fuel (depth + 1) true rest (i + 1) []
        (limited (.obj i members ending), rest', j)
      else
        match readScalar total c rest i with
        | some (.ok (v, rest', j)) => (.leaf v j, rest', j)
        | some (.error f) =>
          if f.fault.onlyWhenRead then
            match skipScalar total c rest i with
            | .ok (rest', j) => (.rejected f (.leaf .null j), rest', j)
            | .error g => (.rejected f (.broken g), cs, i)
          else (.broken f, cs, i)
        | none => (.broken ⟨.expectedValue, peekIndex total i⟩, cs, i)

/-- Reads the items of an array after its opening bracket, up to and with the closing one. -/
def readItems : Nat → Nat → Bool → List Char → Nat → List Doc →
    (List Doc × Ending) × List Char × Nat
  | 0, _, _, cs, i, acc => ((acc.reverse, .broken ⟨.eofList, i⟩), cs, i)
  | fuel + 1, depth, first, cs, i, acc =>
    let (cs, i) := skipBlank cs i
    let item (cs : List Char) (i : Nat) :=
      let (d, rest, j) := readValue fuel depth cs i
      match d.stop? with
      | some f => (((d :: acc).reverse, .broken f), rest, j)
      | none => readItems fuel depth false rest j (d :: acc)
    match cs with
    | [] => ((acc.reverse, .broken ⟨.eofList, total⟩), [], i)
    | c :: rest =>
      if c = ']' then ((acc.reverse, .closed (i + 1)), rest, i + 1)
      else if first then item cs i
      else if c = ',' then
        let (rest, j) := skipBlank rest (i + 1)
        match rest with
        | [] => ((acc.reverse, .broken ⟨.eofValue, total⟩), [], j)
        | d :: _ =>
          if d = ']' then ((acc.reverse, .broken ⟨.trailingComma, peekIndex total j⟩), rest, j)
          else item rest j
      else ((acc.reverse, .broken ⟨.expectedListCommaOrEnd, peekIndex total i⟩), cs, i)

/-- Reads the members of an object after its opening brace, up to and with the closing one. -/
def readMembers : Nat → Nat → Bool → List Char → Nat → List (String × Nat × Doc) →
    (List (String × Nat × Doc) × Ending) × List Char × Nat
  | 0, _, _, cs, i, acc => ((acc.reverse, .broken ⟨.eofObject, i⟩), cs, i)
  | fuel + 1, depth, first, cs, i, acc =>
    let (cs, i) := skipBlank cs i
    let member (cs : List Char) (i : Nat) :=
      match readString total (cs.length + 1) cs (i + 1) [] with
      | .error f => ((acc.reverse, .broken f), cs, i)
      | .ok (key, rest, j) =>
        let (rest, k) := skipBlank rest j
        match rest with
        | [] =>
          let f : Failure := ⟨.eofObject, total⟩
          (((key, k, .broken f) :: acc).reverse, .broken f) |> fun r => (r, [], k)
        | c :: rest' =>
          if c = ':' then
            let (d, rest'', m) := readValue fuel depth rest' (k + 1)
            match d.stop? with
            | some f => ((((key, k, d) :: acc).reverse, .broken f), rest'', m)
            | none => readMembers fuel depth false rest'' m ((key, k, d) :: acc)
          else
            let f : Failure := ⟨.expectedColon, peekIndex total k⟩
            ((((key, k, .broken f) :: acc).reverse, .broken f), rest, k)
    match cs with
    | [] => ((acc.reverse, .broken ⟨.eofObject, total⟩), [], i)
    | c :: rest =>
      if c = '}' then ((acc.reverse, .closed (i + 1)), rest, i + 1)
      else if first then
        if c = '"' then member rest i
        else ((acc.reverse, .broken ⟨.keyMustBeString, peekIndex total i⟩), cs, i)
      else if c = ',' then
        let (rest, j) := skipBlank rest (i + 1)
        match rest with
        | [] => ((acc.reverse, .broken ⟨.eofValue, total⟩), [], j)
        | d :: rest' =>
          if d = '"' then member rest' j
          else if d = '}' then ((acc.reverse, .broken ⟨.trailingComma, peekIndex total j⟩), rest, j)
          else ((acc.reverse, .broken ⟨.keyMustBeString, peekIndex total j⟩), rest, j)
      else ((acc.reverse, .broken ⟨.expectedObjectCommaOrEnd, peekIndex total i⟩), cs, i)

end

end Reading

/-- Reads a whole JSON text: one value, then nothing but blanks. -/
def Document.read (text : String) : Document :=
  let cs := text.toList
  let total := text.utf8ByteSize
  let (root, rest, i) := readValue total (cs.length + 2) 0 cs 0
  match root.stop? with
  | some _ => ⟨root, none⟩
  | none =>
    let (rest, j) := skipBlank rest i
    match rest with
    | [] => ⟨root, none⟩
    | _ :: _ => ⟨root, some ⟨.trailingCharacters, peekIndex total j⟩⟩

/-- The line and column of a byte index, as error messages count them: lines from 1, and the
column as the number of bytes between the start of the line and the index. -/
def lineColumn (text : String) (index : Nat) : Nat × Nat :=
  let bytes := (text.toUTF8.toList.take index)
  let lines := bytes.count 10
  let afterLast := (bytes.reverse.takeWhile (· != 10)).length
  (lines + 1, afterLast)

def Failure.describe (text : String) (f : Failure) : String :=
  let (line, column) := lineColumn text f.index
  f.fault.message ++ " at line " ++ toString line ++ " column " ++ toString column

mutual

/-- The value of a `Doc`, or the first fault in it. Of two members under one key, the later
value takes the earlier one's place. -/
def Doc.toValue : Doc → Except Failure Value
  | .leaf v _ => .ok v
  | .broken f => .error f
  | .rejected f _ => .error f
  | .arr _ items ending => do
    let vs ← Doc.itemsToValues items
    match ending with
    | .closed _ => pure (.arr vs)
    | .broken f => throw f
  | .obj _ members ending => do
    let ms ← Doc.membersToValues members []
    match ending with
    | .closed _ => pure (.obj ms)
    | .broken f => throw f

def Doc.itemsToValues : List Doc → Except Failure (List Value)
  | [] => .ok []
  | d :: ds => do
    let v ← d.toValue
    let vs ← Doc.itemsToValues ds
    pure (v :: vs)

def Doc.membersToValues : List (String × Nat × Doc) → List (String × Value) →
    Except Failure (List (String × Value))
  | [], acc => .ok acc
  | (k, _, d) :: rest, acc => do
    let v ← d.toValue
    Doc.membersToValues rest (Value.insertMember acc k v)

end

mutual

/-- Skips a value as a record skips a member it does not know: the first fault in it under the
rules for skipped values, if any. -/
def Doc.skip : Doc → Except Failure Unit
  | .leaf _ _ => .ok ()
  | .broken f => .error f
  | .rejected _ d => d.skip
  | .arr _ items ending => do
    Doc.skipItems items
    match ending with
    | .closed _ => pure ()
    | .broken f => throw f
  | .obj _ members ending => do
    Doc.skipMembers members
    match ending with
    | .closed _ => pure ()
    | .broken f => throw f

def Doc.skipItems : List Doc → Except Failure Unit
  | [] => .ok ()
  | d :: ds => do
    d.skip
    Doc.skipItems ds

def Doc.skipMembers : List (String × Nat × Doc) → Except Failure Unit
  | [] => .ok ()
  | (_, _, d) :: rest => do
    d.skip
    Doc.skipMembers rest

end

mutual

/-- A value seen as a `Doc` with no positions, for reading records out of a value. -/
def Doc.ofValue : Value → Doc
  | .arr items => .arr 0 (Doc.ofItems items) (.closed 0)
  | .obj members => .obj 0 (Doc.ofMembers members) (.closed 0)
  | v => .leaf v 0

def Doc.ofItems : List Value → List Doc
  | [] => []
  | v :: vs => Doc.ofValue v :: Doc.ofItems vs

def Doc.ofMembers : List (String × Value) → List (String × Nat × Doc)
  | [] => []
  | (k, v) :: rest => (k, 0, Doc.ofValue v) :: Doc.ofMembers rest

end

/-- Reads a JSON text as one value, or the first fault with its line and column. -/
def Value.read (text : String) : Except String Value :=
  let doc := Document.read text
  match doc.root.toValue with
  | .error f => .error (f.describe text)
  | .ok v =>
    match doc.trailing with
    | some f => .error (f.describe text)
    | none => .ok v

end CssBundle.Json
