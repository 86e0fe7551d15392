import CssBundle.Sass.Reader.Scan

/-!
# Reading script expressions

Expressions are read by operator precedence. A loop reads operands and operators in turn, keeping
the operators still waiting for their right side; an operator that binds no tighter than the last
waiting one first completes that one. Operands written side by side make a space-separated list
and commas make a comma-separated one.

Rules that decide how text reads:

- `-` starts a negative number when a digit or point follows and it opens the expression or
  follows a blank (`1 -2` is a list, `1-2` and `1 - 2` are differences); it starts a name when a
  name follows (`a -b` is a list); otherwise it is an operator.
- A `/` between two written numbers (or calculations, or such divisions) outside parentheses is
  a division that keeps its written form, as in `font: 12px/1.5`.
- In parentheses, a list whose first item is such a division is read again as if outside them,
  so that `(1/2 1)` does not divide.
- `calc()`, `clamp()` and, when their arguments allow, `min()` and `max()` are calculations;
  `url()` with a plain address, `expression()`, `element()` and `progid:...()` keep their
  contents as written; `if()` evaluates only the branch it takes.

All readers take a fuel argument that bounds their nesting and the rounds of their loops; the
caller gives enough for the length of the text.
-/

namespace CssBundle.Sass

def tooDeep {α : Type} : Reader α := failHere "Nesting is too deep."

/-- The state of the operator loop of one expression. -/
structure ExprState where
  comma : Option (List Expr) := none
  space : Option (List Expr) := none
  ops : List (BinOp × Nat) := []
  operands : List Expr := []
  allowSlash : Bool := true
  single : Option Expr := none
  singleEqOperand : Option Expr := none
  deriving Inhabited

/-- Whether an expression may stand on a side of a division that keeps its written form. -/
def Expr.isSlashOperand : Expr → Bool
  | .number .. => true
  | .calc .. => true
  | .binary .div _ _ true _ => true
  | _ => false

def mkBinary (op : BinOp) (l r : Expr) (slash : Bool) : Expr :=
  .binary op l r slash ⟨l.span.start, r.span.stop⟩

/-- Complete the last waiting operation with the current operand as its right side. -/
def ExprState.resolveOne (st : ExprState) : Reader ExprState := do
  match st.ops, st.operands with
  | (op, opPos) :: ops, left :: operands =>
    match st.single with
    | none => failSpan "Expected expression." opPos (opPos + op.symbol.length)
    | some right =>
      let inParens := (← get).inParens
      if st.allowSlash && !inParens && op == BinOp.div && left.isSlashOperand &&
          right.isSlashOperand then
        return { st with ops, operands, single := some (mkBinary .div left right true) }
      else
        return { st with ops, operands, single := some (mkBinary op left right false),
                         allowSlash := false }
  | _, _ => return st

def ExprState.resolveAll (st : ExprState) : Reader ExprState := go st.ops.length st
where
  go : Nat → ExprState → Reader ExprState
    | 0, st => pure st
    | n + 1, st => do go n (← st.resolveOne)

def ExprState.resolveFor (st : ExprState) (op : BinOp) : Reader ExprState := go st.ops.length st
where
  go : Nat → ExprState → Reader ExprState
    | 0, st => pure st
    | n + 1, st => do
      match st.ops with
      | (last, _) :: _ =>
        if last.precedence ≥ op.precedence then go n (← st.resolveOne) else pure st
      | [] => pure st

/-- Complete the operations and the space-separated list read so far, and a pending `=`. -/
def ExprState.resolveSpace (st : ExprState) : Reader ExprState := do
  let st ← st.resolveAll
  let st ← match st.space with
    | some items =>
      match st.single with
      | none => failHere "Expected expression."
      | some s =>
        let all := items ++ [s]
        let first := (all.head?.map Expr.span).getD s.span
        pure { st with single := some (.list all .space false ⟨first.start, s.span.stop⟩),
                       space := none }
    | none => pure st
  match st.singleEqOperand, st.single with
  | some l, some r => return { st with single := some (mkBinary .singleEq l r false),
                                       singleEqOperand := none }
  | some _, none => failHere "Expected expression."
  | none, _ => return st

/-- Add an operand. When one is already there the two become items of a space-separated list;
inside parentheses that turns the reading into one outside them, and when the first item could
be a kept division the whole expression must be read again (answered by `none`). -/
def ExprState.addSingle (st : ExprState) (e : Expr) : Reader (Option ExprState) := do
  match st.single with
  | none => return some { st with single := some e }
  | some _ =>
    if (← get).inParens then
      modify fun rs => { rs with inParens := false }
      if st.allowSlash then return none
    let st ← st.resolveAll
    match st.single with
    | some s =>
      return some { st with space := some (st.space.getD [] ++ [s]), allowSlash := true,
                            single := some e }
    | none => return some { st with single := some e }

def ExprState.pushOperator (st : ExprState) (op : BinOp) (p : Nat) : Reader ExprState := do
  let st := { st with allowSlash := st.allowSlash && op == BinOp.div }
  let st ← st.resolveFor op
  match st.single with
  | none => failSpan "Expected expression." p (p + op.symbol.length)
  | some s => return { st with ops := (op, p) :: st.ops, operands := s :: st.operands,
                               single := none }

def untilHolds : Until → Reader Bool
  | .none => pure false
  | .comma => peekIs ','
  | .comparison => do
    match ← peek with
    | some '=' => return (← peekAt 1) != some '='
    | some '<' | some '>' => return true
    | _ => return false
  | .bound => do
    if !(← lookingAtIdentifier) then return false
    if ← scanIdentifier "to" then
      modify fun rs => { rs with forBound := some true }
      return true
    if ← scanIdentifier "through" then
      modify fun rs => { rs with forBound := some false }
      return true
    return false

def readVariable : Reader Expr := do
  let start ← Reader.pos
  expectChar '$'
  let name ← identifier true
  return .var none name ⟨start, ← Reader.pos⟩

def readParentSelector : Reader Expr := do
  let start ← Reader.pos
  expectChar '&'
  return .parent ⟨start, ← Reader.pos⟩

def readImportant : Reader Expr := do
  let start ← Reader.pos
  advance
  whitespace
  expectIdentifier "important"
  return .str [.text "!important"] false ⟨start, ← Reader.pos⟩

def readUnicodeRange : Reader Expr := do
  let start ← Reader.pos
  advance 2
  let hex1 ← scanWhile isHexDigit
  let marks ← scanWhile (· == '?')
  let firstLength := hex1.length + marks.length
  if firstLength == 0 then failHere "Expected hex digit or \"?\"."
  if firstLength > 6 then failSpan "Expected at most 6 digits." start (← Reader.pos)
  if marks.isEmpty then
    if ← scanChar '-' then
      let secondStart ← Reader.pos
      let hex2 ← scanWhile isHexDigit
      if hex2.isEmpty then failHere "Expected hex digit."
      if hex2.length > 6 then failSpan "Expected at most 6 digits." secondStart (← Reader.pos)
    if ← lookingAtInterpolatedIdentifierBody then failHere "Expected end of identifier."
  let stop ← Reader.pos
  return .str [.text (← Reader.slice start stop)] false ⟨start, stop⟩

/-- Whether a string's text is best quoted with single quotes: it holds a double quote and no
single quote. -/
def prefersSingleQuotes (i : Interp) : Bool :=
  let texts := i.filterMap fun p => match p with
    | .text t => some t
    | .expr _ _ => none
  let cs := texts.flatMap String.toList
  !cs.contains '\'' && cs.contains '"'

/-- The text of a quoted string's pieces as they would be written back between quotes: the
quote, backslash and line breaks escaped; with `static`, `#{` escaped too. -/
def requoteText (quote : Char) (static : Bool) : List Char → String
  | [] => ""
  | c :: rest =>
    let tail := requoteText quote static rest
    if isNewlineChar c then
      let sep := match rest with
        | n :: _ => if isBlankChar n || isHexDigit n then " " else ""
        | [] => ""
      "\\a" ++ sep ++ tail
    else if c == quote || c == '\\' || (static && c == '#' && rest.head? == some '{') then
      "\\" ++ String.singleton c ++ tail
    else String.singleton c ++ tail

/-- A quoted string's pieces as interpolated text with its quotes, to be read again. -/
def requote (i : Interp) (static : Bool) : Interp :=
  let q := if prefersSingleQuotes i then '\'' else '"'
  let body := i.foldl (fun acc p => match p with
    | .text t => Interp.addText acc (requoteText q static t.toList)
    | .expr e sp => acc ++ [.expr e sp]) ([] : Interp)
  Interp.addText (Interp.append [.text (String.singleton q)] body) (String.singleton q)

/-- Whether a `#{` starts before the closing parenthesis, outside nested brackets. -/
def containsCalcInterpolation (src : Array Char) (i : Nat) : Bool :=
  go (src.size - i + 1) i 0 []
where
  /-- Scan from `i` with `parens` open parentheses and the closers of open brackets. -/
  go : Nat → Nat → Nat → List Char → Bool
    | 0, _, _, _ => false
    | fuel + 1, i, parens, brackets =>
      match src[i]? with
      | none => false
      | some '\\' => go fuel (i + 2) parens brackets
      | some '/' =>
        if src[i + 1]? == some '*' then
          match commentEnd src (i + 2) with
          | some e => go fuel e parens brackets
          | none => false
        else if src[i + 1]? == some '/' then go fuel (skipWhile src (!isNewlineChar ·) i) parens brackets
        else go fuel (i + 1) parens brackets
      | some '\'' | some '"' =>
        let q := src[i]?.getD '"'
        go fuel (skipString q (i + 1) (src.size - i)) parens brackets
      | some '#' =>
        if parens == 0 && src[i + 1]? == some '{' then true else go fuel (i + 1) parens brackets
      | some '(' => go fuel (i + 1) (parens + 1) (')' :: brackets)
      | some '{' => go fuel (i + 1) parens ('}' :: brackets)
      | some '[' => go fuel (i + 1) parens (']' :: brackets)
      | some ')' =>
        match brackets with
        | b :: rest => if b == ')' then go fuel (i + 1) (parens - 1) rest else false
        | [] => false
      | some '}' | some ']' =>
        match brackets with
        | b :: rest => if some b == src[i]? then go fuel (i + 1) parens rest else false
        | [] => false
      | some _ => go fuel (i + 1) parens brackets
  skipString (q : Char) : Nat → Nat → Nat
    | i, 0 => i
    | i, fuel + 1 =>
      match src[i]? with
      | none => i
      | some c =>
        if c == q then i + 1
        else if c == '\\' then skipString q (i + 2) fuel
        else skipString q (i + 1) fuel

/-- The options of a raw declaration value. -/
structure RawValueOptions where
  allowEmpty : Bool := false
  allowSemicolon : Bool := false
  allowColon : Bool := true
  allowOpenBrace : Bool := true
  silentComments : Bool := true
  deriving Inhabited

def closerOf (c : Char) : Char :=
  match c with
  | '(' => ')'
  | '[' => ']'
  | _ => '}'

/-- Read a hex color after its `#`: three, four, six or eight hex digits. -/
def hexColor (start : Nat) : Reader Expr := do
  let hexDigit : Reader Char := do
    match ← peek with
    | some c => if isHexDigit c then advance; pure c else failHere "Expected hex digit."
    | none => failHere "Expected hex digit."
  let d1 ← hexDigit
  let d2 ← hexDigit
  let d3 ← hexDigit
  let mut ds := [d1, d2, d3]
  if ((← peek).map isHexDigit).getD false then
    let d4 ← hexDigit
    ds := ds ++ [d4]
    if ((← peek).map isHexDigit).getD false then
      let d5 ← hexDigit
      let d6 ← hexDigit
      ds := ds ++ [d5, d6]
      if ((← peek).map isHexDigit).getD false then
        let d7 ← hexDigit
        let d8 ← hexDigit
        ds := ds ++ [d7, d8]
  let stop ← Reader.pos
  let text ← Reader.slice start stop
  return .color (Color.ofHexDigits ds text) ⟨start, stop⟩

/-- Whether a member name is private to its module: it starts with `-` or `_`. -/
def isPrivateName (name : String) : Bool := name.startsWith "-" || name.startsWith "_"

def assertPublic (name : String) (start : Nat) : Reader Unit := do
  if isPrivateName name then
    failSpan "Private members can't be accessed from outside their modules." start (← Reader.pos)

mutual

/-- Read an expression; `bracketList` reads a `[...]` list, `singleEquals` allows a single
`=` as an operator, and `stop` stops the expression before a comma or a comparison. -/
def expression : Nat → Bool → Bool → Until → Reader Expr
  | 0, _, _, _ => tooDeep
  | fuel + 1, bracketList, singleEquals, stop => do
    if ← untilHolds stop then failHere "Expected expression."
    let beforeBracket ← Reader.pos
    if bracketList then
      expectChar '['
      whitespace
      if ← scanChar ']' then
        return .list [] .undecided true ⟨beforeBracket, ← Reader.pos⟩
    let start ← Reader.pos
    let wasInParens := (← get).inParens
    let first ← singleExpression fuel
    let st ← match ← exprLoop fuel stop singleEquals { single := some first } with
      | some st => pure st
      | none =>
        Reader.seek start
        let first ← singleExpression fuel
        match ← exprLoop fuel stop singleEquals { single := some first } with
        | some st => pure st
        | none => failHere "Expected expression."
    if bracketList then expectChar ']'
    let spanStart := if bracketList then beforeBracket else start
    match st.comma with
    | some items =>
      let st ← st.resolveSpace
      modify fun rs => { rs with inParens := wasInParens }
      let items := match st.single with
        | some s => items ++ [s]
        | none => items
      return .list items .comma bracketList ⟨spanStart, ← Reader.pos⟩
    | none =>
      match bracketList, st.space with
      | true, some items =>
        let st ← st.resolveAll
        let items := match st.single with
          | some s => items ++ [s]
          | none => items
        return .list items .space true ⟨spanStart, ← Reader.pos⟩
      | _, _ =>
        let st ← st.resolveSpace
        match st.single with
        | some s =>
          if bracketList then return .list [s] .undecided true ⟨spanStart, ← Reader.pos⟩
          else return s
        | none => failHere "Expected expression."

/-- The loop of an expression: read operands and operators stop none follows. Answers `none`
when the expression must be read again outside parentheses. -/
def exprLoop : Nat → Until → Bool → ExprState → Reader (Option ExprState)
  | 0, _, _, _ => tooDeep
  | fuel + 1, stop, singleEquals, st => do
    whitespace
    if ← untilHolds stop then return some st
    let some c ← peek | return some st
    let opPos ← Reader.pos
    match c with
    | '(' =>
      let e ← parentheses fuel
      match ← st.addSingle e with
      | none => return none
      | some st => exprLoop fuel stop singleEquals st
    | '[' =>
      let e ← expression fuel true false .none
      match ← st.addSingle e with
      | none => return none
      | some st => exprLoop fuel stop singleEquals st
    | '$' =>
      let e ← readVariable
      match ← st.addSingle e with
      | none => return none
      | some st => exprLoop fuel stop singleEquals st
    | '&' =>
      let e ← readParentSelector
      match ← st.addSingle e with
      | none => return none
      | some st => exprLoop fuel stop singleEquals st
    | '\'' | '"' =>
      let e ← interpolatedString fuel
      match ← st.addSingle e with
      | none => return none
      | some st => exprLoop fuel stop singleEquals st
    | '#' =>
      let e ← hashExpression fuel
      match ← st.addSingle e with
      | none => return none
      | some st => exprLoop fuel stop singleEquals st
    | '=' =>
      advance
      if singleEquals && !(← peekIs '=') then
        let st ← st.resolveSpace
        exprLoop fuel stop singleEquals { st with singleEqOperand := st.single, single := none }
      else
        expectChar '='
        operatorThen fuel stop singleEquals st .eq opPos
    | '!' =>
      let next ← peekAt 1
      if next == some '=' then
        advance 2
        operatorThen fuel stop singleEquals st .ne opPos
      else if next.isNone || next == some 'i' || next == some 'I' || next.any isBlankChar then
        let e ← readImportant
        match ← st.addSingle e with
        | none => return none
        | some st => exprLoop fuel stop singleEquals st
      else return some st
    | '<' =>
      advance
      let op := if ← scanChar '=' then BinOp.le else BinOp.lt
      operatorThen fuel stop singleEquals st op opPos
    | '>' =>
      advance
      let op := if ← scanChar '=' then BinOp.ge else BinOp.gt
      operatorThen fuel stop singleEquals st op opPos
    | '*' =>
      advance
      operatorThen fuel stop singleEquals st .times opPos
    | '+' =>
      if st.single.isNone then
        let e ← unaryOperation fuel
        match ← st.addSingle e with
        | none => return none
        | some st => exprLoop fuel stop singleEquals st
      else
        advance
        operatorThen fuel stop singleEquals st .plus opPos
    | '-' =>
      let next ← peekAt 1
      let numeric := (next.map Char.isDigit).getD false || next == some '.'
      let afterBlank := ((← peekBack).map isBlankChar).getD false
      if numeric && (st.single.isNone || afterBlank) then
        let e ← readNumber
        match ← st.addSingle e with
        | none => return none
        | some st => exprLoop fuel stop singleEquals st
      else if ← lookingAtInterpolatedIdentifier then
        let e ← identifierLike fuel
        match ← st.addSingle e with
        | none => return none
        | some st => exprLoop fuel stop singleEquals st
      else if st.single.isNone then
        let e ← unaryOperation fuel
        match ← st.addSingle e with
        | none => return none
        | some st => exprLoop fuel stop singleEquals st
      else
        advance
        operatorThen fuel stop singleEquals st .minus opPos
    | '/' =>
      if st.single.isNone then
        let e ← unaryOperation fuel
        match ← st.addSingle e with
        | none => return none
        | some st => exprLoop fuel stop singleEquals st
      else
        advance
        operatorThen fuel stop singleEquals st .div opPos
    | '%' =>
      advance
      operatorThen fuel stop singleEquals st .rem opPos
    | ',' =>
      if (← get).inParens then
        modify fun rs => { rs with inParens := false }
        if st.allowSlash then return none
      if st.single.isNone then failHere "Expected expression."
      let st ← st.resolveSpace
      advance
      let items := st.comma.getD [] ++ st.single.toList
      exprLoop fuel stop singleEquals
        { st with comma := some items, allowSlash := true, single := none }
    | _ =>
      if c.isDigit then
        let e ← readNumber
        match ← st.addSingle e with
        | none => return none
        | some st => exprLoop fuel stop singleEquals st
      else if c == '.' then
        if (← peekAt 1) == some '.' then return some st
        let e ← readNumber
        match ← st.addSingle e with
        | none => return none
        | some st => exprLoop fuel stop singleEquals st
      else if c == 'a' && (← scanIdentifier "and" true) then
        operatorThen fuel stop singleEquals st .and opPos
      else if c == 'o' && (← scanIdentifier "or" true) then
        operatorThen fuel stop singleEquals st .or opPos
      else if (c == 'u' || c == 'U') && (← peekIs '+' 1) then
        let e ← readUnicodeRange
        match ← st.addSingle e with
        | none => return none
        | some st => exprLoop fuel stop singleEquals st
      else if isNameStart c || c == '\\' then
        let e ← identifierLike fuel
        match ← st.addSingle e with
        | none => return none
        | some st => exprLoop fuel stop singleEquals st
      else return some st

/-- After reading an operator: put it in waiting, read its right operand and go on. -/
def operatorThen : Nat → Until → Bool → ExprState → BinOp → Nat → Reader (Option ExprState)
  | 0, _, _, _, _, _ => tooDeep
  | fuel + 1, stop, singleEquals, st, op, opPos => do
    let st ← st.pushOperator op opPos
    whitespace
    let e ← singleExpression fuel
    exprLoop fuel stop singleEquals { st with single := some e }

def singleExpression : Nat → Reader Expr
  | 0 => tooDeep
  | fuel + 1 => do
    match ← peek with
    | some '(' => parentheses fuel
    | some '/' => unaryOperation fuel
    | some '.' => readNumber
    | some '[' => expression fuel true false .none
    | some '$' => readVariable
    | some '&' => readParentSelector
    | some '\'' | some '"' => interpolatedString fuel
    | some '#' => hashExpression fuel
    | some '+' =>
      let next ← peekAt 1
      if (next.map Char.isDigit).getD false || next == some '.' then readNumber
      else unaryOperation fuel
    | some '-' =>
      let next ← peekAt 1
      if (next.map Char.isDigit).getD false || next == some '.' then readNumber
      else if ← lookingAtInterpolatedIdentifier then identifierLike fuel
      else unaryOperation fuel
    | some '!' => readImportant
    | some c =>
      if (c == 'u' || c == 'U') && (← peekIs '+' 1) then readUnicodeRange
      else if c.isDigit then readNumber
      else if isNameStart c || c == '\\' then identifierLike fuel
      else failHere "Expected expression."
    | none => failHere "Expected expression."

/-- Read a parenthesized expression, a comma list in parentheses, `()` or a map. -/
def parentheses : Nat → Reader Expr
  | 0 => tooDeep
  | fuel + 1 => do
    let was := (← get).inParens
    modify fun rs => { rs with inParens := true }
    let start ← Reader.pos
    expectChar '('
    whitespace
    let result ← if !(← lookingAtExpression) then do
        expectChar ')'
        pure (Expr.list [] .undecided false ⟨start, ← Reader.pos⟩)
      else do
        let first ← expression fuel false false .comma
        if ← scanChar ':' then
          whitespace
          mapRest fuel first start
        else if !(← scanChar ',') then do
          expectChar ')'
          pure (Expr.paren first first.span)
        else do
          whitespace
          let items ← parenItems fuel [first]
          expectChar ')'
          pure (Expr.list items .comma false ⟨start, ← Reader.pos⟩)
    modify fun rs => { rs with inParens := was }
    return result

def parenItems : Nat → List Expr → Reader (List Expr)
  | 0, _ => tooDeep
  | fuel + 1, acc => do
    if !(← lookingAtExpression) then return acc
    let e ← expression fuel false false .comma
    if !(← scanChar ',') then return acc ++ [e]
    whitespace
    parenItems fuel (acc ++ [e])

def mapRest : Nat → Expr → Nat → Reader Expr
  | 0, _, _ => tooDeep
  | fuel + 1, firstKey, start => do
    let firstValue ← expression fuel false false .comma
    let pairs ← mapPairs fuel [(firstKey, firstValue)]
    expectChar ')'
    return .map pairs ⟨start, ← Reader.pos⟩

def mapPairs : Nat → List (Expr × Expr) → Reader (List (Expr × Expr))
  | 0, _ => tooDeep
  | fuel + 1, acc => do
    if !(← scanChar ',') then return acc
    whitespace
    if !(← lookingAtExpression) then return acc
    let key ← expression fuel false false .comma
    expectChar ':'
    whitespace
    let value ← expression fuel false false .comma
    mapPairs fuel (acc ++ [(key, value)])

/-- Read a unary operation: `+`, `-` or `/` before an operand. -/
def unaryOperation : Nat → Reader Expr
  | 0 => tooDeep
  | fuel + 1 => do
    let start ← Reader.pos
    let op ← match ← readChar with
      | some '+' => pure UnaryOp.plus
      | some '-' => pure UnaryOp.minus
      | some '/' => pure UnaryOp.divide
      | _ => failSpan "Expected unary operator." start (start + 1)
    whitespace
    let operand ← singleExpression fuel
    return .unary op operand ⟨start, ← Reader.pos⟩

def interpolatedString : Nat → Reader Expr
  | 0 => tooDeep
  | fuel + 1 => do
    let start ← Reader.pos
    let some q ← readChar | failHere "Expected string."
    if q != '\'' && q != '"' then failSpan "Expected string." start (start + 1)
    let body ← stringBody fuel q []
    return .str body true ⟨start, ← Reader.pos⟩

def stringBody : Nat → Char → Interp → Reader Interp
  | 0, _, _ => tooDeep
  | fuel + 1, q, acc => do
    match ← peek with
    | none => failHere ("Expected " ++ String.singleton q ++ ".")
    | some c =>
      if c == q then advance; return acc
      else if isNewlineChar c then failHere ("Expected " ++ String.singleton q ++ ".")
      else if c == '\\' then
        match ← peekAt 1 with
        | some s =>
          if isNewlineChar s then
            advance 2
            if s == '\r' then let _ ← scanChar '\n'
            stringBody fuel q acc
          else
            let ch ← escapeCharacter
            stringBody fuel q (Interp.addText acc (String.singleton ch))
        | none =>
          let ch ← escapeCharacter
          stringBody fuel q (Interp.addText acc (String.singleton ch))
      else if c == '#' && (← peekIs '{' 1) then
        let piece ← singleInterpolation fuel
        stringBody fuel q (acc ++ [piece])
      else
        advance
        stringBody fuel q (Interp.addText acc (String.singleton c))

def singleInterpolation : Nat → Reader Piece
  | 0 => tooDeep
  | fuel + 1 => do
    let start ← Reader.pos
    expectText "#\x7b"
    whitespace
    let e ← expression fuel false false .none
    expectChar '}'
    return .expr e ⟨start, ← Reader.pos⟩

/-- Read what starts with `#`: interpolation, a hex color, or an unquoted `#name`. -/
def hashExpression : Nat → Reader Expr
  | 0 => tooDeep
  | fuel + 1 => do
    if ← peekIs '{' 1 then return ← identifierLike fuel
    let start ← Reader.pos
    expectChar '#'
    let digitFirst := ((← peek).map Char.isDigit).getD false
    if digitFirst then return ← hexColor start
    let afterHash ← Reader.pos
    let ident ← interpolatedIdentifier fuel
    match Interp.asPlain ident with
    | some plain =>
      if [3, 4, 6, 8].contains plain.length && plain.toList.all isHexDigit then
        Reader.seek afterHash
        return ← hexColor start
    | none => pure ()
    return .str (Interp.append [.text "#"] ident) false ⟨start, ← Reader.pos⟩

def interpolatedIdentifier : Nat → Reader Interp
  | 0 => tooDeep
  | fuel + 1 => do
    let mut acc : Interp := []
    if ← scanChar '-' then
      acc := Interp.addText acc "-"
      if ← scanChar '-' then
        return ← identBody fuel (Interp.addText acc "-")
    match ← peek with
    | none => failHere "Expected identifier."
    | some c =>
      if isNameStart c then
        advance
        identBody fuel (Interp.addText acc (String.singleton c))
      else if c == '\\' then
        let e ← escape true
        identBody fuel (Interp.addText acc e)
      else if c == '#' && (← peekIs '{' 1) then
        let piece ← singleInterpolation fuel
        identBody fuel (acc ++ [piece])
      else failHere "Expected identifier."

def identBody : Nat → Interp → Reader Interp
  | 0, _ => tooDeep
  | fuel + 1, acc => do
    match ← peek with
    | none => return acc
    | some c =>
      if c == '_' || c == '-' || c.isAlphanum || c.toNat ≥ 0x80 then
        advance
        identBody fuel (Interp.addText acc (String.singleton c))
      else if c == '\\' then
        let e ← escape
        identBody fuel (Interp.addText acc e)
      else if c == '#' && (← peekIs '{' 1) then
        let piece ← singleInterpolation fuel
        identBody fuel (acc ++ [piece])
      else return acc

/-- Read what starts with a name: a keyword, a color name, `not`, `if()`, a special function, a
calculation, a function call, a namespaced member, or an unquoted string. -/
def identifierLike : Nat → Reader Expr
  | 0 => tooDeep
  | fuel + 1 => do
    let start ← Reader.pos
    let ident ← interpolatedIdentifier fuel
    let identStop ← Reader.pos
    match Interp.asPlain ident with
    | some plain =>
      if plain == "if" && (← peekIs '(') then
        let args ← argumentInvocation fuel false false
        return .ifCall args ⟨start, ← Reader.pos⟩
      if plain == "not" then
        whitespace
        let e ← singleExpression fuel
        return .unary .not e ⟨start, ← Reader.pos⟩
      let lower := plain.toLower
      if !(← peekIs '(') then
        if plain == "false" then return .bool false ⟨start, identStop⟩
        if plain == "true" then return .bool true ⟨start, identStop⟩
        if plain == "null" then return .null ⟨start, identStop⟩
        match Color.named? lower with
        | some c => return .color { c with written := some plain } ⟨start, identStop⟩
        | none => pure ()
      match ← trySpecialFunction fuel lower start with
      | some e => return e
      | none => pure ()
      if (← peekIs '.') && !(← peekIs '.' 1) then
        advance
        return ← namespacedExpression fuel plain start
      if ← peekIs '(' then
        let args ← argumentInvocation fuel false (lower == "var")
        return .call none plain args ⟨start, ← Reader.pos⟩
      return .str ident false ⟨start, identStop⟩
    | none =>
      if (← peekIs '.') && !(← peekIs '.' 1) then
        failSpan "Interpolation isn't allowed in namespaces." start identStop
      if ← peekIs '(' then
        let args ← argumentInvocation fuel false false
        return .interpCall ident args ⟨start, ← Reader.pos⟩
      return .str ident false ⟨start, identStop⟩

/-- Read `ns.$var` or `ns.function(...)` after the point; the member must be public. -/
def namespacedExpression : Nat → String → Nat → Reader Expr
  | 0, _, _ => tooDeep
  | fuel + 1, ns, start => do
    let nameStart ← Reader.pos
    if ← peekIs '$' then
      advance
      let name ← identifier true
      assertPublic name nameStart
      return .var (some ns) name ⟨start, ← Reader.pos⟩
    let name ← identifier
    assertPublic name nameStart
    let args ← argumentInvocation fuel false false
    return .call (some ns) name args ⟨start, ← Reader.pos⟩

def argumentInvocation : Nat → Bool → Bool → Reader Args
  | 0, _, _ => tooDeep
  | fuel + 1, forMixin, allowEmptySecond => do
    expectChar '('
    whitespace
    let args ← argumentLoop fuel forMixin allowEmptySecond ([], [], none, none)
    expectChar ')'
    let (positional, named, rest, keywordRest) := args
    return .mk positional named rest keywordRest

def argumentLoop : Nat → Bool → Bool →
    (List Expr × List (String × Expr) × Option Expr × Option Expr) →
    Reader (List Expr × List (String × Expr) × Option Expr × Option Expr)
  | 0, _, _, _ => tooDeep
  | fuel + 1, forMixin, allowEmptySecond, (positional, named, rest, keywordRest) => do
    if !(← lookingAtExpression) then return (positional, named, rest, keywordRest)
    let e ← expression fuel false (!forMixin) .comma
    whitespace
    let mut positional := positional
    let mut named := named
    let mut rest := rest
    let mut keywordRest := keywordRest
    let mut stop := false
    match e with
    | .var none name sp =>
      if ← scanChar ':' then
        whitespace
        if named.any (·.1 == name) then failSpan "Duplicate argument." sp.start sp.stop
        let v ← expression fuel false (!forMixin) .comma
        named := named ++ [(name, v)]
      else if ← scanChar '.' then
        expectChar '.'
        expectChar '.'
        if rest.isNone then rest := some e
        else
          keywordRest := some e
          whitespace
          stop := true
      else if !named.isEmpty then
        failSpan "Positional arguments must come before keyword arguments." e.span.start
          e.span.stop
      else positional := positional ++ [e]
    | _ =>
      if ← scanChar '.' then
        expectChar '.'
        expectChar '.'
        if rest.isNone then rest := some e
        else
          keywordRest := some e
          whitespace
          stop := true
      else if !named.isEmpty then
        failSpan "Positional arguments must come before keyword arguments." e.span.start
          e.span.stop
      else positional := positional ++ [e]
    if stop then return (positional, named, rest, keywordRest)
    whitespace
    if !(← scanChar ',') then return (positional, named, rest, keywordRest)
    whitespace
    if allowEmptySecond && positional.length == 1 && named.isEmpty && rest.isNone &&
        (← peekIs ')') then
      let p ← Reader.pos
      return (positional ++ [.str [] false ⟨p, p⟩], named, rest, keywordRest)
    argumentLoop fuel forMixin allowEmptySecond (positional, named, rest, keywordRest)

/-- Read a special function after its name, if the name is one: a calculation, `url()` with a
plain address, `expression()`, `element()`, a vendor `calc()`, or `progid:...()`. -/
def trySpecialFunction : Nat → String → Nat → Reader (Option Expr)
  | 0, _, _ => tooDeep
  | fuel + 1, name, start => do
    if ← peekIs '(' then
      match ← tryCalculation fuel name start with
      | some e => return some e
      | none => pure ()
    let normalized := unvendor name
    let opening ← if normalized == "calc" || normalized == "element" ||
        normalized == "expression" then do
        if !(← scanChar '(') then pure none
        else pure (some (name ++ "("))
      else if normalized == "progid" then do
        if !(← scanChar ':') then pure none
        else
          let rest ← scanWhile (fun c => c.isAlpha || c == '.')
          expectChar '('
          pure (some (name ++ ":" ++ rest ++ "("))
      else if normalized == "url" then do
        match ← tryUrlContents fuel none with
        | some contents => return some (.str contents false ⟨start, ← Reader.pos⟩)
        | none => pure none
      else pure none
    match opening with
    | none => return none
    | some text =>
      let body ← rawValue fuel { allowEmpty := true }
      expectChar ')'
      let contents := Interp.addText (Interp.append [.text text] body) ")"
      return some (.str contents false ⟨start, ← Reader.pos⟩)

/-- Read `url(` with a plain address up to its `)`, if that is what follows; otherwise read
nothing. -/
def tryUrlContents : Nat → Option String → Reader (Option Interp)
  | 0, _ => tooDeep
  | fuel + 1, name => do
    let begin ← Reader.pos
    if !(← scanChar '(') then return none
    blanks
    match ← urlBody fuel ([.text (name.getD "url" ++ "(")] : Interp) with
    | some i => return some i
    | none => Reader.seek begin; return none

def urlBody : Nat → Interp → Reader (Option Interp)
  | 0, _ => tooDeep
  | fuel + 1, acc => do
    match ← peek with
    | none => return none
    | some c =>
      if c == '\\' then
        let e ← escape
        urlBody fuel (Interp.addText acc e)
      else if c == '!' || c == '%' || c == '&' || ('*' ≤ c && c ≤ '~') || c.toNat ≥ 0x80 then
        advance
        urlBody fuel (Interp.addText acc (String.singleton c))
      else if c == '#' then
        if ← peekIs '{' 1 then
          let piece ← singleInterpolation fuel
          urlBody fuel (acc ++ [piece])
        else
          advance
          urlBody fuel (Interp.addText acc "#")
      else if isBlankChar c then
        blanks
        if ← peekIs ')' then urlBody fuel acc else return none
      else if c == ')' then
        advance
        return some (Interp.addText acc ")")
      else return none

/-- Read a calculation's arguments after its name, for `calc`, `clamp`, `min` and `max`; `min`
and `max` fall back to function calls when their arguments are not a calculation's. -/
def tryCalculation : Nat → String → Nat → Reader (Option Expr)
  | 0, _, _ => tooDeep
  | fuel + 1, name, start => do
    if name == "calc" then
      let args ← calculationArguments fuel (some 1)
      return some (.calc name args ⟨start, ← Reader.pos⟩)
    else if name == "clamp" then
      let args ← calculationArguments fuel (some 3)
      return some (.calc name args ⟨start, ← Reader.pos⟩)
    else if name == "min" || name == "max" then
      let before ← get
      try
        let args ← calculationArguments fuel none
        return some (.calc name args ⟨start, ← Reader.pos⟩)
      catch _ =>
        set before
        return none
    else return none

/-- Read the parenthesized arguments of a calculation, at most `maxArgs` of them. -/
def calculationArguments : Nat → Option Nat → Reader (List Expr)
  | 0, _ => tooDeep
  | fuel + 1, maxArgs => do
    expectChar '('
    if containsCalcInterpolation (← read) (← Reader.pos) then
      let start ← Reader.pos
      let v ← rawValue fuel {}
      expectChar ')'
      return [.str v false ⟨start, ← Reader.pos⟩]
    whitespace
    let first ← calculationSum fuel
    let args ← calcArgLoop fuel maxArgs [first]
    let expected := if some args.length == maxArgs then "\"+\", \"-\", \"*\", \"/\", or \")\""
      else "\"+\", \"-\", \"*\", \"/\", \",\", or \")\""
    expectChar ')' (some expected)
    return args

def calcArgLoop : Nat → Option Nat → List Expr → Reader (List Expr)
  | 0, _, _ => tooDeep
  | fuel + 1, maxArgs, acc => do
    if maxArgs.any (acc.length ≥ ·) then return acc
    if !(← scanChar ',') then return acc
    whitespace
    let e ← calculationSum fuel
    calcArgLoop fuel maxArgs (acc ++ [e])

/-- Read a sum of products in a calculation; `+` and `-` need blanks on both sides. -/
def calculationSum : Nat → Reader Expr
  | 0 => tooDeep
  | fuel + 1 => do
    let first ← calculationProduct fuel
    calcSumLoop fuel first

def calcSumLoop : Nat → Expr → Reader Expr
  | 0, _ => tooDeep
  | fuel + 1, acc => do
    match ← peek with
    | some c =>
      if c == '+' || c == '-' then
        let before := ((← peekBack).map isBlankChar).getD false
        let after := ((← peekAt 1).map isBlankChar).getD false
        if !before || !after then
          failHere "\"+\" and \"-\" must be surrounded by whitespace in calculations."
        advance
        whitespace
        let right ← calculationProduct fuel
        calcSumLoop fuel (mkBinary (if c == '+' then .plus else .minus) acc right false)
      else return acc
    | none => return acc

def calculationProduct : Nat → Reader Expr
  | 0 => tooDeep
  | fuel + 1 => do
    let first ← calculationValue fuel
    calcProductLoop fuel first

def calcProductLoop : Nat → Expr → Reader Expr
  | 0, _ => tooDeep
  | fuel + 1, acc => do
    whitespace
    match ← peek with
    | some c =>
      if c == '*' || c == '/' then
        advance
        whitespace
        let right ← calculationValue fuel
        calcProductLoop fuel (mkBinary (if c == '*' then .times else .div) acc right false)
      else return acc
    | none => return acc

/-- Read a value of a calculation: a number, a variable, a parenthesized sum, a nested
calculation or a function call. -/
def calculationValue : Nat → Reader Expr
  | 0 => tooDeep
  | fuel + 1 => do
    match ← peek with
    | some c =>
      if c == '+' || c == '-' || c == '.' || c.isDigit then readNumber
      else if c == '$' then readVariable
      else if c == '(' then
        let start ← Reader.pos
        advance
        let inner ← if containsCalcInterpolation (← read) (← Reader.pos) then do
            let s ← Reader.pos
            let v ← rawValue fuel {}
            pure (Expr.str v false ⟨s, ← Reader.pos⟩)
          else do
            whitespace
            calculationSum fuel
        whitespace
        expectChar ')'
        return .paren inner ⟨start, ← Reader.pos⟩
      else if !(← lookingAtIdentifier) then
        failHere "Expected number, variable, function, or calculation."
      else
        let start ← Reader.pos
        let ident ← identifier
        if ← scanChar '.' then return ← namespacedExpression fuel ident start
        if !(← peekIs '(') then failHere "Expected \"(\" or \".\"."
        let lower := ident.toLower
        match ← tryCalculation fuel lower start with
        | some e => return e
        | none =>
          if lower == "if" then
            let args ← argumentInvocation fuel false false
            return .ifCall args ⟨start, ← Reader.pos⟩
          let args ← argumentInvocation fuel false false
          return .call none ident args ⟨start, ← Reader.pos⟩
    | none => failHere "Expected number, variable, function, or calculation."

/-- Read a value kept as written, with interpolation, up to an unbalanced closing bracket, a
`;` or `:` (unless allowed), a `{` (unless allowed) or the end. -/
def rawValue : Nat → RawValueOptions → Reader Interp
  | 0, _ => tooDeep
  | fuel + 1, opts => do
    let start ← Reader.pos
    let (acc, brackets) ← rawValueLoop fuel opts [] [] false
    match brackets with
    | b :: _ => expectChar b
    | [] => pure ()
    if !opts.allowEmpty && acc.isEmpty then failSpan "Expected token." start (start + 1)
    return acc

def rawValueLoop : Nat → RawValueOptions → Interp → List Char → Bool →
    Reader (Interp × List Char)
  | 0, _, _, _, _ => tooDeep
  | fuel + 1, opts, acc, brackets, wroteNewline => do
    match ← peek with
    | none => return (acc, brackets)
    | some c =>
      if c == '\\' then
        let e ← escape true
        rawValueLoop fuel opts (Interp.addText acc e) brackets false
      else if c == '"' || c == '\'' then
        match ← interpolatedString fuel with
        | .str body _ _ => rawValueLoop fuel opts (Interp.append acc (requote body true)) brackets false
        | _ => rawValueLoop fuel opts acc brackets false
      else if c == '/' then
        match ← peekAt 1 with
        | some '*' =>
          let s ← Reader.pos
          let _ ← scanComment
          let text ← Reader.slice s (← Reader.pos)
          rawValueLoop fuel opts (Interp.addText acc text) brackets false
        | some '/' =>
          if opts.silentComments then
            let _ ← scanComment
            rawValueLoop fuel opts acc brackets false
          else
            advance
            rawValueLoop fuel opts (Interp.addText acc "/") brackets false
        | _ =>
          advance
          rawValueLoop fuel opts (Interp.addText acc "/") brackets false
      else if c == '#' && (← peekIs '{' 1) then
        let ident ← interpolatedIdentifier fuel
        rawValueLoop fuel opts (Interp.append acc ident) brackets false
      else if c == ' ' || c == '\t' then
        let next ← peekAt 1
        advance
        if wroteNewline || !(next.any isBlankChar) then
          rawValueLoop fuel opts (Interp.addText acc (String.singleton c)) brackets wroteNewline
        else rawValueLoop fuel opts acc brackets wroteNewline
      else if c == '\n' || c == '\r' || c == '\x0c' then
        let prevNewline := ((← peekBack).map isNewlineChar).getD false
        advance
        rawValueLoop fuel opts (if prevNewline then acc else Interp.addText acc "\n") brackets true
      else if c == '(' || c == '{' || c == '[' then
        if c == '{' && !opts.allowOpenBrace then return (acc, brackets)
        advance
        rawValueLoop fuel opts (Interp.addText acc (String.singleton c)) (closerOf c :: brackets) false
      else if c == ')' || c == '}' || c == ']' then
        match brackets with
        | [] => return (acc, brackets)
        | b :: rest =>
          expectChar b
          rawValueLoop fuel opts (Interp.addText acc (String.singleton c)) rest false
      else if c == ';' then
        if !opts.allowSemicolon && brackets.isEmpty then return (acc, brackets)
        advance
        rawValueLoop fuel opts (Interp.addText acc ";") brackets false
      else if c == ':' then
        if !opts.allowColon && brackets.isEmpty then return (acc, brackets)
        advance
        rawValueLoop fuel opts (Interp.addText acc ":") brackets false
      else if c == 'u' || c == 'U' then
        let before ← Reader.pos
        if ← scanIdentifier "url" then
          match ← tryUrlContents fuel none with
          | some contents => rawValueLoop fuel opts (Interp.append acc contents) brackets false
          | none =>
            Reader.seek before
            advance
            rawValueLoop fuel opts (Interp.addText acc (String.singleton c)) brackets false
        else
          advance
          rawValueLoop fuel opts (Interp.addText acc (String.singleton c)) brackets false
      else if ← lookingAtIdentifier then
        let name ← identifier
        rawValueLoop fuel opts (Interp.addText acc name) brackets false
      else
        advance
        rawValueLoop fuel opts (Interp.addText acc (String.singleton c)) brackets false

/-- Read text kept almost as written, with interpolation, up to `!`, `;`, `{`, `}` or the end:
the text of selectors and of unknown at-rules' preludes. -/
def almostAnyValue : Nat → Bool → Reader Interp
  | 0, _ => tooDeep
  | fuel + 1, omitComments => almostAnyLoop fuel omitComments []

def almostAnyLoop : Nat → Bool → Interp → Reader Interp
  | 0, _, _ => tooDeep
  | fuel + 1, omitComments, acc => do
    match ← peek with
    | none => return acc
    | some c =>
      if c == '\\' then
        advance
        let next ← readChar
        almostAnyLoop fuel omitComments
          (Interp.addText acc (String.singleton c ++ (next.map String.singleton).getD ""))
      else if c == '"' || c == '\'' then
        match ← interpolatedString fuel with
        | .str body _ _ => almostAnyLoop fuel omitComments (Interp.append acc (requote body false))
        | _ => almostAnyLoop fuel omitComments acc
      else if c == '/' then
        let s ← Reader.pos
        if ← scanComment then
          let text ← Reader.slice s (← Reader.pos)
          almostAnyLoop fuel omitComments (if omitComments then acc else Interp.addText acc text)
        else
          advance
          almostAnyLoop fuel omitComments (Interp.addText acc "/")
      else if c == '#' && (← peekIs '{' 1) then
        let ident ← interpolatedIdentifier fuel
        almostAnyLoop fuel omitComments (Interp.append acc ident)
      else if c == '!' || c == ';' || c == '{' || c == '}' then return acc
      else if c == 'u' || c == 'U' then
        let before ← Reader.pos
        if ← scanIdentifier "url" then
          match ← tryUrlContents fuel none with
          | some contents => almostAnyLoop fuel omitComments (Interp.append acc contents)
          | none =>
            Reader.seek before
            advance
            almostAnyLoop fuel omitComments (Interp.addText acc (String.singleton c))
        else
          advance
          almostAnyLoop fuel omitComments (Interp.addText acc (String.singleton c))
      else if ← lookingAtIdentifier then
        let name ← identifier
        almostAnyLoop fuel omitComments (Interp.addText acc name)
      else
        advance
        almostAnyLoop fuel omitComments (Interp.addText acc (String.singleton c))

end

end CssBundle.Sass
