import CssBundle.Sass.Reader.Expr

/-!
# Reading statements

A stylesheet is a sequence of statements: variable declarations, comments, at-rules, style
rules and, inside style rules, mixins and unknown at-rules, declarations.

A statement inside a style rule that starts like `name:` may be a declaration or a selector with
a pseudo-class (`a:hover { ... }`). It is a declaration when a blank follows the colon; when none
does, its value is read, and if that fails, or a block follows it, the text is read again as a
selector, unless the selector reading stops at a `;`. A declaration whose colon is followed by a
block holds nested declarations: `font: { family: x }` declares `font-family`.

Media queries are read into text with their script expressions inside, and checked again once
evaluated. `@supports` conditions are read into a tree whose declarations hold expressions.
-/

namespace CssBundle.Sass

/-- Which statements a block holds. -/
inductive BlockKind where
  /-- The statements of a style rule, an at-rule, a mixin or a control rule. -/
  | statement
  /-- The declarations nested under a property. -/
  | declaration
  /-- The body of a function. -/
  | function
  deriving Repr, BEq, Inhabited

def silentComment : Reader Unit := do
  let _ ← scanWhile (fun c => !isNewlineChar c)

/-- Set a flag of the reading context while running a reader, restoring it after. -/
def withFlag {α : Type} (get? : ReadState → Bool) (set! : ReadState → Bool → ReadState)
    (value : Bool) (r : Reader α) : Reader α := do
  let old := get? (← get)
  modify fun s => set! s value
  let result ← r
  modify fun s => set! s old
  return result

def plainAtRuleName : Reader String := do
  expectChar '@' (some "@-rule")
  let name ← identifier
  whitespace
  return name

/-- Whether a default namespace is a valid name: the part of a module address after its last
`/` or `:` and before its first point. -/
def defaultNamespace (url : String) : String :=
  let base := (url.splitOn "/").getLast?.getD url
  let base := (base.splitOn ":").getLast?.getD base
  (base.splitOn ".").headD base

/-- Whether an `@import` address is kept as a plain CSS import: one of at least five bytes in
UTF-8 that ends in `.css` or starts with `//`, `http://` or `https://`, ASCII letters in any
case. -/
def isPlainImportUrl (url : String) : Bool :=
  let lower := url.map fun c => if 'A' ≤ c && c ≤ 'Z' then c.toLower else c
  if url.utf8ByteSize < 5 then false
  else if lower.endsWith ".css" then true
  else if lower.startsWith "//" then true
  else lower.startsWith "http://" || lower.startsWith "https://"

/-- Read the variables `$name: value` of a module's configuration after its `(`, through its
`)`, answering their values; `guarded` allows `!default` after a value. A variable may be
configured once, and a trailing comma is allowed. -/
def configuredVariables : Nat → Bool → List String → List Expr → Reader (List Expr)
  | 0, _, _, _ => tooDeep
  | fuel + 1, guarded, names, values => do
    whitespace
    let start ← Reader.pos
    expectChar '$'
    let name ← identifier true
    whitespace
    expectChar ':'
    whitespace
    let value ← expression fuel false false .comma
    if guarded then
      let flagStart ← Reader.pos
      if ← scanChar '!' then
        let flag ← identifier
        if flag == "default" then whitespace
        else failSpan "Invalid flag name." flagStart (← Reader.pos)
    if names.contains name then
      failSpan "The same variable may only be configured once." start (← Reader.pos)
    let values := values ++ [value]
    if !(← scanChar ',') then
      expectChar ')'
      return values
    whitespace
    if !(← lookingAtExpression) then
      expectChar ')'
      return values
    configuredVariables fuel guarded (name :: names) values

/-- Read `with (...)` after a module's address when it is there, answering the values of the
variables it configures; none when there is no `with`. -/
def configuration (fuel : Nat) (guarded : Bool) : Reader (List Expr) := do
  if !(← scanIdentifier "with") then return []
  whitespace
  expectChar '('
  configuredVariables fuel guarded [] []

/-- Read the names after `show` or `hide` of a `@forward` rule: variables and other members,
separated by commas. -/
def memberList : Nat → Reader Unit
  | 0 => tooDeep
  | fuel + 1 => do
    whitespace
    if ← peekIs '$' then
      advance
      let _ ← identifier true
    else
      let _ ← identifier true
    whitespace
    if ← scanChar ',' then memberList fuel

/-- An expression as interpolated text: an unquoted string gives its own pieces. -/
def exprInterp (e : Expr) : Interp :=
  match e with
  | .str text false _ => text
  | other => [.expr other other.span]

mutual

def children : Nat → BlockKind → Reader (List Stmt)
  | 0, _ => tooDeep
  | fuel + 1, kind => do
    expectChar '{'
    blanks
    childrenLoop fuel kind []

def childrenLoop : Nat → BlockKind → List Stmt → Reader (List Stmt)
  | 0, _, _ => tooDeep
  | fuel + 1, kind, acc => do
    match ← peek with
    | some '$' =>
      let start ← Reader.pos
      let d ← variableDeclaration fuel none start
      childrenLoop fuel kind (acc ++ [d])
    | some '/' =>
      match ← peekAt 1 with
      | some '/' =>
        silentComment
        blanks
        childrenLoop fuel kind acc
      | some '*' =>
        let c ← loudComment fuel
        blanks
        childrenLoop fuel kind (acc ++ [c])
      | _ =>
        let s ← child fuel kind
        childrenLoop fuel kind (acc ++ s.toList)
    | some ';' =>
      advance
      blanks
      childrenLoop fuel kind acc
    | some '}' =>
      advance
      return acc
    | none => expectChar '}'; return acc
    | _ =>
      let s ← child fuel kind
      childrenLoop fuel kind (acc ++ s.toList)

def child : Nat → BlockKind → Reader (Option Stmt)
  | 0, _ => tooDeep
  | fuel + 1, kind =>
    match kind with
    | .statement => statement fuel false
    | .declaration => some <$> declarationChild fuel
    | .function => some <$> functionChild fuel

def topStatements : Nat → List Stmt → Reader (List Stmt)
  | 0, _ => tooDeep
  | fuel + 1, acc => do
    if ← isDone then return acc
    match ← peek with
    | some '$' =>
      let start ← Reader.pos
      let d ← variableDeclaration fuel none start
      topStatements fuel (acc ++ [d])
    | some '/' =>
      match ← peekAt 1 with
      | some '/' =>
        silentComment
        blanks
        topStatements fuel acc
      | some '*' =>
        let c ← loudComment fuel
        blanks
        topStatements fuel (acc ++ [c])
      | _ =>
        let s ← statement fuel true
        topStatements fuel (acc ++ s.toList)
    | some ';' =>
      advance
      blanks
      topStatements fuel acc
    | _ =>
      let s ← statement fuel true
      topStatements fuel (acc ++ s.toList)

def loudComment : Nat → Reader Stmt
  | 0 => tooDeep
  | fuel + 1 => do
    let start ← Reader.pos
    expectText "/*"
    let text ← loudCommentBody fuel ([.text "/*"] : Interp)
    return .comment text ⟨start, ← Reader.pos⟩

def loudCommentBody : Nat → Interp → Reader Interp
  | 0, _ => tooDeep
  | fuel + 1, acc => do
    match ← peek with
    | none => failHere "expected more input."
    | some '#' =>
      if ← peekIs '{' 1 then
        let piece ← singleInterpolation fuel
        loudCommentBody fuel (acc ++ [piece])
      else
        advance
        loudCommentBody fuel (Interp.addText acc "#")
    | some '*' =>
      advance
      if ← scanChar '/' then return Interp.addText acc "*/"
      loudCommentBody fuel (Interp.addText acc "*")
    | some '\r' =>
      advance
      loudCommentBody fuel (if (← peek) == some '\n' then acc else Interp.addText acc "\n")
    | some '\x0c' =>
      advance
      loudCommentBody fuel (Interp.addText acc "\n")
    | some c =>
      advance
      loudCommentBody fuel (Interp.addText acc (String.singleton c))

/-- Read one statement; `root` is whether it is at the top of the stylesheet. -/
def statement : Nat → Bool → Reader (Option Stmt)
  | 0, _ => tooDeep
  | fuel + 1, root => do
    match ← peek with
    | some '@' => atRule fuel root
    | some '+' | some '=' => some <$> styleRule fuel [] (← Reader.pos)
    | some '}' => failHere "unmatched \"\x7d\"."
    | _ =>
      let rs ← get
      if rs.inStyleRule || rs.inUnknownAtRule || rs.inMixin || rs.inContentBlock then
        some <$> declarationOrStyleRule fuel
      else some <$> variableDeclarationOrStyleRule fuel

/-- Read a variable declaration `$name: value !default !global;`, its `$` next. -/
def variableDeclaration : Nat → Option String → Nat → Reader Stmt
  | 0, _, _ => tooDeep
  | fuel + 1, ns, start => do
    expectChar '$'
    let name ← identifier true
    whitespace
    expectChar ':'
    whitespace
    let value ← expression fuel false false .none
    let (guarded, isGlobal) ← variableFlags fuel ns false false
    expectStatementSeparator
    return .varDecl ns name value guarded isGlobal ⟨start, ← Reader.pos⟩

def variableFlags : Nat → Option String → Bool → Bool → Reader (Bool × Bool)
  | 0, _, _, _ => tooDeep
  | fuel + 1, ns, guarded, isGlobal => do
    let flagStart ← Reader.pos
    if !(← scanChar '!') then return (guarded, isGlobal)
    let flag ← identifier
    let (g, gl) ← if flag == "default" then pure (true, isGlobal)
      else if flag == "global" then
        if ns.isSome then
          failSpan "!global isn't allowed for variables in other modules." flagStart (← Reader.pos)
        else pure (guarded, true)
      else failSpan "Invalid flag name." flagStart (← Reader.pos)
    whitespace
    variableFlags fuel ns g gl

/-- Read a name that may be a namespaced variable declaration `ns.$name: value`. -/
def variableDeclarationOrInterpolation : Nat → Reader (Sum Stmt Interp)
  | 0 => tooDeep
  | fuel + 1 => do
    if !(← lookingAtIdentifier) then return .inr (← interpolatedIdentifier fuel)
    let start ← Reader.pos
    let ident ← identifier
    if (← matchesText ".$") then
      advance
      return .inl (← variableDeclaration fuel (some ident) start)
    let mut acc : Interp := [.text ident]
    if ← lookingAtInterpolatedIdentifierBody then
      acc := Interp.append acc (← interpolatedIdentifier fuel)
    return .inr acc

/-- At the top of the stylesheet: a namespaced variable declaration or a style rule. -/
def variableDeclarationOrStyleRule : Nat → Reader Stmt
  | 0 => tooDeep
  | fuel + 1 => do
    if !(← lookingAtIdentifier) then return ← styleRule fuel [] (← Reader.pos)
    let start ← Reader.pos
    match ← variableDeclarationOrInterpolation fuel with
    | .inl d => return d
    | .inr i => styleRule fuel i start

/-- Read a style rule whose selector starts with `prefix`, read from `start`. -/
def styleRule : Nat → Interp → Nat → Reader Stmt
  | 0, _, _ => tooDeep
  | fuel + 1, prefixText, start => do
    modify fun s => { s with useAllowed := false }
    let rest ← almostAnyValue fuel false
    let selectorStop ← Reader.pos
    let selector := Interp.append prefixText rest
    if selector.isEmpty then failHere "expected \"\x7d\"."
    let body ← withFlag (·.inStyleRule) (fun s v => { s with inStyleRule := v }) true
      (children fuel .statement)
    let stop ← Reader.pos
    blanks
    return .styleRule selector ⟨start, selectorStop⟩ body ⟨start, stop⟩

/-- Inside a style rule: a declaration or a nested style rule. -/
def declarationOrStyleRule : Nat → Reader Stmt
  | 0 => tooDeep
  | fuel + 1 => do
    let start ← Reader.pos
    match ← declarationOrBuffer fuel with
    | .inl s => return s
    | .inr buffer => styleRule fuel buffer start

/-- Read a declaration, or the start of a selector when the text turns out to be one. -/
def declarationOrBuffer : Nat → Reader (Sum Stmt Interp)
  | 0 => tooDeep
  | fuel + 1 => do
    let start ← Reader.pos
    let mut nameBuffer : Interp := []
    let first ← peek
    let punctuation := first == some ':' || first == some '*' || first == some '.' ||
      (first == some '#' && !(← peekIs '{' 1))
    if punctuation then
      advance
      nameBuffer := [.text (String.singleton (first.getD ' '))]
      nameBuffer := Interp.addText nameBuffer (← whitespaceText)
    if !(← lookingAtInterpolatedIdentifier) then return .inr nameBuffer
    if punctuation then
      nameBuffer := Interp.append nameBuffer (← interpolatedIdentifier fuel)
    else
      match ← variableDeclarationOrInterpolation fuel with
      | .inl d => return .inl d
      | .inr i => nameBuffer := Interp.append nameBuffer i
    modify fun s => { s with useAllowed := false }
    if ← matchesText "/*" then
      let s ← Reader.pos
      let _ ← scanComment
      nameBuffer := Interp.addText nameBuffer (← Reader.slice s (← Reader.pos))
    let mut mid ← whitespaceText
    let beforeColon ← Reader.pos
    if !(← scanChar ':') then
      return .inr (if mid.isEmpty then nameBuffer else Interp.addText nameBuffer " ")
    mid := mid ++ ":"
    let name := nameBuffer
    if name.initialPlain.startsWith "--" then
      let value ← rawValue fuel { silentComments := false }
      expectStatementSeparator
      let vs := ⟨beforeColon + 1, ← Reader.pos⟩
      return .inl (.decl name (some (.str value false vs, vs)) none true ⟨start, ← Reader.pos⟩)
    if ← scanChar ':' then
      return .inr (Interp.addText (Interp.addText nameBuffer mid) ":")
    let postColon ← whitespaceText
    match ← tryDeclarationChildren fuel name start none with
    | some nested => return .inl nested
    | none => pure ()
    mid := mid ++ postColon
    let couldBeSelector := postColon.isEmpty && (← lookingAtInterpolatedIdentifier)
    let before ← get
    let attempt : Reader (Option (Expr × Span)) := do
      let value ← expression fuel false false .none
      let valueSpan : Span := ⟨value.span.start, ← Reader.pos⟩
      if ← lookingAtChildren then
        if couldBeSelector then expectStatementSeparator
      else if !(← atEndOfStatement) then expectStatementSeparator
      return some (value, valueSpan)
    let outcome ← tryCatch (Sum.inl <$> attempt) (fun e => pure (Sum.inr e))
    match outcome with
    | .inr err =>
      if !couldBeSelector then throw err
      set before
      let additional ← almostAnyValue fuel false
      if (← peek) == some ';' then throw err
      return .inr (Interp.append (Interp.addText nameBuffer mid) additional)
    | .inl value =>
      if ← lookingAtChildren then
        match ← tryDeclarationChildren fuel name start value with
        | some nested => return .inl nested
        | none => pure ()
      expectStatementSeparator
      return .inl (.decl name value none false ⟨start, ← Reader.pos⟩)

def tryDeclarationChildren : Nat → Interp → Nat → Option (Expr × Span) → Reader (Option Stmt)
  | 0, _, _, _ => tooDeep
  | fuel + 1, name, start, value => do
    if !(← lookingAtChildren) then return none
    let body ← children fuel .declaration
    let stop ← Reader.pos
    blanks
    return some (.decl name value (some body) false ⟨start, stop⟩)

def declarationChild : Nat → Reader Stmt
  | 0 => tooDeep
  | fuel + 1 => do
    if ← peekIs '@' then declarationAtRule fuel
    else propertyOrVariableDeclaration fuel false

/-- Read an at-rule nested under a property: only control rules and messages may be there. -/
def declarationAtRule : Nat → Reader Stmt
  | 0 => tooDeep
  | fuel + 1 => do
    let start ← Reader.pos
    let name ← plainAtRuleName
    match name with
    | "content" => contentRule fuel start
    | "debug" => messageRule fuel start .debug
    | "each" => eachRule fuel start .declaration
    | "error" => messageRule fuel start .fail
    | "for" => forRule fuel start .declaration
    | "if" => ifRule fuel start .declaration
    | "include" => includeRule fuel start
    | "warn" => messageRule fuel start .warn
    | "while" => whileRule fuel start .declaration
    | _ => disallowedAtRule fuel start

def propertyOrVariableDeclaration : Nat → Bool → Reader Stmt
  | 0, _ => tooDeep
  | fuel + 1, parseCustom => do
    let start ← Reader.pos
    let first ← peek
    let name ← if first == some ':' || first == some '*' || first == some '.' ||
        (first == some '#' && !(← peekIs '{' 1)) then do
        advance
        let ws ← whitespaceText
        let ident ← interpolatedIdentifier fuel
        pure (Interp.append [.text (String.singleton (first.getD ' ') ++ ws)] ident)
      else do
        match ← variableDeclarationOrInterpolation fuel with
        | .inl d => return d
        | .inr i => pure i
    whitespace
    expectChar ':'
    if parseCustom && name.initialPlain.startsWith "--" then
      let vstart ← Reader.pos
      let value ← rawValue fuel { silentComments := false }
      expectStatementSeparator
      let vs : Span := ⟨vstart, ← Reader.pos⟩
      return .decl name (some (.str value false vs, vs)) none true ⟨start, ← Reader.pos⟩
    whitespace
    match ← tryDeclarationChildren fuel name start none with
    | some nested => return nested
    | none => pure ()
    let value ← expression fuel false false .none
    let valueSpan : Span := ⟨value.span.start, ← Reader.pos⟩
    match ← tryDeclarationChildren fuel name start (some (value, valueSpan)) with
    | some nested => return nested
    | none => pure ()
    expectStatementSeparator
    return .decl name (some (value, valueSpan)) none false ⟨start, ← Reader.pos⟩

def functionChild : Nat → Reader Stmt
  | 0 => tooDeep
  | fuel + 1 => do
    if !(← peekIs '@') then
      let start ← Reader.pos
      let before ← get
      let outcome ← tryCatch (Sum.inl <$> functionVariable fuel start)
        (fun e => pure (Sum.inr e))
      match outcome with
      | .inl d => return d
      | .inr err =>
        set before
        let other ← tryCatch (Sum.inl <$> declarationOrStyleRule fuel)
          (fun _ => pure (Sum.inr ()))
        match other with
        | .inr _ => throw err
        | .inl st =>
          let sp := st.span
          failSpan ("@function rules may only contain control rules, return statements, " ++
            "and variable declarations (and debug/warn/error).") sp.start sp.stop
    let start ← Reader.pos
    let name ← plainAtRuleName
    match name with
    | "debug" => messageRule fuel start .debug
    | "each" => eachRule fuel start .function
    | "error" => messageRule fuel start .fail
    | "for" => forRule fuel start .function
    | "if" => ifRule fuel start .function
    | "return" => returnRule fuel start
    | "warn" => messageRule fuel start .warn
    | "while" => whileRule fuel start .function
    | _ => disallowedAtRule fuel start

def functionVariable : Nat → Nat → Reader Stmt
  | 0, _ => tooDeep
  | fuel + 1, start => do
    if ← peekIs '$' then variableDeclaration fuel none start
    else
      let ns ← identifier
      expectChar '.'
      variableDeclaration fuel (some ns) start

def atRule : Nat → Bool → Reader (Option Stmt)
  | 0, _ => tooDeep
  | fuel + 1, root => do
    let start ← Reader.pos
    expectChar '@' (some "@-rule")
    let name ← interpolatedIdentifier fuel
    whitespace
    let wasUseAllowed := (← get).useAllowed
    modify fun s => { s with useAllowed := false }
    match Interp.asPlain name with
    | some "at-root" => some <$> atRootRule fuel start
    | some "charset" =>
      modify fun s => { s with useAllowed := wasUseAllowed }
      if !root then return some (← disallowedAtRule fuel start)
      let _ ← plainString
      return none
    | some "content" => some <$> contentRule fuel start
    | some "debug" => some <$> messageRule fuel start .debug
    | some "each" => some <$> eachRule fuel start .statement
    | some "else" => some <$> disallowedAtRule fuel start
    | some "error" => some <$> messageRule fuel start .fail
    | some "extend" => some <$> extendRule fuel start
    | some "for" => some <$> forRule fuel start .statement
    | some "forward" =>
      modify fun s => { s with useAllowed := wasUseAllowed }
      if !root then return some (← disallowedAtRule fuel start)
      some <$> forwardRule fuel start
    | some "function" => some <$> functionRule fuel start
    | some "if" => some <$> ifRule fuel start .statement
    | some "import" => some <$> importRule fuel start
    | some "include" => some <$> includeRule fuel start
    | some "media" => some <$> mediaRule fuel start
    | some "mixin" => some <$> mixinRule fuel start
    | some "return" => some <$> disallowedAtRule fuel start
    | some "supports" => some <$> supportsRule fuel start
    | some "use" =>
      modify fun s => { s with useAllowed := wasUseAllowed }
      if !root then return some (← disallowedAtRule fuel start)
      some <$> useRule fuel start
    | some "warn" => some <$> messageRule fuel start .warn
    | some "while" => some <$> whileRule fuel start .statement
    | _ => some <$> unknownAtRule fuel start name

def disallowedAtRule : Nat → Nat → Reader Stmt
  | 0, _ => tooDeep
  | fuel + 1, start => do
    let _ ← almostAnyValue fuel false
    failSpan "This at-rule is not allowed here." start (← Reader.pos)

def messageRule : Nat → Nat → (Expr → Span → Stmt) → Reader Stmt
  | 0, _, _ => tooDeep
  | fuel + 1, start, make => do
    let value ← expression fuel false false .none
    expectStatementSeparator
    return make value ⟨start, ← Reader.pos⟩

def returnRule : Nat → Nat → Reader Stmt
  | 0, _ => tooDeep
  | fuel + 1, start => do
    let value ← expression fuel false false .none
    expectStatementSeparator
    return .ret value ⟨start, ← Reader.pos⟩

def contentRule : Nat → Nat → Reader Stmt
  | 0, _ => tooDeep
  | fuel + 1, start => do
    if !(← get).inMixin then
      failSpan "@content is only allowed within mixin declarations." start (← Reader.pos)
    whitespace
    let args ← if ← peekIs '(' then argumentInvocation fuel true false else pure Args.none
    expectStatementSeparator
    modify fun s => { s with sawContent := true }
    return .content args ⟨start, ← Reader.pos⟩

def eachRule : Nat → Nat → BlockKind → Reader Stmt
  | 0, _, _ => tooDeep
  | fuel + 1, start, kind => do
    withFlag (·.inControl) (fun s v => { s with inControl := v }) true do
      expectChar '$'
      let first ← identifier true
      whitespace
      let vars ← eachVariables fuel [first]
      expectIdentifier "in"
      whitespace
      let list ← expression fuel false false .none
      let body ← children fuel kind
      let stop ← Reader.pos
      blanks
      return .each vars list body ⟨start, stop⟩

def eachVariables : Nat → List String → Reader (List String)
  | 0, _ => tooDeep
  | fuel + 1, acc => do
    if !(← scanChar ',') then return acc
    whitespace
    expectChar '$'
    let v ← identifier true
    whitespace
    eachVariables fuel (acc ++ [v])

def forRule : Nat → Nat → BlockKind → Reader Stmt
  | 0, _, _ => tooDeep
  | fuel + 1, start, kind => do
    withFlag (·.inControl) (fun s v => { s with inControl := v }) true do
      expectChar '$'
      let var ← identifier true
      whitespace
      expectIdentifier "from"
      whitespace
      modify fun s => { s with forBound := none }
      let loStart ← Reader.pos
      let lo ← expression fuel false false .bound
      let loSpan : Span := ⟨loStart, ← Reader.pos⟩
      let some exclusive := (← get).forBound | failHere "Expected \"to\" or \"through\"."
      whitespace
      let hiStart ← Reader.pos
      let hi ← expression fuel false false .none
      let hiSpan : Span := ⟨hiStart, ← Reader.pos⟩
      let body ← children fuel kind
      let stop ← Reader.pos
      blanks
      return .forRule var (lo, loSpan) (hi, hiSpan) (!exclusive) body ⟨start, stop⟩

def whileRule : Nat → Nat → BlockKind → Reader Stmt
  | 0, _, _ => tooDeep
  | fuel + 1, start, kind => do
    withFlag (·.inControl) (fun s v => { s with inControl := v }) true do
      let cond ← expression fuel false false .none
      let body ← children fuel kind
      let stop ← Reader.pos
      blanks
      return .whileRule cond body ⟨start, stop⟩

def ifRule : Nat → Nat → BlockKind → Reader Stmt
  | 0, _, _ => tooDeep
  | fuel + 1, start, kind => do
    withFlag (·.inControl) (fun s v => { s with inControl := v }) true do
      let cond ← expression fuel false false .none
      let body ← children fuel kind
      blanks
      let (clauses, orElse) ← elseClauses fuel kind [(cond, body)]
      let stop ← Reader.pos
      blanks
      return .ifRule clauses orElse ⟨start, stop⟩

def elseClauses : Nat → BlockKind → List (Expr × List Stmt) →
    Reader (List (Expr × List Stmt) × Option (List Stmt))
  | 0, _, _ => tooDeep
  | fuel + 1, kind, acc => do
    let before ← get
    whitespace
    let isElse ← if ← scanChar '@' then do
        if ← scanIdentifier "else" true then pure true
        else if ← scanIdentifier "elseif" true then
          Reader.seek ((← Reader.pos) - 2)
          pure true
        else pure false
      else pure false
    if !isElse then
      set before
      return (acc, none)
    whitespace
    if ← scanIdentifier "if" then
      whitespace
      let cond ← expression fuel false false .none
      let body ← children fuel kind
      elseClauses fuel kind (acc ++ [(cond, body)])
    else
      let body ← children fuel kind
      return (acc, some body)

def paramList : Nat → Reader Params
  | 0 => tooDeep
  | fuel + 1 => do
    expectChar '('
    whitespace
    let ps ← paramLoop fuel {}
    expectChar ')'
    return ps

def paramLoop : Nat → Params → Reader Params
  | 0, _ => tooDeep
  | fuel + 1, acc => do
    if !(← peekIs '$') then return acc
    let vstart ← Reader.pos
    advance
    let name ← identifier true
    whitespace
    if ← scanChar ':' then
      whitespace
      let d ← expression fuel false false .comma
      if acc.params.any (·.1 == name) then
        failSpan "Duplicate argument." vstart (← Reader.pos)
      let acc := { acc with params := acc.params ++ [(name, some d)] }
      if !(← scanChar ',') then return acc
      whitespace
      paramLoop fuel acc
    else if ← scanChar '.' then
      expectChar '.'
      expectChar '.'
      whitespace
      return { acc with rest := some name }
    else
      if acc.params.any (·.1 == name) then
        failSpan "Duplicate argument." vstart (← Reader.pos)
      let acc := { acc with params := acc.params ++ [(name, none)] }
      if !(← scanChar ',') then return acc
      whitespace
      paramLoop fuel acc

def mixinRule : Nat → Nat → Reader Stmt
  | 0, _ => tooDeep
  | fuel + 1, start => do
    let name ← identifier true
    whitespace
    let params ← if ← peekIs '(' then paramList fuel else pure {}
    let rs ← get
    if rs.inMixin || rs.inContentBlock then
      failSpan "Mixins may not contain mixin declarations." start (← Reader.pos)
    if rs.inControl then
      failSpan "Mixins may not be declared in control directives." start (← Reader.pos)
    whitespace
    modify fun s => { s with inMixin := true, sawContent := false }
    let body ← children fuel .statement
    let stop ← Reader.pos
    let hadContent := (← get).sawContent
    modify fun s => { s with inMixin := false, sawContent := false }
    blanks
    return .mixinDef name params body hadContent ⟨start, stop⟩

def functionRule : Nat → Nat → Reader Stmt
  | 0, _ => tooDeep
  | fuel + 1, start => do
    let name ← identifier true
    whitespace
    let params ← paramList fuel
    let rs ← get
    if rs.inMixin || rs.inContentBlock then
      failSpan "Mixins may not contain function declarations." start (← Reader.pos)
    if rs.inControl then
      failSpan "Functions may not be declared in control directives." start (← Reader.pos)
    if ["calc", "element", "expression", "url", "and", "or", "not", "clamp"].contains
        (unvendor name) then
      failSpan "Invalid function name." start (← Reader.pos)
    whitespace
    let body ← children fuel .function
    let stop ← Reader.pos
    blanks
    return .functionDef name params body ⟨start, stop⟩

def includeRule : Nat → Nat → Reader Stmt
  | 0, _ => tooDeep
  | fuel + 1, start => do
    let nsStart ← Reader.pos
    let first ← identifier
    let nsStop ← Reader.pos
    let (ns, name) ← if ← scanChar '.' then do
        let memberStart ← Reader.pos
        let n ← identifier
        assertPublic n memberStart
        pure (some (first, ⟨nsStart, nsStop⟩), n)
      else pure (none, first.replace "_" "-")
    let nameSpan : Span := ⟨nsStart, ← Reader.pos⟩
    whitespace
    let args ← if ← peekIs '(' then argumentInvocation fuel true false else pure Args.none
    whitespace
    let usingParams ← if ← scanIdentifier "using" then do
        whitespace
        let ps ← paramList fuel
        whitespace
        pure (some ps)
      else pure none
    if usingParams.isSome || (← lookingAtChildren) then
      let body ← withFlag (·.inContentBlock) (fun s v => { s with inContentBlock := v }) true
        (children fuel .statement)
      let stop ← Reader.pos
      blanks
      return .include ns name nameSpan args (some (usingParams.getD {}, body)) ⟨start, stop⟩
    expectStatementSeparator
    return .include ns name nameSpan args none ⟨start, ← Reader.pos⟩

def extendRule : Nat → Nat → Reader Stmt
  | 0, _ => tooDeep
  | fuel + 1, start => do
    let rs ← get
    if !rs.inStyleRule && !rs.inMixin && !rs.inContentBlock then
      failSpan "@extend may only be used within style rules." start (← Reader.pos)
    let value ← almostAnyValue fuel false
    let optional ← scanChar '!'
    if optional then expectIdentifier "optional"
    expectStatementSeparator
    return .extend value optional ⟨start, ← Reader.pos⟩

/-- Read `@at-root` after its name: a query, a block, or one style rule. -/
def atRootRule : Nat → Nat → Reader Stmt
  | 0, _ => tooDeep
  | fuel + 1, start => do
    if ← peekIs '(' then
      let q ← atRootQuery fuel
      whitespace
      let body ← children fuel .statement
      let stop ← Reader.pos
      blanks
      return .atRoot (some q) body ⟨start, stop⟩
    else if ← lookingAtChildren then
      let body ← children fuel .statement
      let stop ← Reader.pos
      blanks
      return .atRoot none body ⟨start, stop⟩
    else
      let rule ← styleRule fuel [] (← Reader.pos)
      return .atRoot none [rule] ⟨start, rule.span.stop⟩

/-- Read the query of `@at-root`: `(without: media)` and the like. -/
def atRootQuery : Nat → Reader Interp
  | 0 => tooDeep
  | fuel + 1 => do
    expectChar '('
    whitespace
    let first ← expression fuel false false .none
    let mut acc := Interp.append [.text "("] (exprInterp first)
    if ← scanChar ':' then
      whitespace
      let second ← expression fuel false false .none
      acc := Interp.append (Interp.addText acc ": ") (exprInterp second)
    expectChar ')'
    whitespace
    return Interp.addText acc ")"

def mediaRule : Nat → Nat → Reader Stmt
  | 0, _ => tooDeep
  | fuel + 1, start => do
    let query ← mediaQueryList fuel []
    let body ← children fuel .statement
    let stop ← Reader.pos
    blanks
    return .media query body ⟨start, stop⟩

def mediaQueryList : Nat → Interp → Reader Interp
  | 0, _ => tooDeep
  | fuel + 1, acc => do
    whitespace
    let acc ← mediaQuery fuel acc
    whitespace
    if !(← scanChar ',') then return acc
    mediaQueryList fuel (Interp.addText acc ", ")

def mediaQuery : Nat → Interp → Reader Interp
  | 0, _ => tooDeep
  | fuel + 1, acc => do
    if ← peekIs '(' then
      let acc ← mediaInParens fuel acc
      whitespace
      if ← scanIdentifier "and" then
        expectWhitespace
        mediaLogicSequence fuel (Interp.addText acc " and ") "and"
      else if ← scanIdentifier "or" then
        expectWhitespace
        mediaLogicSequence fuel (Interp.addText acc " or ") "or"
      else return acc
    else
      let first ← interpolatedIdentifier fuel
      if (Interp.asPlain first).map String.toLower == some "not" then
        expectWhitespace
        if !(← lookingAtInterpolatedIdentifier) then
          return ← mediaOrInterp fuel (Interp.addText acc "not ")
      let acc := Interp.append acc first
      whitespace
      if !(← lookingAtInterpolatedIdentifier) then return acc
      let second ← interpolatedIdentifier fuel
      whitespace
      let acc ← if (Interp.asPlain second).map String.toLower == some "and" then
          pure (Interp.addText acc " and ")
        else do
          let acc := Interp.append (Interp.addText acc " ") second
          if ← scanIdentifier "and" then
            whitespace
            pure (Interp.addText acc " and ")
          else return acc
      if ← scanIdentifier "not" then
        expectWhitespace
        return ← mediaOrInterp fuel (Interp.addText acc "not ")
      mediaLogicSequence fuel acc "and"

def mediaLogicSequence : Nat → Interp → String → Reader Interp
  | 0, _, _ => tooDeep
  | fuel + 1, acc, op => do
    let acc ← mediaOrInterp fuel acc
    whitespace
    if !(← scanIdentifier op) then return acc
    expectWhitespace
    mediaLogicSequence fuel (Interp.addText acc (" " ++ op ++ " ")) op

def mediaOrInterp : Nat → Interp → Reader Interp
  | 0, _ => tooDeep
  | fuel + 1, acc => do
    if ← peekIs '#' then
      let piece ← singleInterpolation fuel
      return acc ++ [piece]
    mediaInParens fuel acc

/-- Read a media condition in parentheses: a feature with a value, a range, a nested condition
or a negation. -/
def mediaInParens : Nat → Interp → Reader Interp
  | 0, _ => tooDeep
  | fuel + 1, acc => do
    expectChar '(' (some "media condition in parentheses")
    let mut acc := Interp.addText acc "("
    whitespace
    if ← peekIs '(' then
      acc ← mediaInParens fuel acc
      whitespace
      if ← scanIdentifier "and" then
        expectWhitespace
        acc ← mediaLogicSequence fuel (Interp.addText acc " and ") "and"
      else if ← scanIdentifier "or" then
        expectWhitespace
        acc ← mediaLogicSequence fuel (Interp.addText acc " or ") "or"
    else if ← scanIdentifier "not" then
      expectWhitespace
      acc ← mediaOrInterp fuel (Interp.addText acc "not ")
    else
      let e ← expression fuel false false .comparison
      acc := acc ++ [.expr e e.span]
      if ← scanChar ':' then
        whitespace
        let v ← expression fuel false false .none
        acc := Interp.addText acc ": " ++ [.expr v v.span]
      else
        match ← peek with
        | some c =>
          if c == '<' || c == '>' || c == '=' then
            advance
            let mut opText := String.singleton c
            if (c == '<' || c == '>') && (← scanChar '=') then opText := opText ++ "="
            whitespace
            let e2 ← expression fuel false false .comparison
            acc := Interp.addText acc (" " ++ opText ++ " ") ++ [.expr e2 e2.span]
            if (c == '<' || c == '>') && (← scanChar c) then
              let mut op2 := String.singleton c
              if ← scanChar '=' then op2 := op2 ++ "="
              whitespace
              let e3 ← expression fuel false false .comparison
              acc := Interp.addText acc (" " ++ op2 ++ " ") ++ [.expr e3 e3.span]
        | none => pure ()
    expectChar ')'
    whitespace
    return Interp.addText acc ")"

def supportsRule : Nat → Nat → Reader Stmt
  | 0, _ => tooDeep
  | fuel + 1, start => do
    let cond ← supportsCondition fuel
    whitespace
    let body ← children fuel .statement
    let stop ← Reader.pos
    blanks
    return .supports cond body ⟨start, stop⟩

/-- Read a `@supports` condition: a negation, or conditions joined by one operator. -/
def supportsCondition : Nat → Reader Supports
  | 0 => tooDeep
  | fuel + 1 => do
    if ← scanIdentifier "not" then
      whitespace
      return .negation (← supportsInParens fuel)
    let first ← supportsInParens fuel
    whitespace
    supportsOperations fuel first none

def supportsOperations : Nat → Supports → Option String → Reader Supports
  | 0, _, _ => tooDeep
  | fuel + 1, acc, op => do
    if !(← lookingAtIdentifier) then return acc
    let op' ← match op with
      | some o => do expectIdentifier o; pure o
      | none =>
        if ← scanIdentifier "or" then pure "or"
        else do expectIdentifier "and"; pure "and"
    whitespace
    let right ← supportsInParens fuel
    whitespace
    supportsOperations fuel (.operation acc right op') (some op')

/-- Read a `@supports` condition in parentheses, a function or an interpolation. -/
def supportsInParens : Nat → Reader Supports
  | 0 => tooDeep
  | fuel + 1 => do
    let start ← Reader.pos
    if ← lookingAtInterpolatedIdentifier then
      let ident ← interpolatedIdentifier fuel
      if (Interp.asPlain ident).map String.toLower == some "not" then
        failSpan "\"not\" is not a valid identifier here." start (← Reader.pos)
      if ← scanChar '(' then
        let args ← rawValue fuel { allowEmpty := true, allowSemicolon := true }
        expectChar ')'
        return .function ident args
      match ident with
      | [.expr e _] => return .interpolation e
      | _ => failSpan "Expected @supports condition." start (← Reader.pos)
    expectChar '('
    whitespace
    if ← scanIdentifier "not" then
      whitespace
      let c ← supportsInParens fuel
      whitespace
      expectChar ')'
      return .negation c
    if ← peekIs '(' then
      let c ← supportsCondition fuel
      whitespace
      expectChar ')'
      return c
    let before ← get
    let attempt : Reader Expr := do
      let name ← expression fuel false false .none
      expectChar ':'
      return name
    match ← tryCatch (Sum.inl <$> attempt) (fun e => pure (Sum.inr e)) with
    | .inl name =>
      let custom := match name with
        | .str text false _ => (Interp.initialPlain text).startsWith "--"
        | _ => false
      let value ← if custom then do
          let vs ← Reader.pos
          let v ← rawValue fuel {}
          pure (Expr.str v false ⟨vs, ← Reader.pos⟩)
        else do
          whitespace
          expression fuel false false .none
      expectChar ')'
      return .declaration name value custom
    | .inr err =>
      set before
      let ident ← interpolatedIdentifier fuel
      let contents ← rawValue fuel { allowEmpty := true, allowSemicolon := true,
                                     allowColon := false }
      if ← peekIs ':' then throw err
      expectChar ')'
      return .anything (Interp.append ident contents)

def importRule : Nat → Nat → Reader Stmt
  | 0, _ => tooDeep
  | fuel + 1, start => do
    let items ← importItems fuel []
    expectStatementSeparator
    return .importRule items ⟨start, ← Reader.pos⟩

def importItems : Nat → List ImportItem → Reader (List ImportItem)
  | 0, _ => tooDeep
  | fuel + 1, acc => do
    whitespace
    let item ← importItem fuel
    whitespace
    let acc := acc ++ [item]
    if ← scanChar ',' then importItems fuel acc else return acc

def importItem : Nat → Reader ImportItem
  | 0 => tooDeep
  | fuel + 1 => do
    let start ← Reader.pos
    let next ← peek
    if next == some 'u' || next == some 'U' then
      let e ← expression fuel false false .comma
      let url := exprInterp e
      whitespace
      let modifiers ← importModifiers fuel
      return .css url modifiers ⟨start, ← Reader.pos⟩
    let url ← plainString
    let urlStop ← Reader.pos
    let urlText ← Reader.slice start urlStop
    whitespace
    let modifiers ← importModifiers fuel
    if isPlainImportUrl url || modifiers.isSome then
      return .css [.text urlText] modifiers ⟨start, ← Reader.pos⟩
    return .load url ⟨start, urlStop⟩

def importModifiers : Nat → Reader (Option Interp)
  | 0 => tooDeep
  | fuel + 1 => do
    if (← atEndOfStatement) || (← peekIs ',') then return none
    let text ← almostAnyValue fuel false
    let text := match text.getLast? with
      | some (.text t) => text.dropLast ++ [.text (String.ofList (t.toList.reverse.dropWhile isBlankChar).reverse)]
      | _ => text
    return some text

def useRule : Nat → Nat → Reader Stmt
  | 0, _ => tooDeep
  | fuel + 1, start => do
    let url ← plainString
    whitespace
    let ns ← if ← scanIdentifier "as" then do
        whitespace
        if ← scanChar '*' then pure none else some <$> identifier
      else pure (some (defaultNamespace url))
    whitespace
    let config ← configuration fuel false
    expectStatementSeparator
    let stop ← Reader.pos
    if !(← get).useAllowed then
      failSpan "@use rules must be written before any other rules." start stop
    return .use url ns config ⟨start, stop⟩

def forwardRule : Nat → Nat → Reader Stmt
  | 0, _ => tooDeep
  | fuel + 1, start => do
    let url ← plainString
    whitespace
    if ← scanIdentifier "as" then
      whitespace
      let _ ← identifier true
      expectChar '*'
      whitespace
    if (← scanIdentifier "show") || (← scanIdentifier "hide") then memberList fuel
    let config ← configuration fuel true
    expectStatementSeparator
    let stop ← Reader.pos
    if !(← get).useAllowed then
      failSpan "@forward rules must be written before any other rules." start stop
    return .forward url config ⟨start, stop⟩

/-- Read an unknown at-rule after its name: an optional prelude, then a block or an end. -/
def unknownAtRule : Nat → Nat → Interp → Reader Stmt
  | 0, _, _ => tooDeep
  | fuel + 1, start, name => do
    withFlag (·.inUnknownAtRule) (fun s v => { s with inUnknownAtRule := v }) true do
      let value ← if (← peekIs '!') || (← atEndOfStatement) then pure none
        else some <$> almostAnyValue fuel false
      if ← lookingAtChildren then
        let body ← children fuel .statement
        let stop ← Reader.pos
        blanks
        return .atRule name value (some body) ⟨start, stop⟩
      expectStatementSeparator
      return .atRule name value none ⟨start, ← Reader.pos⟩

end

def readStylesheet (text : String) : Except SassError (List Stmt) :=
  let src := text.toList.toArray
  let fuel := 8 * src.size + 256
  let run : Reader (List Stmt) := do
    blanks
    topStatements fuel []
  (run.run src |>.run { pos := 0 }).map (·.1)

end CssBundle.Sass
