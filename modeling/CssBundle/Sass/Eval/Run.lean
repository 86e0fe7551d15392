import CssBundle.Sass.Eval.Support

/-!
# Evaluating a stylesheet

Expressions are evaluated to values and statements are executed into the CSS tree, in one
recursion bounded by a depth argument: a function call runs statements, and statements evaluate
expressions. Executing statements answers the value of an `@return` if one was reached.

A few rules shape the output:
- a style rule's selector is resolved against the enclosing rule's, and the rule is added beside
  it rather than inside it;
- `@media`, `@supports` and unknown at-rules inside a style rule wrap a copy of that rule, and
  nested `@media` rules merge their queries;
- declarations go into the current rule; nested declarations join their names with `-`;
- a number written as a division of two written numbers keeps its `a/b` text until it is used
  in arithmetic, stored in a variable or passed to a function.
-/

namespace CssBundle.Sass

def numberLiteral (v : Float) (unit : Option String) : Value :=
  .number (match unit with
    | some u => Number.withUnit v u
    | none => Number.plain v) none

def BinOp.calcOp? : BinOp → Option CalcOp
  | .plus => some .plus
  | .minus => some .minus
  | .times => some .times
  | .div => some .div
  | _ => none

def climbStyleRules : Option (CssNode → Bool) := some CssNode.isStyleRule

mutual

def evalExpr : Nat → Expr → Eval Value
  | 0, e => Eval.tooDeep e.span
  | fuel + 1, e =>
    match e with
    | .number v unit _ => return numberLiteral v unit
    | .color c _ => return .color c
    | .str pieces quoted _ => do return .string (← evalInterp fuel pieces) quoted
    | .bool b _ => return .bool b
    | .null _ => return .null
    | .var ns name span => do
      match ns with
      | some n =>
        let m ← Eval.moduleOf n (namespaceSpan n span)
        match moduleVariable? m name with
        | some v => return v
        | none => Eval.fail "Undefined variable." span
      | none =>
        match ← Eval.lookupVisibleVar name with
        | some v => return v
        | none => Eval.fail "Undefined variable." span
    | .call ns name args span => callFunction fuel ns name args span
    | .interpCall name args span => do
      let text ← evalInterp fuel name
      plainCall fuel text args span
    | .ifCall args span => ifCall fuel args span
    | .calc name args span => evalCalc fuel name args span
    | .binary op l r slash span => do
      match op with
      | .and =>
        let a ← evalExpr fuel l
        if a.isTruthy then evalExpr fuel r else return a
      | .or =>
        let a ← evalExpr fuel l
        if a.isTruthy then return a else evalExpr fuel r
      | _ =>
        let a ← evalExpr fuel l
        let b ← evalExpr fuel r
        let result ← Eval.lift span (applyBinary op a b)
        if op == .div && slash then
          match a, b, result with
          | .number ln ls, .number rn rs, .number n _ =>
            let text := (Value.number ln ls).inspect ++ "/" ++ (Value.number rn rs).inspect
            return .number n (some { text, left := ln, right := rn })
          | _, _, _ => return result
        else return result
    | .unary op inner span => do
      let v ← evalExpr fuel inner
      Eval.lift span (applyUnary op v)
    | .list items sep brackets _ => do
      let vs ← evalExprs fuel items
      return .list vs sep brackets
    | .map pairs _ => do return .map (← evalPairs fuel pairs [])
    | .paren inner _ => evalExpr fuel inner
    | .parent _ => do
      match (← get).styleRule with
      | some ctx => return ctx.selector.toValue
      | none => return .null

def evalExprs : Nat → List Expr → Eval (List Value)
  | 0, _ => Eval.tooDeep ⟨0, 0⟩
  | _ + 1, [] => return []
  | fuel + 1, e :: rest => do
    let v ← evalExpr fuel e
    return v :: (← evalExprs fuel rest)

/-- Evaluate the pairs of a map literal; a key may appear once. -/
def evalPairs : Nat → List (Expr × Expr) → List (Value × Value) → Eval (List (Value × Value))
  | 0, _, _ => Eval.tooDeep ⟨0, 0⟩
  | _ + 1, [], acc => return acc
  | fuel + 1, (k, v) :: rest, acc => do
    let key ← evalExpr fuel k
    let value ← evalExpr fuel v
    if (mapGet? acc key).isSome then Eval.fail "Duplicate key." k.span
    evalPairs fuel rest (acc ++ [(key, value)])

/-- The text of interpolated text: expressions give their text without quotes. -/
def evalInterp : Nat → Interp → Eval String
  | 0, _ => Eval.tooDeep ⟨0, 0⟩
  | _ + 1, [] => return ""
  | fuel + 1, p :: rest => do
    let head ← match p with
      | .text t => pure t
      | .expr e span => do
        let v ← evalExpr fuel e
        Eval.lift span v.interpolated
    return head ++ (← evalInterp fuel rest)

def evalNamed : Nat → List (String × Expr) → Eval (List (String × Value))
  | 0, _ => Eval.tooDeep ⟨0, 0⟩
  | _ + 1, [] => return []
  | fuel + 1, (k, e) :: rest => do
    let v ← evalExpr fuel e
    return (k, v.withoutSlash) :: (← evalNamed fuel rest)

/-- Evaluate the arguments of a call, spreading a rest argument and named ones from maps. The
named arguments are listed in the order their names were first met (see `NameTable`); spreading
an argument list reads its named arguments. -/
def evalArgs : Nat → Args → Eval ArgValues
  | 0, _ => Eval.tooDeep ⟨0, 0⟩
  | fuel + 1, .mk positional named rest keywordRest => do
    let pos := (← evalExprs fuel positional).map Value.withoutSlash
    let nm ← evalNamed fuel named
    let mut result : ArgValues := { positional := pos, named := nm }
    match rest with
    | none => pure ()
    | some r =>
      let v ← evalExpr fuel r
      match v with
      | .map entries =>
        for (k, value) in entries do
          match k with
          | .string key _ =>
            Eval.meetName (normalizeName key)
            result := { result with named := assocSet (normalizeName key) value result.named }
          | other =>
            Eval.fail ("Variable keyword argument map must have string keys.\n" ++
              other.inspect ++ " is not a string in " ++ v.inspect ++ ".") r.span
      | .list items sep _ =>
        result := { result with positional := result.positional ++ items.map Value.withoutSlash,
                                separator := sep }
      | .args items kw sep id =>
        Eval.readKeywords id
        result := { result with positional := result.positional ++ items.map Value.withoutSlash,
                                separator := sep,
                                named := kw.foldl (fun acc (k, x) => assocSet k x acc)
                                  result.named }
      | other => result := { result with positional := result.positional ++ [other.withoutSlash] }
    match keywordRest with
    | none => pure ()
    | some kr =>
      let v ← evalExpr fuel kr
      match v with
      | .map entries =>
        for (k, value) in entries do
          match k with
          | .string key _ =>
            Eval.meetName (normalizeName key)
            result := { result with named := assocSet (normalizeName key) value result.named }
          | other =>
            Eval.fail ("Variable keyword argument map must have string keys.\n" ++
              other.inspect ++ " is not a string in " ++ v.inspect ++ ".") kr.span
      | .list [] _ _ => pure ()
      | other =>
        Eval.fail ("Variable keyword arguments must be a map (was " ++ other.inspect ++ ").")
          kr.span
    return { result with named := (← get).names.order result.named }

def callFunction : Nat → Option String → String → Args → Span → Eval Value
  | 0, _, _, _, span => Eval.tooDeep span
  | fuel + 1, ns, name, args, span => do
    match ← Eval.resolveFunction ns name span with
    | .user c =>
      let values ← evalArgs fuel args
      runFunction fuel c values span
    | .builtin f =>
      let values ← evalArgs fuel args
      Eval.liftCall span (f values)
    | .stateful m =>
      let values ← evalArgs fuel args
      callStateful fuel m values span
    | .plain => plainCall fuel name args span

def callWithValues : Nat → Option String → String → ArgValues → Span → Eval Value
  | 0, _, _, _, span => Eval.tooDeep span
  | fuel + 1, ns, name, values, span => do
    callResolved fuel (← Eval.resolveFunction ns name span) name values span

def callResolved : Nat → FunctionRef → String → ArgValues → Span → Eval Value
  | 0, _, _, _, span => Eval.tooDeep span
  | fuel + 1, ref, name, values, span => do
    match ref with
    | .user c => runFunction fuel c values span
    | .builtin f => Eval.liftCall span (f values)
    | .stateful m => callStateful fuel m values span
    | .plain =>
      if !values.named.isEmpty then
        Eval.fail "Plain CSS functions don't support keyword arguments." span
      let texts ← Eval.lift span (values.positional.mapM (·.css true))
      return .string (name ++ "(" ++ ", ".intercalate texts ++ ")") false

def plainCall : Nat → String → Args → Span → Eval Value
  | 0, _, _, span => Eval.tooDeep span
  | fuel + 1, name, .mk positional named rest keywordRest, span => do
    if !named.isEmpty || keywordRest.isSome then
      Eval.fail "Plain CSS functions don't support keyword arguments." span
    let mut texts : List String := []
    for e in positional do
      let v ← evalExpr fuel e
      texts := texts ++ [← Eval.lift e.span (v.css true)]
    match rest with
    | some r =>
      let v ← evalExpr fuel r
      texts := texts ++ [← Eval.lift r.span (v.css true)]
    | none => pure ()
    return .string (name ++ "(" ++ ", ".intercalate texts ++ ")") false

def ifCall : Nat → Args → Span → Eval Value
  | 0, _, span => Eval.tooDeep span
  | fuel + 1, .mk positional named _ _, span => do
    let params : Params :=
      { params := [("condition", none), ("if-true", none), ("if-false", none)] }
    let shape : ArgValues :=
      { positional := positional.map (fun _ => Value.null),
        named := named.map fun (k, _) => (k, Value.null) }
    Eval.lift span (verifyArguments params shape)
    let pick (i : Nat) (key : String) : Expr :=
      match positional[i]? with
      | some e => e
      | none => (named.lookup key).getD (.null span)
    let cond ← evalExpr fuel (pick 0 "condition")
    let chosen := if cond.isTruthy then pick 1 "if-true" else pick 2 "if-false"
    return (← evalExpr fuel chosen).withoutSlash

def runFunction : Nat → Callable → ArgValues → Span → Eval Value
  | 0, _, _, span => Eval.tooDeep span
  | fuel + 1, c, values, span => do
    let s ← get
    let oldContent := s.content
    let oldInFunction := s.inFunction
    let (bound, result) ← Eval.withChain c.scope (Eval.withScope false do
      let bound ← bindParams fuel c.params values span
      modify fun t => { t with content := none, inFunction := true }
      return (bound, ← execBlock fuel c.body))
    modify fun t => { t with content := oldContent, inFunction := oldInFunction }
    match result with
    | some v =>
      Eval.checkKeywordsRead bound span
      return v.withoutSlash
    | none => Eval.fail "Function finished without @return." span

/-- Bind arguments to the parameters of a mixin, function or content block, in the innermost
frame; defaults are evaluated there, so they see earlier parameters. With a rest parameter, the
answer is the number of the argument list it collects and the named arguments left to it. -/
def bindParams : Nat → Params → ArgValues → Span → Eval (Option (Nat × List (String × Value)))
  | 0, _, _, span => Eval.tooDeep span
  | fuel + 1, params, values, span => do
    Eval.lift span (verifyArguments params values)
    let mut named := values.named
    let mut i := 0
    for (name, default) in params.params do
      match values.positional[i]? with
      | some v => Eval.setLocal name v
      | none =>
        match named.lookup name with
        | some v =>
          Eval.setLocal name v
          named := named.filter (·.1 != name)
        | none =>
          match default with
          | some d =>
            let v ← evalExpr fuel d
            Eval.setLocal name v.withoutSlash
          | none => Eval.fail ("Missing argument $" ++ name ++ ".") span
      i := i + 1
    match params.rest with
    | some restName =>
      let restItems := values.positional.drop params.params.length
      let sep := if values.separator == .undecided then .comma else values.separator
      let s ← get
      let id := s.argLists
      set { s with argLists := id + 1 }
      Eval.setLocal restName (.args restItems named sep id)
      return some (id, named)
    | none => return none

def callStateful : Nat → String → ArgValues → Span → Eval Value
  | 0, _, _, span => Eval.tooDeep span
  | fuel + 1, name, a, span => do
    let nameArg (key : String) : Eval String := do
      let v ← Eval.lift span (a.need 0 key)
      let (s, _) ← Eval.lift span (expectString key v)
      return s
    match name with
    | "variable-exists" =>
      Eval.lift span (a.maxArgs 1)
      let n ← nameArg "name"
      return .bool (← Eval.lookupVar (n.replace "_" "-")).isSome
    | "global-variable-exists" =>
      Eval.lift span (a.maxArgs 2)
      let n ← nameArg "name"
      match a.get? 1 "module" with
      | some (.string m _) =>
        let md ← Eval.moduleOf m span
        return .bool (moduleVariable? md (n.replace "_" "-")).isSome
      | _ => return .bool (← Eval.lookupGlobal (n.replace "_" "-")).isSome
    | "function-exists" =>
      Eval.lift span (a.maxArgs 2)
      let n ← nameArg "name"
      match a.get? 1 "module" with
      | some (.string m _) =>
        let md ← Eval.moduleOf m span
        return .bool ((moduleBuiltin? md (n.replace "_" "-")).isSome ||
          (moduleMetaFunctions md).contains n)
      | _ => return .bool (← Eval.functionExists n)
    | "mixin-exists" =>
      Eval.lift span (a.maxArgs 2)
      let n ← nameArg "name"
      return .bool (← Eval.lookupMixin (n.replace "_" "-")).isSome
    | "content-exists" =>
      Eval.lift span (a.maxArgs 0)
      let s ← get
      if !s.inMixin then Eval.fail "content-exists() may only be called within a mixin." span
      return .bool s.content.isSome
    | "get-function" =>
      Eval.lift span (a.maxArgs 3)
      let v ← Eval.lift span (a.need 0 "name")
      let (n, _) ← Eval.lift span (expectString "name" v)
      let css := (a.getD 1 "css" (.bool false)).isTruthy
      if css then return .function n none
      let ns ← match a.get? 2 "module" with
        | some (.string m _) => pure (some m)
        | _ => pure none
      match ← Eval.resolveFunction ns n span with
      | .plain => Eval.fail ("Function not found: " ++ v.inspect) span
      | _ =>
        match ns with
        | some m => return .function n (some (← Eval.moduleOf m span))
        | none => return .function n none
    | "call" =>
      match a.positional with
      | [] => Eval.fail "Missing argument $function." span
      | f :: rest =>
        let values : ArgValues := { a with positional := rest }
        match f with
        | .string n _ => callWithValues fuel none n values span
        | .function n none => callWithValues fuel none n values span
        | .function n (some md) =>
          callResolved fuel (← Eval.memberFunction md n span) n values span
        | other => Eval.fail (notA "function" other "a function reference") span
    | "unique-id" =>
      Eval.lift span (a.maxArgs 0)
      let s ← get
      set { s with uniqueCounter := s.uniqueCounter + 1 }
      Eval.lift span (fnUniqueId a s.uniqueCounter)
    | "keywords" =>
      match a.get? 0 "args" with
      | some (.args _ _ _ id) => Eval.readKeywords id
      | _ => pure ()
      Eval.lift span (fnKeywords a)
    | "module-variables" =>
      Eval.lift span (a.maxArgs 1)
      let n ← nameArg "module"
      let md ← Eval.moduleOf n span
      let names := (← get).names.orderNames (moduleVariableNames md)
      return .map (names.filterMap fun k =>
        (moduleVariable? md k).map fun v => (.string k true, v))
    | "module-functions" =>
      Eval.lift span (a.maxArgs 1)
      let n ← nameArg "module"
      let md ← Eval.moduleOf n span
      let names := (← get).names.orderNames (moduleFunctionNames md)
      return .map (names.map fun k => (.string k true, .function k (some md)))
    | _ => Eval.fail "Undefined function." span

def evalCalc : Nat → String → List Expr → Span → Eval Value
  | 0, _, _, span => Eval.tooDeep span
  | fuel + 1, name, args, span => do
    let inMinMax := name == "min" || name == "max"
    let mut terms : List CalcTerm := []
    for a in args do
      terms := terms ++ [← calcArg fuel a inMinMax]
    if (← get).inSupportsDeclaration then return .calc name terms
    let result := match name with
      | "calc" => .ok (calcOf (terms.headD (.text "")))
      | "min" => calcExtremum "min" terms fun x y => x.compareBy fuzzyLessThan y
      | "max" => calcExtremum "max" terms fun x y => x.compareBy fuzzyGreaterThan y
      | _ => calcClamp terms
    -- the faults of `min()` and `max()` point at no text
    Eval.lift (if inMinMax then ⟨0, 0⟩ else span) result

def calcArg : Nat → Expr → Bool → Eval CalcTerm
  | 0, e, _ => Eval.tooDeep e.span
  | fuel + 1, e, inMinMax => do
    match e with
    | .paren inner _ =>
      let r ← calcArg fuel inner inMinMax
      match inner, r with
      | .call none fname _ _, .text s =>
        if fname.toLower == "var" then return .text ("(" ++ s ++ ")") else return r
      | _, _ => return r
    | .str pieces false _ => return .interp (← evalInterp fuel pieces)
    | .binary op l r _ span =>
      match op.calcOp? with
      | some cop =>
        let a ← calcArg fuel l inMinMax
        let b ← calcArg fuel r inMinMax
        Eval.lift span (calcOperate cop a b inMinMax)
      | none =>
        let v ← evalExpr fuel e
        Eval.lift e.span (calcTermOf v)
    | other =>
      let v ← evalExpr fuel other
      Eval.lift other.span (calcTermOf v)

def execBlock : Nat → List Stmt → Eval (Option Value)
  | 0, _ => Eval.tooDeep ⟨0, 0⟩
  | _ + 1, [] => return none
  | fuel + 1, st :: rest => do
    match ← exec fuel st with
    | some v => return some v
    | none => execBlock fuel rest

def exec : Nat → Stmt → Eval (Option Value)
  | 0, st => Eval.tooDeep st.span
  | fuel + 1, st =>
    match st with
    | .styleRule sel selSpan body span => execStyleRule fuel sel selSpan body span
    | .decl name value body custom span => execDeclaration fuel name value body custom span
    | .varDecl ns name value guarded isGlobal span => do
      if guarded then
        let existing ← match ns with
          | some n => do
            let m ← Eval.moduleOf n (namespaceSpan n span)
            pure (moduleVariable? m name)
          | none => Eval.lookupVar name
        match existing with
        | some .null | none => pure ()
        | some _ => return none
      let v := (← evalExpr fuel value).withoutSlash
      match ns with
      | some _ => Eval.fail "Cannot modify built-in variable." span
      | none => Eval.setVar name v isGlobal span
      return none
    | .comment text span => do
      if (← get).inFunction then return none
      let t ← evalInterp fuel text
      let _ ← Eval.addChild (.comment t span)
      return none
    | .media query body span => execMedia fuel query body span
    | .supports cond body span => execSupports fuel cond body span
    | .atRule name value body span => execAtRule fuel name value body span
    | .atRoot query body span => execAtRoot fuel query body span
    | .mixinDef name params body hasContent span => do
      Eval.defineMixin { name, params, body, scope := (← get).chain, hasContent, span }
      return none
    | .functionDef name params body span => do
      Eval.defineFunction { name, params, body, scope := (← get).chain, span }
      return none
    | .include ns name nameSpan args content span =>
      execInclude fuel ns name nameSpan args content span
    | .content args span => execContent fuel args span
    | .ret value _ => do return some (← evalExpr fuel value).withoutSlash
    | .ifRule clauses orElse _ => do
      for (cond, body) in clauses do
        if (← evalExpr fuel cond).isTruthy then
          return ← Eval.withScope true (execBlock fuel body)
      match orElse with
      | some body => Eval.withScope true (execBlock fuel body)
      | none => return none
    | .each vars list body _ => do
      let items := (← evalExpr fuel list).asList
      Eval.withScope true do
        for item in items do
          match vars with
          | [v] => Eval.setLocal v item.withoutSlash
          | _ =>
            let parts := item.asList
            let mut i := 0
            for v in vars do
              Eval.setLocal v ((parts[i]?.getD .null).withoutSlash)
              i := i + 1
          match ← execBlock fuel body with
          | some r => return some r
          | none => pure ()
        return none
    | .forRule var (lo, loSpan) (hi, hiSpan) inclusive body _ => do
      let fromN ← Eval.lift loSpan (expectBound (← evalExpr fuel lo))
      let toN ← Eval.lift hiSpan (expectBound (← evalExpr fuel hi))
      if !toN.comparable fromN then
        Eval.fail "to and from values have incompatible units" ⟨loSpan.start, hiSpan.stop⟩
      let first ← Eval.lift loSpan (boundInt fromN.value)
      let toValue := if fromN.isUnitless || toN.isUnitless then toN.value
        else (toN.valueIn fromN.numer fromN.denom).getD toN.value
      let last ← Eval.lift hiSpan (boundInt toValue)
      if last == maxBound || last == minBound then
        Eval.fail "@for loop upper bound exceeds valid integer representation (i64::MAX)" hiSpan
      let direction : Int := if first > last then -1 else 1
      let stop := if inclusive then last + direction else last
      if first == stop then return none
      let count := (stop - first).natAbs
      Eval.withScope true do
        for k in [0:count] do
          let i := first + direction * k
          Eval.setLocal var (.number { fromN with value := Float.ofInt i } none)
          match ← execBlock fuel body with
          | some r => return some r
          | none => pure ()
        return none
    | .whileRule cond body _ => Eval.withScope true do
      for _ in [0:whileRounds] do
        if !(← evalExpr fuel cond).isTruthy then return none
        match ← execBlock fuel body with
        | some r => return some r
        | none => pure ()
      Eval.tooDeep cond.span
    | .debug value _ => do
      let _ ← evalExpr fuel value
      return none
    | .warn value _ => do
      let _ ← evalExpr fuel value
      return none
    | .fail value _ => do
      let v ← evalExpr fuel value
      Eval.fail v.inspect value.span
    | .extend sel optional span => execExtend fuel sel optional span
    | .use url ns config span => do
      for value in config do
        let _ ← evalExpr fuel value
      match builtinModuleOf? url with
      | some m =>
        if !config.isEmpty then Eval.fail "Built-in modules can't be configured." span
        for name in moduleFunctionNames m ++ moduleVariableNames m do
          Eval.meetName name
        match ns with
        | some n =>
          if (← get).modules.any (·.1 == n) then
            Eval.fail ("There's already a module with namespace \"" ++ n ++ "\".") span
          modify fun s => { s with modules := s.modules ++ [(n, m)] }
        | none =>
          let s ← get
          for name in s.names.orderNames ((s.frame 0).vars.map (·.1)) do
            if (moduleVariable? m name).isSome then
              Eval.fail ("This module and the new module both define a variable named \"$" ++
                name ++ "\".") span
          modify fun s => { s with globalModules := s.globalModules ++ [m] }
        return none
      | none => Eval.fail "Can't find stylesheet to import." span
    | .forward url config span => do
      for value in config do
        let _ ← evalExpr fuel value
      match builtinModuleOf? url with
      | some _ =>
        if !config.isEmpty then Eval.fail "Built-in modules can't be configured." span
        return none
      | none => Eval.fail "Can't find stylesheet to import." span
    | .importRule items _ => do
      for item in items do
        match item with
        | .css url modifiers span =>
          let u ← evalInterp fuel url
          let m ← match modifiers with
            | some i => some <$> evalInterp fuel i
            | none => pure none
          let node := CssNode.cssImport u m span
          let s ← get
          if !s.parent.isEmpty then
            let _ ← Eval.addChild node
          else set { s with topImports := s.topImports ++ [node] }
        | .load _ span => Eval.fail "Can't find stylesheet to import." span
      return none

def execStyleRule : Nat → Interp → Span → List Stmt → Span → Eval (Option Value)
  | 0, _, _, _, span => Eval.tooDeep span
  | fuel + 1, sel, selSpan, body, span => do
    let s ← get
    if s.declarationName.isSome then
      Eval.fail "Style rules may not be used within nested declarations." span
    let text := trimText (← evalInterp fuel sel)
    if s.inKeyframes then
      let sels ← Eval.lift selSpan (parseKeyframeSelectors text)
      Eval.withParent (.keyframes sels [] span false) climbStyleRules
        (do let _ ← execBlock fuel body)
      return none
    let parsed ← Eval.liftCall selSpan ((parseSelector text true true).mapError (·.inText text))
    let resolved ← Eval.lift selSpan
      (parsed.resolve (s.styleRule.map (·.selector)) (!s.atRootExcludingStyleRule))
    let (id, extended) ← Eval.extend (ExtensionStore.addSelector resolved)
    modify fun t => { t with atRootExcludingStyleRule := false }
    Eval.withParent (.rule extended [] span false id) climbStyleRules do
      let old := (← get).styleRule
      modify fun t => { t with styleRule := some { selector := resolved, span, id } }
      let _ ← execBlock fuel body
      modify fun t => { t with styleRule := old }
    modify fun t => { t with atRootExcludingStyleRule := s.atRootExcludingStyleRule }
    let t ← get
    if t.currentStyleRule.isNone then
      set { t with tree := t.tree.markLastChild t.parent }
    return none

def execDeclaration : Nat → Interp → Option (Expr × Span) → Option (List Stmt) → Bool → Span →
    Eval (Option Value)
  | 0, _, _, _, _, span => Eval.tooDeep span
  | fuel + 1, nameText, value, body, custom, span => do
    let s ← get
    if s.currentStyleRule.isNone && !s.inUnknownAtRule && !s.inKeyframes then
      Eval.fail "Declarations may only be used within style rules." span
    let n ← evalInterp fuel nameText
    let name := match s.declarationName with
      | some p => p ++ "-" ++ n
      | none => n
    match value with
    | some (e, valueSpan) =>
      let v ← evalExpr fuel e
      if !v.isBlank then
        let _ ← Eval.addChild (.decl name v custom valueSpan)
      else if name.startsWith "--" then
        Eval.fail "Custom property values may not be empty." e.span
    | none => pure ()
    match body with
    | some children =>
      modify fun t => { t with declarationName := some name }
      let _ ← Eval.withScope false (execBlock fuel children)
      modify fun t => { t with declarationName := s.declarationName }
    | none => pure ()
    return none

/-- Run statements inside a copy of the current style rule, if there is one, as `@media`,
`@supports` and unknown at-rules do with declarations inside them. -/
def inStyleRuleCopy : Nat → List Stmt → Bool → Eval Unit
  | 0, _, _ => Eval.tooDeep ⟨0, 0⟩
  | fuel + 1, body, newScope => do
    match (← get).currentStyleRule with
    | none => let _ ← execBlock fuel body
    | some ctx =>
      let sel := ((← get).extensions.rules[ctx.id]?.map (·.selector)).getD ctx.selector
      Eval.withParent (.rule sel [] ctx.span false ctx.id) none
        (do let _ ← execBlock fuel body) newScope

def execMedia : Nat → Interp → List Stmt → Span → Eval (Option Value)
  | 0, _, _, span => Eval.tooDeep span
  | fuel + 1, query, body, span => do
    let s ← get
    if s.declarationName.isSome then
      Eval.fail "Media rules may not be used within nested declarations." span
    let text ← evalInterp fuel query
    let queries ← Eval.lift span (parseMediaQueries text)
    let merged := s.mediaQueries.bind (mergeMediaQueries · queries)
    if merged.map List.isEmpty == some true then return none
    let sources := if merged.isNone then []
      else s.mediaSources ++ s.mediaQueries.getD [] ++ queries
    let through : CssNode → Bool := fun n =>
      n.isStyleRule || (!sources.isEmpty && match n with
        | .media qs .. => qs.all sources.contains
        | _ => false)
    let chosen := merged.getD queries
    Eval.withParent (.media chosen [] span false) (some through) (do
      modify fun t => { t with mediaQueries := some chosen, mediaSources := sources }
      inStyleRuleCopy fuel body false
      modify fun t => { t with mediaQueries := s.mediaQueries, mediaSources := s.mediaSources })
      false
    return none

def execSupports : Nat → Supports → List Stmt → Span → Eval (Option Value)
  | 0, _, _, span => Eval.tooDeep span
  | fuel + 1, cond, body, span => do
    if (← get).declarationName.isSome then
      Eval.fail "Supports rules may not be used within nested declarations." span
    let text ← supportsText fuel cond
    Eval.withParent (.supports text [] span false) climbStyleRules
      (inStyleRuleCopy fuel body true) false
    return none

def supportsText : Nat → Supports → Eval String
  | 0, _ => Eval.tooDeep ⟨0, 0⟩
  | fuel + 1, cond => do
    match cond with
    | .operation l r op =>
      let a ← supportsOperand fuel l (some op)
      let b ← supportsOperand fuel r (some op)
      return a ++ " " ++ op ++ " " ++ b
    | .negation c => return "not " ++ (← supportsOperand fuel c none)
    | .interpolation e =>
      let v ← evalExpr fuel e
      Eval.lift e.span (v.css false)
    | .declaration name value custom =>
      let old := (← get).inSupportsDeclaration
      modify fun t => { t with inSupportsDeclaration := true }
      let n ← evalExpr fuel name
      let nt ← Eval.lift name.span (n.css true)
      let v ← evalExpr fuel value
      let vt ← Eval.lift value.span (v.css true)
      modify fun t => { t with inSupportsDeclaration := old }
      return "(" ++ nt ++ ":" ++ (if custom then "" else " ") ++ vt ++ ")"
    | .function name args =>
      return (← evalInterp fuel name) ++ "(" ++ (← evalInterp fuel args) ++ ")"
    | .anything contents => return "(" ++ (← evalInterp fuel contents) ++ ")"

/-- The text of an operand of a `@supports` operation, in parentheses where needed. -/
def supportsOperand : Nat → Supports → Option String → Eval String
  | 0, _, _ => Eval.tooDeep ⟨0, 0⟩
  | fuel + 1, cond, op => do
    let text ← supportsText fuel cond
    let wrap := match cond with
      | .negation _ => true
      | .operation _ _ o => op.isNone || op != some o
      | _ => false
    return if wrap then "(" ++ text ++ ")" else text

def execAtRule : Nat → Interp → Option Interp → Option (List Stmt) → Span →
    Eval (Option Value)
  | 0, _, _, _, span => Eval.tooDeep span
  | fuel + 1, nameText, valueText, body, span => do
    let s ← get
    if s.declarationName.isSome then
      Eval.fail "At-rules may not be used within nested declarations." span
    let name ← evalInterp fuel nameText
    let value ← match valueText with
      | some v => do pure (trimText (← evalInterp fuel v))
      | none => pure ""
    match body with
    | none =>
      let _ ← Eval.addChild (.atRule name value none span false)
      return none
    | some children =>
      let keyframes := unvendor name == "keyframes"
      if keyframes then modify fun t => { t with inKeyframes := true }
      else modify fun t => { t with inUnknownAtRule := true }
      Eval.withParent (.atRule name value (some []) span false) climbStyleRules (do
        if (← get).inKeyframes then
          let _ ← execBlock fuel children
        else inStyleRuleCopy fuel children false) false
      modify fun t => { t with inKeyframes := s.inKeyframes, inUnknownAtRule := s.inUnknownAtRule }
      return none

def execAtRoot : Nat → Option Interp → List Stmt → Span → Eval (Option Value)
  | 0, _, _, span => Eval.tooDeep span
  | fuel + 1, query, body, span => do
    let q ← match query with
      | some i => do
        let text ← evalInterp fuel i
        Eval.lift span (parseAtRootQuery text)
      | none => pure AtRootQuery.default
    let s ← get
    let ancestors := (List.range s.parent.length).reverse.map fun k => s.parent.take (k + 1)
    let included := ancestors.filter fun p => match s.tree.at? p with
      | some n => !q.excludes n
      | none => false
    let (root, copied) := trimIncluded s.parent included
    if root == s.parent then
      let _ ← Eval.withScope false (execBlock fuel body)
      return none
    let innerPath ← match copied with
      | [] => pure root
      | first :: rest =>
        let innerCopy := ((s.tree.at? first).map CssNode.copyEmpty).getD (.root [])
        let outerCopy := rest.foldl (fun acc p =>
          (((s.tree.at? p).map CssNode.copyEmpty).getD (.root [])).withChildren [acc]) innerCopy
        let (tree, idx) := s.tree.appendAt root outerCopy
        set { s with tree }
        pure (root ++ [idx] ++ List.replicate rest.length 0)
    let keepsAtRule := included.any fun p => match s.tree.at? p with
      | some (.atRule ..) => true
      | _ => false
    modify fun t => { t with
      atRootExcludingStyleRule := if q.excludesStyleRules then true else t.atRootExcludingStyleRule,
      mediaQueries := if t.mediaQueries.isSome && q.excludesName "media" then none
        else t.mediaQueries,
      mediaSources := if t.mediaQueries.isSome && q.excludesName "media" then []
        else t.mediaSources,
      inKeyframes := if t.inKeyframes && q.excludesName "keyframes" then false else t.inKeyframes,
      inUnknownAtRule := if t.inUnknownAtRule && !keepsAtRule then false else t.inUnknownAtRule }
    let _ ← Eval.withParentPath innerPath (Eval.withScope false (execBlock fuel body))
    modify fun t => { t with
      atRootExcludingStyleRule := s.atRootExcludingStyleRule,
      mediaQueries := s.mediaQueries, mediaSources := s.mediaSources,
      inKeyframes := s.inKeyframes, inUnknownAtRule := s.inUnknownAtRule }
    return none

def execInclude : Nat → Option (String × Span) → String → Span → Args →
    Option (Params × List Stmt) → Span → Eval (Option Value)
  | 0, _, _, _, _, _, span => Eval.tooDeep span
  | fuel + 1, ns, name, nameSpan, args, content, span => do
    let mixin ← match ns with
      | some (n, nsSpan) => do
        let _ ← Eval.moduleOf n nsSpan
        pure none
      | none => Eval.lookupMixin name
    let some m := mixin | Eval.fail "Undefined mixin." span
    if content.isSome && !m.hasContent then
      Eval.fail "Mixin doesn't accept a content block." span
    let values ← evalArgs fuel args
    let s ← get
    let block := content.map fun (params, body) => ContentBlock.mk params body s.chain s.content
    let bound ← Eval.withChain m.scope (Eval.withScope false do
      let bound ← bindParams fuel m.params values nameSpan
      modify fun t => { t with content := block, inMixin := true }
      let _ ← execBlock fuel m.body
      return bound)
    modify fun t => { t with content := s.content, inMixin := s.inMixin }
    Eval.checkKeywordsRead bound nameSpan
    return none

def execContent : Nat → Args → Span → Eval (Option Value)
  | 0, _, span => Eval.tooDeep span
  | fuel + 1, args, span => do
    let s ← get
    match s.content with
    | none => return none
    | some (.mk params body chain outer) =>
      let values ← evalArgs fuel args
      let bound ← Eval.withChain chain (Eval.withScope false do
        let bound ← bindParams fuel params values span
        modify fun t => { t with content := outer, inMixin := false }
        let _ ← execBlock fuel body
        return bound)
      modify fun t => { t with content := s.content, inMixin := s.inMixin }
      Eval.checkKeywordsRead bound span
      return none

def execExtend : Nat → Interp → Bool → Span → Eval (Option Value)
  | 0, _, _, span => Eval.tooDeep span
  | fuel + 1, sel, optional, span => do
    let s ← get
    let some ctx := s.currentStyleRule
      | Eval.fail "@extend may only be used within style rules." span
    if s.declarationName.isSome then Eval.fail "@extend may only be used within style rules." span
    let text := trimText (← evalInterp fuel sel)
    let parsed ← Eval.liftCall span ((parseSelector text false true).mapError (·.inText text))
    let extender := (s.extensions.rules[ctx.id]?.map (·.selector)).getD ctx.selector
    for complex in parsed do
      match complex.components with
      | [.compound [simple]] =>
        Eval.extend (ExtensionStore.addExtension extender simple optional span)
      | [.compound parts] =>
        Eval.fail ("compound selectors may no longer be extended.\nConsider `@extend " ++
          ", ".intercalate (parts.map Simple.text) ++ "` instead.\n" ++
          "See http://bit.ly/ExtendCompound for details.\n") span
      | _ => Eval.fail "complex selectors may not be extended." span
    return none

end

end CssBundle.Sass
