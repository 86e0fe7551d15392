import CssBundle.Sass.Eval.State

/-!
# Helpers of evaluation

What the evaluator needs besides its own recursion: how a function name is resolved, how the
arguments of a call are checked against parameters, the queries of `@at-root`, and the
selectors of `@keyframes` blocks.
-/

namespace CssBundle.Sass

/-- What a function name refers to. -/
inductive FunctionRef where
  | user (c : Callable)
  | builtin (f : BuiltinFn)
  /-- A function that reads the evaluator's state, by its name. -/
  | stateful (name : String)
  /-- No function: the call is kept as plain CSS. -/
  | plain

def metaFunctionNames : List String :=
  ["call", "content-exists", "function-exists", "get-function", "global-variable-exists",
   "keywords", "mixin-exists", "variable-exists", "unique-id"]

def namespaceSpan (ns : String) (span : Span) : Span := ⟨span.start, span.start + ns.length⟩

def Eval.moduleOf (ns : String) (span : Span) : Eval String := do
  match (← get).modules.lookup ns with
  | some m => return m
  | none => Eval.fail ("There is no module with the namespace \"" ++ ns ++ "\".") span

def Eval.memberFunction (m : String) (name : String) (span : Span) : Eval FunctionRef := do
  let normalized := name.replace "_" "-"
  if (moduleMetaFunctions m).contains normalized then return .stateful normalized
  match moduleBuiltin? m normalized with
  | some f => return .builtin f
  | none => Eval.fail "Undefined function." span

/-- Resolve a function name: a user function in scope, a function of a loaded module, a
built-in function, or nothing. -/
def Eval.resolveFunction (ns : Option String) (name : String) (span : Span) :
    Eval FunctionRef := do
  let normalized := name.replace "_" "-"
  match ns with
  | some n => Eval.memberFunction (← Eval.moduleOf n (namespaceSpan n span)) name span
  | none =>
    match ← Eval.lookupFunction normalized with
    | some c => return .user c
    | none =>
      match ← Eval.lookupFunction name with
      | some c => return .user c
      | none =>
        let s ← get
        match s.globalModules.findSome? (fun m =>
            if (moduleMetaFunctions m).contains normalized then some (FunctionRef.stateful normalized)
            else (moduleBuiltin? m normalized).map FunctionRef.builtin) with
        | some r => return r
        | none =>
          if metaFunctionNames.contains normalized then return .stateful normalized
          match globalBuiltin? normalized with
          | some f => return .builtin f
          | none => return .plain

def Eval.functionExists (name : String) : Eval Bool := do
  match ← Eval.resolveFunction none name ⟨0, 0⟩ with
  | .plain => return false
  | _ => return true

/-- Check the arguments of a call against the parameters of a mixin or function. Unknown names
are listed as the arguments list them, in the order the names were first met. -/
def verifyArguments (params : Params) (args : ArgValues) : Except String Unit := do
  let positional := args.positional.length
  let names := args.named.map (·.1)
  let mut namedUsed := 0
  for (i, (name, default)) in params.params.zipIdx.map (fun (p, i) => (i, p)) do
    if i < positional then
      if names.contains name then
        .error ("Argument $" ++ name ++ " was passed both by position and by name.")
    else if names.contains name then namedUsed := namedUsed + 1
    else if default.isNone then .error ("Missing argument $" ++ name ++ ".")
  if params.rest.isSome then return
  let count := params.params.length
  if positional > count then
    .error ("Only " ++ toString count ++ " " ++ (if names.isEmpty then "" else "positional ") ++
      (if count == 1 then "argument" else "arguments") ++ " allowed, but " ++
      toString positional ++ " " ++ (if positional == 1 then "was" else "were") ++ " passed.")
  if namedUsed < names.length then
    let declared := params.params.map (·.1)
    .error (noArgumentsNamed (names.filter (!declared.contains ·)))

/-- Fail when named arguments were left to a rest parameter and the body never read them: a
named argument is for a parameter or for `keywords()`. -/
def Eval.checkKeywordsRead (bound : Option (Nat × List (String × Value))) (span : Span) :
    Eval Unit := do
  match bound with
  | some (id, named@(_ :: _)) =>
    if !(← get).keywordsRead.contains id then
      Eval.fail (noArgumentsNamed (named.map (·.1))) span
  | _ => pure ()

/-! ## `@for` bounds -/

/-- The greatest bound of a `@for` loop, `2 ^ 63 - 1`. A bound is held in 64 bits: a larger one
is taken as this one, and a loop that reaches it is refused. -/
def maxBound : Int := 9223372036854775807

def minBound : Int := -9223372036854775808

def expectBound : Value → Except String Number
  | .number n _ => .ok n
  | other => .error (other.inspect ++ " is not a number.")

/-- The integer a bound of a `@for` loop is, held in 64 bits; a number that is no integer is named
by its bare value as a double is written. -/
def boundInt (v : Float) : Except String Int :=
  match fuzzyAsInt v with
  | some i => .ok (max minBound (min maxBound i))
  | none => .error (plainFloatText v ++ " is not an int.")

/-- The most rounds a `@while` loop runs. A loop still running after them stops with the error
of nesting too deep, so that every evaluation ends: `2 ^ 32`. -/
def whileRounds : Nat := 4294967296

def trimText (s : String) : String :=
  let isSpace (c : Char) : Bool := c == ' ' || c == '\t' || c == '\n' || c == '\r' || c == '\x0c'
  String.ofList ((s.toList.dropWhile isSpace).reverse.dropWhile isSpace).reverse

/-! ## `@at-root` -/

/-- Which rules `@at-root` leaves: with `keepNamed` (`with:`), all but the named ones; without
it (`without:`), the named ones. `all` names every rule, `rule` style rules. -/
structure AtRootQuery where
  keepNamed : Bool
  names : List String
  deriving Inhabited

/-- The query of `@at-root` without one written: leave style rules. -/
def AtRootQuery.default : AtRootQuery := { keepNamed := false, names := ["rule"] }

def AtRootQuery.excludesName (q : AtRootQuery) (name : String) : Bool :=
  (q.names.contains "all" || q.names.contains name) != q.keepNamed

def AtRootQuery.excludesStyleRules (q : AtRootQuery) : Bool :=
  (q.names.contains "all" || q.names.contains "rule") != q.keepNamed

def AtRootQuery.excludes (q : AtRootQuery) (n : CssNode) : Bool :=
  if q.names.contains "all" then !q.keepNamed
  else match n with
    | .rule .. => q.excludesStyleRules
    | .media .. => q.excludesName "media"
    | .supports .. => q.excludesName "supports"
    | .atRule name .. => q.excludesName name.toLower
    | _ => false

/-- Read an `@at-root` query from text: `(with: names)` or `(without: names)`. -/
def parseAtRootQuery (text : String) : Except String AtRootQuery :=
  readWhole text do
    expectChar '('
    whitespace
    let keepNamed ← scanIdentifier "with"
    if !keepNamed then
      if !(← scanIdentifier "without") then failHere "Expected \"with\" or \"without\"."
    whitespace
    expectChar ':'
    whitespace
    let names ← go (text.length + 1) []
    expectChar ')'
    if !(← isDone) then failHere "expected no more input."
    return { keepNamed, names }
where
  go : Nat → List String → Reader (List String)
    | 0, acc => pure acc
    | fuel + 1, acc => do
      let n ← identifier
      whitespace
      let acc := acc ++ [n.toLower]
      if ← lookingAtIdentifier then go fuel acc else return acc

/-- Where `@at-root` adds its children: given the paths of the ancestors it keeps, innermost
first, the path of the outermost run of kept ancestors that reaches the root, or the root, and
the kept ancestors inside it, which are copied. -/
def trimIncluded (parent : List Nat) (included : List (List Nat)) :
    List Nat × List (List Nat) :=
  if included.isEmpty then ([], [])
  else
    let step := fun (acc : List Nat × Option Nat) (entry : List Nat × Nat) =>
      let (current, contiguous) := acc
      let (p, i) := entry
      let contiguous := if current != p then none else contiguous
      (p.dropLast, some (contiguous.getD i))
    let (current, contiguous) := (included.zipIdx).foldl step (parent, none)
    if !current.isEmpty then ([], included)
    else
      let k := contiguous.getD 0
      (included[k]?.getD [], included.take k)

/-! ## `@keyframes` -/

def readKeyframePercentage : Reader String := do
  let mut acc := ""
  if ← scanChar '+' then acc := "+"
  match ← peek with
  | some c => if !c.isDigit && c != '.' then failHere "Expected number."
  | none => failHere "Expected number."
  acc := acc ++ (← digits)
  if ← scanChar '.' then acc := acc ++ "." ++ (← digits)
  match ← peek with
  | some 'e' | some 'E' =>
    advance
    acc := acc ++ "e"
    match ← peek with
    | some '+' | some '-' => acc := acc.push ((← peek).getD '+'); advance
    | _ => pure ()
    match ← peek with
    | some d => if !d.isDigit then failHere "Expected digit."
    | none => failHere "Expected digit."
    acc := acc ++ (← digits)
  | _ => pure ()
  expectChar '%'
  return acc ++ "%"

/-- Read the selectors of a keyframe block: `from`, `to` and percentages. -/
def parseKeyframeSelectors (text : String) : Except String (List String) :=
  readWhole text do
    let sels ← go (text.length + 1) []
    if !(← isDone) then failHere "expected no more input."
    return sels
where
  go : Nat → List String → Reader (List String)
    | 0, acc => pure acc
    | fuel + 1, acc => do
      whitespace
      let sel ← if ← lookingAtIdentifier then do
          if ← scanIdentifier "from" then pure "from"
          else if ← scanIdentifier "to" then pure "to"
          else failHere "Expected \"to\" or \"from\"."
        else readKeyframePercentage
      whitespace
      if ← scanChar ',' then go fuel (acc ++ [sel]) else return acc ++ [sel]

end CssBundle.Sass
