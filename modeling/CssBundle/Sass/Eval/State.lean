import CssBundle.Sass.Output
import CssBundle.Sass.Calc
import CssBundle.Sass.Builtin.Table
import CssBundle.Sass.Extend
import CssBundle.Sass.NameOrder

/-!
# The state of evaluation

Variables, functions and mixins live in frames. A scope is a chain of frames, innermost first,
ending at the global frame; a mixin or function keeps the chain it was defined in, so that its
body sees the variables around its definition, as they are when it runs. Frames are kept in one
store, so that two chains can share a frame and see each other's assignments.

An assignment goes to the innermost frame that has the variable. Inside a style rule, a mixin or
a function, a variable found only in the global frame is shadowed by a new local one, unless the
assignment says `!global`; the blocks of control rules at the top of the stylesheet are
semi-global: they assign to global variables, though new variables stay local to the block.

The CSS tree grows as statements are evaluated. A node is added to the current parent, or, for
rules that cannot nest in some parents (a style rule inside a style rule), to the nearest
ancestor that can hold it; if that ancestor already has a visible node after the current
branch, a copy of it is opened after that node instead, so the output keeps the order of the
stylesheet.
-/

namespace CssBundle.Sass

/-- A mixin or function defined in the stylesheet, with the scope chain of its definition. -/
structure Callable where
  name : String
  params : Params
  body : List Stmt
  scope : List Nat
  hasContent : Bool := false
  span : Span
  deriving Inhabited

/-- The block passed to a mixin with `@include`, with the scope chain where it was written and
the block that was passed to the mixin around that place, if any. -/
inductive ContentBlock where
  | mk (params : Params) (body : List Stmt) (scope : List Nat) (outer : Option ContentBlock)

/-- A frame of variables, functions and mixins. -/
structure Frame where
  vars : List (String × Value) := []
  functions : List (String × Callable) := []
  mixins : List (String × Callable) := []
  deriving Inhabited

/-- The style rule statements are nested in: its resolved selector as written, its span, and
the number of its selector in the extension store. -/
structure StyleContext where
  selector : SelectorList
  span : Span
  id : Nat
  deriving Inhabited

/-- Everything evaluation reads and changes. -/
structure EvalState where
  frames : Array Frame := #[{}]
  chain : List Nat := [0]
  semiGlobal : Bool := true
  content : Option ContentBlock := none
  inMixin : Bool := false
  inFunction : Bool := false
  tree : CssNode := .root []
  parent : List Nat := []
  styleRule : Option StyleContext := none
  atRootExcludingStyleRule : Bool := false
  mediaQueries : Option (List MediaQuery) := none
  mediaSources : List MediaQuery := []
  declarationName : Option String := none
  inKeyframes : Bool := false
  inUnknownAtRule : Bool := false
  inSupportsDeclaration : Bool := false
  /-- The namespaces of loaded modules and the modules they name. -/
  modules : List (String × String) := []
  /-- Modules loaded without a namespace. -/
  globalModules : List String := []
  /-- The plain CSS imports at the top of the stylesheet, which come before everything else. -/
  topImports : List CssNode := []
  uniqueCounter : Nat := 0
  /-- The names met so far, in the order they were first met. -/
  names : NameTable := {}
  /-- How many argument lists rest parameters have collected. -/
  argLists : Nat := 0
  /-- The argument lists whose named arguments were read. -/
  keywordsRead : List Nat := []
  /-- The selectors of the style rules and the extensions of them. -/
  extensions : ExtensionStore := {}

abbrev Eval := StateT EvalState (Except SassError)

def Eval.fail {α : Type} (message : String) (span : Span) : Eval α :=
  throw { message, span }

def Eval.lift {α : Type} (span : Span) (r : Except String α) : Eval α :=
  match r with
  | .ok a => pure a
  | .error m => Eval.fail m span

/-- Run a built-in function's computation, failing at the call's span or at the part of it
its fault concerns. -/
def Eval.liftCall {α : Type} (span : Span) (r : Except CallFault α) : Eval α :=
  match r with
  | .ok a => pure a
  | .error { message, place := some ((a, b), size) } =>
    if size ≤ span.stop - span.start then Eval.fail message ⟨span.start + a, span.start + b⟩
    else Eval.fail message span
  | .error { message, place := none } => Eval.fail message span

def Eval.extend {α : Type} (act : Extend α) : Eval α := do
  let s ← get
  match act.run s.extensions with
  | .ok (a, store) =>
    set { s with extensions := store }
    return a
  | .error e => throw e

def Eval.tooDeep {α : Type} (span : Span) : Eval α := Eval.fail "Nesting is too deep." span

/-! ## Frames -/

def EvalState.frame (s : EvalState) (id : Nat) : Frame := s.frames[id]?.getD {}

def Eval.modifyFrame (id : Nat) (f : Frame → Frame) : Eval Unit :=
  modify fun s => { s with frames := s.frames.modify id f }

/-- Set a key in an association list: in place when present, else at the end. -/
def assocSet {α : Type} (k : String) (v : α) (xs : List (String × α)) : List (String × α) :=
  if xs.any (·.1 == k) then xs.map fun (k', v') => if k' == k then (k', v) else (k', v')
  else xs ++ [(k, v)]

def EvalState.frameOfVar? (s : EvalState) (name : String) : Option Nat :=
  s.chain.find? fun id => (s.frame id).vars.any (·.1 == name)

def Eval.lookupVar (name : String) : Eval (Option Value) := do
  let s ← get
  match s.frameOfVar? name with
  | some id => return (s.frame id).vars.lookup name
  | none => return none

def Eval.lookupGlobal (name : String) : Eval (Option Value) := do
  return ((← get).frame 0).vars.lookup name

def EvalState.innermost (s : EvalState) : Nat := s.chain.headD 0

/-- Whether evaluation is at the top of the stylesheet, in the global frame only. -/
def EvalState.atRoot (s : EvalState) : Bool := s.chain.length ≤ 1

/-- Assign a variable, by the rules of scopes. A global assignment to a name the stylesheet has
no global variable of, but a module loaded without a namespace has, would change the module's
variable: built-in variables cannot change, and a name two such modules share is ambiguous. -/
def Eval.setVar (name : String) (value : Value) (isGlobal : Bool) (span : Span) : Eval Unit := do
  let s ← get
  if isGlobal || s.atRoot then
    if ((s.frame 0).vars.lookup name).isNone then
      match s.globalModules.filter fun m => (moduleVariable? m name).isSome with
      | [] => pure ()
      | [_] => Eval.fail "Cannot modify built-in variable." span
      | _ => Eval.fail "This variable is available from multiple global modules." span
    Eval.modifyFrame 0 fun f => { f with vars := assocSet name value f.vars }
  else
    let id := (s.frameOfVar? name).getD s.innermost
    let id := if !s.semiGlobal && id == 0 then s.innermost else id
    Eval.modifyFrame id fun f => { f with vars := assocSet name value f.vars }

/-- The value of a variable in the current scope, or else of a module loaded without a
namespace. -/
def Eval.lookupVisibleVar (name : String) : Eval (Option Value) := do
  match ← Eval.lookupVar name with
  | some v => return some v
  | none => return (← get).globalModules.findSome? (moduleVariable? · name)

def Eval.meetName (name : String) : Eval Unit :=
  modify fun s => { s with names := s.names.add name }

def Eval.readKeywords (id : Nat) : Eval Unit :=
  modify fun s => { s with keywordsRead := id :: s.keywordsRead }

def Eval.setLocal (name : String) (value : Value) : Eval Unit := do
  let id := (← get).innermost
  Eval.modifyFrame id fun f => { f with vars := assocSet name value f.vars }

def Eval.lookupFunction (name : String) : Eval (Option Callable) := do
  let s ← get
  return s.chain.findSome? fun id => (s.frame id).functions.lookup name

def Eval.lookupMixin (name : String) : Eval (Option Callable) := do
  let s ← get
  return s.chain.findSome? fun id => (s.frame id).mixins.lookup name

def Eval.defineFunction (c : Callable) : Eval Unit := do
  let id := (← get).innermost
  Eval.modifyFrame id fun f => { f with functions := assocSet c.name c f.functions }

def Eval.defineMixin (c : Callable) : Eval Unit := do
  let id := (← get).innermost
  Eval.modifyFrame id fun f => { f with mixins := assocSet c.name c f.mixins }

/-- Run a computation in a new innermost frame; `semiGlobal` keeps the power to assign to
global variables if the enclosing scope has it. -/
def Eval.withScope {α : Type} (semiGlobal : Bool) (act : Eval α) : Eval α := do
  let s ← get
  let id := s.frames.size
  set { s with frames := s.frames.push {}, chain := id :: s.chain,
               semiGlobal := semiGlobal && s.semiGlobal }
  let result ← act
  modify fun t => { t with chain := s.chain, semiGlobal := s.semiGlobal }
  return result

/-- Run a computation in the current frame, without the power to assign to global variables
that a semi-global scope has: a block that opens no frame still ends a semi-global one. -/
def Eval.withoutSemiGlobal {α : Type} (act : Eval α) : Eval α := do
  let old := (← get).semiGlobal
  modify fun s => { s with semiGlobal := false }
  let result ← act
  modify fun s => { s with semiGlobal := old }
  return result

/-- Run a computation in another scope chain, as the body of a mixin or function runs in the
scope of its definition. -/
def Eval.withChain {α : Type} (chain : List Nat) (act : Eval α) : Eval α := do
  let s ← get
  set { s with chain, semiGlobal := true }
  let result ← act
  modify fun t => { t with chain := s.chain, semiGlobal := s.semiGlobal }
  return result

/-! ## The CSS tree -/

/-- Add a node to the current parent, or, going up through the ancestors that `through`
matches, to the nearest one it does not; answer the node's path. -/
def Eval.addChild (node : CssNode) (through : Option (CssNode → Bool) := none) :
    Eval (List Nat) := do
  let s ← get
  let parentPath := match through with
    | none => s.parent
    | some f => climb f s.tree s.parent s.parent.length
  let (tree, parentPath) :=
    if through.isSome && s.tree.hasFollowingSibling parentPath then
      let grand := parentPath.dropLast
      let copy := ((s.tree.at? parentPath).map CssNode.copyEmpty).getD (.root [])
      let (t, i) := s.tree.appendAt grand copy
      (t, grand ++ [i])
    else (s.tree, parentPath)
  let (tree, index) := tree.appendAt parentPath node
  set { s with tree }
  return parentPath ++ [index]
where
  climb (f : CssNode → Bool) (tree : CssNode) : List Nat → Nat → List Nat
    | [], _ => []
    | path, 0 => path
    | path, fuel + 1 =>
      match tree.at? path with
      | some n => if f n then climb f tree path.dropLast fuel else path
      | none => path

/-- The style rule in force: none at the top, or in `@at-root` that leaves style rules. -/
def EvalState.currentStyleRule (s : EvalState) : Option StyleContext :=
  if s.atRootExcludingStyleRule then none else s.styleRule

def Eval.withParentPath {α : Type} (path : List Nat) (act : Eval α) : Eval α := do
  let old := (← get).parent
  modify fun s => { s with parent := path }
  let result ← act
  modify fun s => { s with parent := old }
  return result

/-- Add a parent node and run a computation inside it, in a new scope when `newScope`. -/
def Eval.withParent {α : Type} (node : CssNode) (through : Option (CssNode → Bool))
    (act : Eval α) (newScope : Bool := true) : Eval α := do
  let path ← Eval.addChild node through
  if newScope then Eval.withParentPath path (Eval.withScope false act)
  else Eval.withParentPath path (Eval.withoutSemiGlobal act)

end CssBundle.Sass
