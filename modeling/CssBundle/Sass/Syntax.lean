import CssBundle.Sass.Value.Operate

/-!
# The syntax tree of a stylesheet

A stylesheet is read into statements, whose values are script expressions. Text that may hold
`#{...}` interpolation (selectors, property names, at-rule preludes, quoted strings, comments)
is an `Interp`: pieces of plain text and expressions.

Every expression and statement keeps the `Span` of stylesheet text it was read from, as
character positions, for the messages of errors found while it is evaluated.
-/

namespace CssBundle.Sass

/-- A stretch of the stylesheet text, from one character position up to another. -/
structure Span where
  start : Nat
  stop : Nat
  deriving Repr, Inhabited, BEq

/-- A fault of a stylesheet, with the stretch of text it concerns. -/
structure SassError where
  message : String
  span : Span
  deriving Repr, Inhabited

/-- Which piece of text ends an expression early: none, a comma, a comparison (`<`, `>`, or a
single `=`), or the word `to` or `through` of a `@for` rule, which is read with it. -/
inductive Until where
  | none
  | comma
  | comparison
  | bound
  deriving Repr, BEq, Inhabited

mutual

/-- A script expression. -/
inductive Expr where
  | number (value : Float) (unit : Option String) (span : Span)
  | color (c : Color) (span : Span)
  /-- A string: quoted, or an unquoted identifier-like text, with its interpolated pieces. -/
  | str (text : List Piece) (quoted : Bool) (span : Span)
  | bool (b : Bool) (span : Span)
  | null (span : Span)
  | var (ns : Option String) (name : String) (span : Span)
  | call (ns : Option String) (name : String) (args : Args) (span : Span)
  /-- A call of a function whose name is interpolated: always a plain CSS function. -/
  | interpCall (name : List Piece) (args : Args) (span : Span)
  /-- The `if()` function, which evaluates only the branch it takes. -/
  | ifCall (args : Args) (span : Span)
  /-- `calc()`, `min()`, `max()` or `clamp()` read as a calculation. -/
  | calc (name : String) (args : List Expr) (span : Span)
  /-- A binary operation; `slash` marks a division of two written numbers, which keeps its
  written form. -/
  | binary (op : BinOp) (l r : Expr) (slash : Bool) (span : Span)
  | unary (op : UnaryOp) (e : Expr) (span : Span)
  | list (items : List Expr) (sep : ListSep) (brackets : Bool) (span : Span)
  | map (pairs : List (Expr × Expr)) (span : Span)
  /-- An expression in parentheses. Outside a calculation its span is the inner expression's,
  so an operation on it spans from inside the first parenthesis to inside the last. -/
  | paren (e : Expr) (span : Span)
  /-- `&`, the selector of the enclosing style rule. -/
  | parent (span : Span)

/-- A piece of interpolated text. -/
inductive Piece where
  | text (s : String)
  | expr (e : Expr) (span : Span)

/-- The arguments of a call: positional, named, a rest argument (`$list...`) and a rest of named
arguments. -/
inductive Args where
  | mk (positional : List Expr) (named : List (String × Expr)) (rest : Option Expr)
      (keywordRest : Option Expr)

end

instance : Inhabited Expr := ⟨.null ⟨0, 0⟩⟩

abbrev Interp := List Piece

def Args.none : Args := .mk [] [] .none .none

def Expr.span : Expr → Span
  | .number _ _ s | .color _ s | .str _ _ s | .bool _ s | .null s | .var _ _ s | .call _ _ _ s
  | .interpCall _ _ s | .ifCall _ s | .calc _ _ s | .binary _ _ _ _ s | .unary _ _ s
  | .list _ _ _ s | .map _ s | .paren _ s | .parent s => s

def Interp.addText (i : Interp) (s : String) : Interp :=
  if s.isEmpty then i
  else match i.getLast? with
    | some (.text t) => i.dropLast ++ [.text (t ++ s)]
    | _ => i ++ [.text s]

def Interp.append (a b : Interp) : Interp :=
  b.foldl (fun acc p => match p with
    | .text s => acc.addText s
    | .expr e sp => acc ++ [.expr e sp]) a

def Interp.asPlain (i : Interp) : Option String :=
  i.foldl (fun acc p => match acc, p with
    | some s, .text t => some (s ++ t)
    | _, _ => none) (some "")

def Interp.initialPlain (i : Interp) : String :=
  match i with
  | .text t :: _ => t
  | _ => ""

def Interp.isEmpty (i : Interp) : Bool := i.all fun p => match p with
  | .text t => t.isEmpty
  | .expr _ _ => false

/-- The parameters of a mixin or function: names with optional defaults, and the name of a
rest parameter. -/
structure Params where
  params : List (String × Option Expr) := []
  rest : Option String := none
  deriving Inhabited

/-- A condition of `@supports`. -/
inductive Supports where
  | negation (c : Supports)
  | operation (l r : Supports) (op : String)
  | declaration (name value : Expr) (custom : Bool)
  | interpolation (e : Expr)
  | function (name args : Interp)
  | anything (contents : Interp)
  deriving Inhabited

/-- One item of an `@import`: a plain CSS import kept in the output, or a stylesheet to load. -/
inductive ImportItem where
  | css (url : Interp) (modifiers : Option Interp) (span : Span)
  | load (url : String) (span : Span)
  deriving Inhabited

/-- A statement of a stylesheet. -/
inductive Stmt where
  | styleRule (selector : Interp) (selectorSpan : Span) (body : List Stmt) (span : Span)
  /-- A declaration: its name, its value if any with the columns of its text and the blanks after
  it, the declarations nested under it if any, and whether it is a custom property (`--name`)
  whose value is kept as written. -/
  | decl (name : Interp) (value : Option (Expr × Span)) (body : Option (List Stmt)) (custom : Bool)
      (span : Span)
  | varDecl (ns : Option String) (name : String) (value : Expr) (guarded isGlobal : Bool)
      (span : Span)
  | comment (text : Interp) (span : Span)
  | media (query : Interp) (body : List Stmt) (span : Span)
  | supports (cond : Supports) (body : List Stmt) (span : Span)
  | atRule (name : Interp) (value : Option Interp) (body : Option (List Stmt)) (span : Span)
  | atRoot (query : Option Interp) (body : List Stmt) (span : Span)
  | mixinDef (name : String) (params : Params) (body : List Stmt) (hasContent : Bool)
      (span : Span)
  | functionDef (name : String) (params : Params) (body : List Stmt) (span : Span)
  /-- `@include`, with the namespace of the mixin and the span of the namespace, and the mixin's
  name with the span of the whole name. -/
  | include (ns : Option (String × Span)) (name : String) (nameSpan : Span) (args : Args)
      (content : Option (Params × List Stmt)) (span : Span)
  | content (args : Args) (span : Span)
  | ret (value : Expr) (span : Span)
  | ifRule (clauses : List (Expr × List Stmt)) (orElse : Option (List Stmt)) (span : Span)
  | each (vars : List String) (list : Expr) (body : List Stmt) (span : Span)
  /-- `@for`, with its bounds and the spans of their text: the first up to the end of `to` or
  `through`, the second with the blanks after it. -/
  | forRule (var : String) (lo hi : Expr × Span) (inclusive : Bool) (body : List Stmt)
      (span : Span)
  | whileRule (cond : Expr) (body : List Stmt) (span : Span)
  | debug (value : Expr) (span : Span)
  | warn (value : Expr) (span : Span)
  | fail (value : Expr) (span : Span)
  | extend (selector : Interp) (optional : Bool) (span : Span)
  /-- `@use` of a module by its address, with its namespace (none for `as *`) and the values of
  the variables it configures. -/
  | use (url : String) (ns : Option String) (config : List Expr) (span : Span)
  /-- `@forward` of a module by its address, with the values of the variables it configures. -/
  | forward (url : String) (config : List Expr) (span : Span)
  | importRule (items : List ImportItem) (span : Span)
  deriving Inhabited

def Stmt.span : Stmt → Span
  | .styleRule _ _ _ s | .decl _ _ _ _ s | .varDecl _ _ _ _ _ s | .comment _ s | .media _ _ s
  | .supports _ _ s | .atRule _ _ _ s | .atRoot _ _ s | .mixinDef _ _ _ _ s
  | .functionDef _ _ _ s | .include _ _ _ _ _ s | .content _ s | .ret _ s | .ifRule _ _ s
  | .each _ _ _ s | .forRule _ _ _ _ _ s | .whileRule _ _ s | .debug _ s | .warn _ s
  | .fail _ s | .extend _ _ s | .use _ _ _ s | .forward _ _ s | .importRule _ s => s

end CssBundle.Sass
