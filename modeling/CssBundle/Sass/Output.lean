import CssBundle.Sass.Syntax
import CssBundle.Sass.Selector
import CssBundle.Sass.Media

/-!
# The CSS tree and its text

Evaluating a stylesheet builds a tree of CSS nodes: style rules, `@keyframes` blocks, `@media`,
`@supports` and other at-rules hold children; declarations, comments and plain imports are
leaves. Declarations keep their values, which are turned into text only when the tree is
written, so a value with no CSS text fails then: at the columns of the declaration's value when
the value is a map or a function, and with no columns otherwise.

While the tree grows, a node is addressed by its path, the child positions leading to it from
the root. A node with children counts as empty until the tree is done: only declarations,
comments, imports and other at-rules make a following sibling visible.

The tree is written in the expanded style: each child on its own line indented by two spaces,
comments included, and one blank line after a top-level node that ends a group of rules.
-/

namespace CssBundle.Sass

/-- A node of the CSS tree. -/
inductive CssNode where
  | root (children : List CssNode)
  /-- A style rule, with the number of its selector in the extension store. -/
  | rule (selector : SelectorList) (children : List CssNode) (span : Span) (groupEnd : Bool)
      (id : Nat)
  /-- A block of `@keyframes`: its selectors (`from`, `to`, percentages). -/
  | keyframes (selectors : List String) (children : List CssNode) (span : Span)
      (groupEnd : Bool)
  | decl (name : String) (value : Value) (custom : Bool) (span : Span)
  | comment (text : String) (span : Span)
  | media (queries : List MediaQuery) (children : List CssNode) (span : Span) (groupEnd : Bool)
  | supports (condition : String) (children : List CssNode) (span : Span) (groupEnd : Bool)
  /-- An at-rule kept as written: its name, its prelude, and its children if it has a block. -/
  | atRule (name value : String) (children : Option (List CssNode)) (span : Span)
      (groupEnd : Bool)
  | cssImport (url : String) (modifiers : Option String) (span : Span)
  deriving Inhabited

def CssNode.children : CssNode → List CssNode
  | .root cs | .rule _ cs _ _ _ | .keyframes _ cs _ _ | .media _ cs _ _ | .supports _ cs _ _ => cs
  | .atRule _ _ (some cs) _ _ => cs
  | _ => []

def CssNode.withChildren (n : CssNode) (cs : List CssNode) : CssNode :=
  match n with
  | .root _ => .root cs
  | .rule s _ sp g i => .rule s cs sp g i
  | .keyframes s _ sp g => .keyframes s cs sp g
  | .media q _ sp g => .media q cs sp g
  | .supports c _ sp g => .supports c cs sp g
  | .atRule name v (some _) sp g => .atRule name v (some cs) sp g
  | other => other

def CssNode.copyEmpty (n : CssNode) : CssNode :=
  match n with
  | .rule s _ sp _ i => .rule s [] sp false i
  | .keyframes s _ sp _ => .keyframes s [] sp false
  | .media q _ sp _ => .media q [] sp false
  | .supports c _ sp _ => .supports c [] sp false
  | .atRule name v (some _) sp _ => .atRule name v (some []) sp false
  | other => other

def CssNode.markGroupEnd (n : CssNode) : CssNode :=
  match n with
  | .rule s cs sp _ i => .rule s cs sp true i
  | .media q cs sp _ => .media q cs sp true
  | .supports c cs sp _ => .supports c cs sp true
  | .atRule name v cs sp _ => .atRule name v cs sp true
  | other => other

def CssNode.groupEnd : CssNode → Bool
  | .rule _ _ _ g _ | .keyframes _ _ _ g | .media _ _ _ g | .supports _ _ _ g
  | .atRule _ _ _ _ g => g
  | _ => false

def CssNode.span : CssNode → Span
  | .root _ => ⟨0, 0⟩
  | .rule _ _ sp _ _ | .keyframes _ _ sp _ | .decl _ _ _ sp | .comment _ sp | .media _ _ sp _
  | .supports _ _ sp _ | .atRule _ _ _ sp _ | .cssImport _ _ sp => sp

def CssNode.isStyleRule : CssNode → Bool
  | .rule .. => true
  | _ => false

mutual

/-- A tree with the selector of every style rule replaced by the one `f` gives for its number,
when it gives one. -/
def CssNode.withSelectors (f : Nat → Option SelectorList) : CssNode → CssNode
  | .root cs => .root (CssNode.allWithSelectors f cs)
  | .rule s cs sp g i => .rule ((f i).getD s) (CssNode.allWithSelectors f cs) sp g i
  | .keyframes s cs sp g => .keyframes s (CssNode.allWithSelectors f cs) sp g
  | .media q cs sp g => .media q (CssNode.allWithSelectors f cs) sp g
  | .supports c cs sp g => .supports c (CssNode.allWithSelectors f cs) sp g
  | .atRule n v (some cs) sp g => .atRule n v (some (CssNode.allWithSelectors f cs)) sp g
  | other => other

def CssNode.allWithSelectors (f : Nat → Option SelectorList) : List CssNode → List CssNode
  | [] => []
  | n :: rest => n.withSelectors f :: CssNode.allWithSelectors f rest

end

/-! ## Paths -/

def CssNode.at? (n : CssNode) : List Nat → Option CssNode
  | [] => some n
  | i :: rest => match n.children[i]? with
    | some c => c.at? rest
    | none => none

def CssNode.modifyAt (n : CssNode) (path : List Nat) (f : CssNode → CssNode) : CssNode :=
  match path with
  | [] => f n
  | i :: rest => n.withChildren (n.children.modify i (fun c => c.modifyAt rest f))

/-- Add a child to the node at a path, answering the new tree and the child's position. -/
def CssNode.appendAt (n : CssNode) (path : List Nat) (child : CssNode) : CssNode × Nat :=
  let index := ((n.at? path).map (·.children.length)).getD 0
  (n.modifyAt path (fun p => p.withChildren (p.children ++ [child])), index)

def CssNode.markLastChild (n : CssNode) (path : List Nat) : CssNode :=
  n.modifyAt path fun p =>
    match p.children with
    | [] => p
    | cs => p.withChildren (cs.dropLast ++ [(cs.getLast?.getD default).markGroupEnd])

/-! ## Writing -/

mutual

/-- Whether a node writes nothing: a style rule with invisible selectors, or a node with
children of which none writes anything (other at-rules always write). -/
def CssNode.isInvisible : CssNode → Bool
  | .rule sel cs _ _ _ => listIsInvisible sel || CssNode.allInvisible cs
  | .keyframes _ cs _ _ | .media _ cs _ _ | .supports _ cs _ _ | .root cs =>
    CssNode.allInvisible cs
  | _ => false

def CssNode.allInvisible : List CssNode → Bool
  | [] => true
  | n :: ns => n.isInvisible && CssNode.allInvisible ns

end

def CssNode.hasFollowingSibling (n : CssNode) (path : List Nat) : Bool :=
  match path.getLast? with
  | none => false
  | some i =>
    match n.at? path.dropLast with
    | some parent => (parent.children.drop (i + 1)).any (!·.isInvisible)
    | none => false

def CssNode.requiresSemicolon : CssNode → Bool
  | .decl .. | .cssImport .. => true
  | .atRule _ _ none _ _ => true
  | _ => false

/-- The source text with what is needed to place positions on lines. -/
structure SourceLines where
  chars : Array Char

def SourceLines.columnOf (s : SourceLines) (pos : Nat) : Nat :=
  ((s.chars.toList.take pos).reverse.takeWhile (· != '\n')).length

def indentText (depth : Nat) : String := String.ofList (List.replicate (2 * depth) ' ')

/-- The least indentation of the lines of a text after its first: none when it has one line. -/
def minimumIndentation (text : String) : Option Int :=
  match text.splitOn "\n" with
  | [] | [_] => none
  | _ :: rest =>
    let widths := rest.filterMap fun line =>
      let blanks := (line.toList.takeWhile (fun c => c == ' ' || c == '\t')).length
      if blanks == line.length then none else some blanks
    match widths with
    | [] => some (-1)
    | w :: ws => some (Int.ofNat (ws.foldl min w))

/-- A multi-line comment re-indented: its later lines lose `strip` leading characters and get no
indentation of their own, so they keep their place relative to the comment's first line. -/
def reindentComment (text : String) (strip : Nat) : String :=
  match text.splitOn "\n" with
  | [] => ""
  | first :: rest => first ++ go rest 1
where
  /-- Write the remaining lines, `newlines` line breaks owed before the next text. -/
  go : List String → Nat → String
    | [], _ => ""
    | [line], newlines =>
      if line.all (fun c => c == ' ' || c == '\t') then " "
      else String.ofList (List.replicate newlines '\n') ++ String.ofList (line.toList.drop strip)
    | line :: rest, newlines =>
      if line.all (fun c => c == ' ' || c == '\t') then go rest (newlines + 1)
      else String.ofList (List.replicate newlines '\n') ++ String.ofList (line.toList.drop strip) ++
        go rest 1

/-- The text of a comment: its later lines lose as many leading blanks as they all have, but no
more than the column the comment starts at. -/
def commentText (s : SourceLines) (text : String) (span : Span) : String :=
  match minimumIndentation text with
  | none => text
  | some m =>
    let strip := min m (s.columnOf span.start)
    reindentComment text strip.toNat

mutual

def CssNode.write (s : SourceLines) (depth : Nat) : CssNode → Except SassError String
  | .root cs => CssNode.writeTop s cs "" false false
  | .rule sel cs _ _ _ => do
    let body ← if CssNode.allInvisible cs then pure "\x7b\x7d"
      else CssNode.writeChildren s depth cs "\x7b" none
    return indentText depth ++ outputListText sel ++ " " ++ body
  | .keyframes sels cs _ _ => do
    let body ← if CssNode.allInvisible cs then pure "\x7b\x7d"
      else CssNode.writeChildren s depth cs "\x7b" none
    return indentText depth ++ ", ".intercalate sels ++ " " ++ body
  | .decl name value custom sp => do
    let text ← (if custom then value.interpolated else value.css true).mapError fun message =>
      { message, span := match value with
          | .map _ | .function _ _ => sp
          | _ => ⟨0, 0⟩ }
    return indentText depth ++ name ++ ":" ++ (if custom then "" else " ") ++ text
  | .comment text sp => .ok (indentText depth ++ commentText s text sp)
  | .media qs cs _ _ => do
    let body ← if CssNode.allInvisible cs then pure "\x7b\x7d"
      else CssNode.writeChildren s depth cs "\x7b" none
    return indentText depth ++ "@media " ++ ", ".intercalate (qs.map (·.text)) ++ " " ++ body
  | .supports c cs _ _ => do
    let body ← if CssNode.allInvisible cs then pure "\x7b\x7d"
      else CssNode.writeChildren s depth cs "\x7b" none
    return indentText depth ++ "@supports " ++ c ++ " " ++ body
  | .atRule name value none _ _ =>
    .ok (indentText depth ++ "@" ++ name ++ (if value.isEmpty then "" else " " ++ value))
  | .atRule name value (some cs) _ _ => do
    let head := indentText depth ++ "@" ++ name ++ (if value.isEmpty then "" else " " ++ value)
    if CssNode.allInvisible cs then return head ++ " \x7b\x7d"
    let body ← CssNode.writeChildren s depth cs "\x7b" none
    return head ++ " " ++ body
  | .cssImport url modifiers _ =>
    .ok (indentText depth ++ "@import " ++ url ++ (match modifiers with
      | some m => " " ++ m
      | none => ""))

/-- Write the children of a block one after another, each on its own line; `previous` is the last
child written. -/
def CssNode.writeChildren (s : SourceLines) (depth : Nat) :
    List CssNode → String → Option CssNode → Except SassError String
  | [], acc, previous =>
    match previous with
    | none => .ok (acc ++ "\x7d")
    | some prev =>
      let acc := if prev.requiresSemicolon then acc ++ ";" else acc
      .ok (acc ++ "\n" ++ indentText depth ++ "\x7d")
  | n :: rest, acc, previous => do
    if n.isInvisible then CssNode.writeChildren s depth rest acc previous
    else
      let acc := match previous with
        | some prev => if prev.requiresSemicolon then acc ++ ";" else acc
        | none => acc
      let t ← n.write s (depth + 1)
      CssNode.writeChildren s depth rest (acc ++ "\n" ++ t) (some n)

/-- Write top-level nodes: one per line, a blank line after a node that ends a group. -/
def CssNode.writeTop (s : SourceLines) : List CssNode → String → Bool → Bool →
    Except SassError String
  | [], acc, _, semi => .ok (if semi then acc ++ ";" else acc)
  | n :: rest, acc, groupEnd, semi => do
    if n.isInvisible then CssNode.writeTop s rest acc groupEnd semi
    else
      let acc := if semi then acc ++ ";" else acc
      let acc := if acc.isEmpty then acc else acc ++ "\n"
      let acc := if groupEnd && !acc.isEmpty then acc ++ "\n" else acc
      let text ← n.write s 0
      CssNode.writeTop s rest (acc ++ text) n.groupEnd n.requiresSemicolon

end

/-- The whole CSS text of a tree: nodes, a line break at the end, and `@charset "UTF-8";` first
when the text has characters outside ASCII. -/
def CssNode.render (root : CssNode) (source : String) : Except SassError String := do
  let s : SourceLines := ⟨source.toList.toArray⟩
  let body ← CssNode.writeTop s root.children "" false false
  let body := if body.isEmpty then body else body ++ "\n"
  if body.toList.any (·.toNat ≥ 0x80) then return "@charset \"UTF-8\";\n" ++ body
  return body

end CssBundle.Sass
