import CssBundle.Sass.Reader.Sheet
import CssBundle.Sass.Eval.Run

/-!
# Compiling a stylesheet

`compile` reads a stylesheet, evaluates it into a CSS tree and writes the tree in the expanded
style. A failure is written as its message, the line it is on with carets under the columns it
covers, and its place as `./stdin:line:column`.
-/

namespace CssBundle.Sass

def lineColumn (cs : List Char) (pos : Nat) : Nat × Nat :=
  let before := cs.take pos
  (before.count '\n', (before.reverse.takeWhile (· != '\n')).length)

/-- An error as text: its message, the line it starts on with carets, and its place in the text
read from standard input. The carets start under the error's first column and are as many as its
first and last columns are apart, on whichever lines the two stand. -/
def SassError.render (e : SassError) (text : String) : String :=
  let cs := text.toList
  let (line, column) := lineColumn cs e.span.start
  let (_, stopColumn) := lineColumn cs e.span.stop
  let lineText := (text.splitOn "\n")[line]?.getD ""
  let lineText := if lineText.endsWith "\r" then (lineText.dropEnd 1).toString else lineText
  let number := toString (line + 1)
  let padding := String.ofList (List.replicate (number.length + 1) ' ')
  let width := if column ≤ stopColumn then stopColumn - column else column - stopColumn
  "Error: " ++ e.message ++ "\n" ++
  padding ++ "╷\n" ++
  number ++ " │ " ++ lineText ++ "\n" ++
  padding ++ "│ " ++ String.ofList (List.replicate column ' ') ++
    String.ofList (List.replicate width '^') ++ "\n" ++
  padding ++ "╵\n" ++
  "./stdin:" ++ number ++ ":" ++ toString (column + 1) ++ "\n"

/-- The tree with the plain CSS imports of the top of the stylesheet put before everything
else. -/
def placeImports (tree : CssNode) (imports : List CssNode) : CssNode :=
  match tree with
  | .root cs => .root (imports ++ cs)
  | t => t

def evaluate (text : String) : Except SassError CssNode := do
  let stmts ← readStylesheet text
  let fuel := 100000 + 16 * text.length
  let (_, s) ← (execBlock fuel stmts).run { names := nameOrder text }
  let tree := s.tree.withSelectors fun id => s.extensions.rules[id]?.map (·.selector)
  return placeImports tree s.topImports

def compile (text : String) : Except String String :=
  let result : Except SassError String := do
    let tree ← evaluate text
    tree.render text
  result.mapError (·.render text)

end CssBundle.Sass
