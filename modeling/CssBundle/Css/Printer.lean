import CssBundle.Css.Syntax
import CssBundle.Text.Units
import CssBundle.SourceMap.Builder

/-!
# Printing a stylesheet

The expanded form writes one rule after another with a blank line between top-level rules and a
line feed at the end. A block opens with `{` and a line feed, holds one declaration
(`property: value;`) or nested rule per line, indented two spaces per level, and closes with `}`
on a line of its own; an empty block is `{}`. A statement at-rule ends in `;`, and a comment is
written between `/*` and `*/` as read.

While writing, the printer can mark where each rule and declaration begins: the line and UTF-16
column of its first character in the output, against the start of its span in the source. The
marks, in writing order, are what a source map of the output records.
-/

namespace CssBundle.Css

open Text

/-- Where a rule or declaration begins in the output, and the span it was read from. -/
structure Mark where
  generated : LineColumn
  span : Span
  deriving Repr, Inhabited

/-- Output written so far: the text, the line and UTF-16 column after it, and the marks. -/
structure Output where
  text : String := ""
  line : Nat := 0
  column : Nat := 0
  marks : Array Mark := #[]
  deriving Inhabited

namespace Output

def push (o : Output) (s : String) : Output :=
  let (line, column) := s.toList.foldl (fun (lc : Nat × Nat) c =>
    if c = '\n' then (lc.1 + 1, 0) else (lc.1, lc.2 + units16 c)) (o.line, o.column)
  { o with text := o.text ++ s, line := line, column := column }

/-- Appends the indentation of a nesting depth: two spaces per level. -/
def indent (o : Output) (depth : Nat) : Output := o.push (String.ofList (List.replicate (2 * depth) ' '))

def mark (o : Output) (span : Span) : Output :=
  { o with marks := o.marks.push ⟨⟨o.line, o.column⟩, span⟩ }

end Output

mutual

def writeRule (depth : Nat) (o : Output) : Rule → Output
  | .style selector body span =>
    writeBlock depth (((o.indent depth).mark span).push selector |>.push " ") body
  | .atRule name prelude body span =>
    let o := ((o.indent depth).mark span).push "@" |>.push name
    let o := if prelude.isEmpty then o else (o.push " ").push prelude
    match body with
    | some items => writeBlock depth (o.push " ") items
    | none => o.push ";"
  | .comment text span => (((o.indent depth).mark span).push "/*").push text |>.push "*/"

def writeBlock (depth : Nat) (o : Output) : List Item → Output
  | [] => o.push "{}"
  | items => (writeItems depth (o.push "\x7b\n") items).indent depth |>.push "\x7d"

def writeItems (depth : Nat) (o : Output) : List Item → Output
  | [] => o
  | .decl property value span :: rest =>
    let o := (((o.indent (depth + 1)).mark span).push property).push ": " |>.push value |>.push ";\n"
    writeItems depth o rest
  | .rule r :: rest => writeItems depth ((writeRule (depth + 1) o r).push "\n") rest

end

def writeRules (o : Output) : List Rule → Output
  | [] => o
  | [r] => writeRule 0 o r
  | r :: rest => writeRules ((writeRule 0 o r).push "\n\n") rest

def Stylesheet.write (s : Stylesheet) : Output :=
  let o := writeRules {} s.rules
  if s.rules.isEmpty then o else o.push "\n"

def Stylesheet.render (s : Stylesheet) : String := s.write.text

/-- The expanded text of a stylesheet, with its marks added to a source map builder: each mark
maps its output position to the start of its span in the span's source, with no name. -/
def Stylesheet.renderWithMap (s : Stylesheet) (b : SourceMap.Builder) : String × SourceMap.Builder :=
  let o := s.write
  let b := o.marks.foldl (fun b m =>
    let (b, id) := b.addSource m.span.source
    b.addMapping ⟨m.generated, some ⟨id, m.span.start.lineColumn, none⟩⟩) b
  (o.text, b)

end CssBundle.Css
