import CssBundle.Text.Whitespace
import CssBundle.Text.Width

/-!
# Source excerpts

An excerpt shows where in a text a problem lies. It opens with the kind and the message, then a
frame: `╭─[path:line:column]`, an empty margin row, and the lines the marked stretch covers, each
with its number in a margin as wide as the largest number. Under a line that holds the stretch,
one row underlines it with `┬` at the label's attachment point (the middle of the stretch), and
the next row draws `╰──` from there to the label text. A stretch over several lines is drawn in a
column left of the text, from `╭─▶` on its first line to `├─▶` on its last; the lines between
show as a single `┆` row. The frame closes with `───╯`.

Columns are terminal columns: a tab reaches the next multiple of four (counted in characters),
other blanks take one, and other characters their display width. Lines are split at line feeds,
carriage returns (a CR LF pair ends one line), vertical tabs, form feeds and the Unicode line and
paragraph separators, and are shown without their trailing blanks.

With colour on, the kind and the marks take the label's colour (red for errors, yellow for
warnings), the frame and line numbers grey, and the text of the line a lighter grey.
-/

namespace CssBundle.Diagnostic

open Text

/-- How an excerpt is drawn: with or without terminal colours, and the label's colour code. -/
structure Palette where
  color : Bool
  label : String
  deriving Repr, Inhabited

namespace Palette

def frame : String := "38;5;246"

def faint : String := "38;5;240"

def plain : String := "38;5;249"

def paint (p : Palette) (code : String) (s : String) : String :=
  if p.color then "\x1b[" ++ code ++ "m" ++ s ++ "\x1b[0m" else s

end Palette

/-- A line of the text: the index of its first character and its characters, the line break
included. -/
structure SourceLine where
  offset : Nat
  chars : List Char
  deriving Repr, Inhabited

def isLineBreak (c : Char) : Bool :=
  c = '\n' || c = '\r' || c.toNat = 0x0B || c.toNat = 0x0C || c.toNat = 0x85 ||
    c.toNat = 0x2028 || c.toNat = 0x2029

/-- Splits characters into lines, each ending after its line break; CR LF ends one line. -/
def splitLines (cs : List Char) : List SourceLine :=
  go cs 0 [] []
where
  /-- `cur` holds the current line reversed, `start` the index of its first character. -/
  go : List Char → Nat → List Char → List SourceLine → List SourceLine
    | [], start, cur, acc => (if cur.isEmpty then acc else ⟨start, cur.reverse⟩ :: acc).reverse
    | '\r' :: '\n' :: rest, start, cur, acc =>
      let line : SourceLine := ⟨start, ('\n' :: '\r' :: cur).reverse⟩
      go rest (start + line.chars.length) [] (line :: acc)
    | c :: rest, start, cur, acc =>
      if isLineBreak c then
        let line : SourceLine := ⟨start, (c :: cur).reverse⟩
        go rest (start + line.chars.length) [] (line :: acc)
      else go rest start (c :: cur) acc

/-- The line holding a character index, its number, and the column in it; an index at the end
of the text belongs to the last line. -/
def lineAt (lines : List SourceLine) (total : Nat) (i : Nat) : Option (Nat × SourceLine × Nat) :=
  if i > total then none else
  let before := (lines.filter (·.offset ≤ i)).length
  let idx := before - 1
  (lines[idx]?).map fun l => (idx, l, i - l.offset)

def digitCount (n : Nat) : Nat := (Nat.toDigits 10 n).length

/-- The character shown for a character at a column, and the columns it takes. -/
def cellOf (c : Char) (col : Nat) : Char × Nat :=
  if c = '\t' then (' ', 4 - col % 4)
  else if isBlank c then (' ', 1)
  else (c, displayWidth c)

def spaces (n : Nat) : String := String.ofList (List.replicate n ' ')

/-- Where the label of a line sits: its column, whether it belongs to a stretch over several
lines, and whether its text is drawn on this line. -/
structure LineLabel where
  col : Nat
  multi : Bool
  drawMsg : Bool
  deriving Repr, Inhabited

/-- What an excerpt marks: the stretch `[start, stop)` of character indices, and the label
text. -/
structure Marked where
  start : Nat
  stop : Nat
  text : String
  deriving Repr, Inhabited

def Marked.last (m : Marked) : Nat := max (m.stop - 1) m.start

def Marked.covers (m : Marked) (i : Nat) : Bool := m.start ≤ i && i < m.stop

section Drawing

variable (pal : Palette) (width : Nat) (mk : Marked) (multi : Bool)

/-- The margin of a row: the line number (or an empty or broken bar) and, for a stretch over
several lines, its column. `row` tells which arrow row this is (`false` for the underline row,
`true` for the label row), when it is one. -/
def marginOf (idx : Nat) (line : SourceLine) (isLine ellipsis : Bool) (row : Option Bool)
    (marginLabel : Bool) : String :=
  let number := toString (idx + 1)
  let left :=
    if isLine && !ellipsis then
      pal.paint Palette.frame (spaces (width - number.length) ++ number ++ " │")
    else pal.paint Palette.faint (spaces (width + 1) ++ (if ellipsis then "┆" else "│"))
  let lineEnd := line.offset + line.chars.length
  let inLine (i : Nat) : Bool := line.offset ≤ i && i < lineEnd
  let column (col : Nat) : String :=
    let isParent := col ≠ 0
    let overlaps := mk.start ≤ lineEnd && mk.stop > line.offset
    let isStart := inLine mk.start
    let isEnd := inLine mk.last
    -- corner, horizontal bar, vertical bar, and the margin pointer with its start flag
    let (corner, hbar, vbar, pointer) : Option Bool × Bool × Bool × Option Bool :=
      if !overlaps then (none, false, false, none)
      else if marginLabel && isLine then (none, false, false, some isStart)
      else if !isStart && (!isEnd || isLine) then (none, false, !isParent, none)
      else match row with
        | some arrow =>
          let vbar0 := if marginLabel then col = 0 else false
          if marginLabel && isStart then (none, false, vbar0, none)
          else if arrow then (if isParent then none else some isStart, true, vbar0, none)
          else if !isStart then (none, false, vbar0 || !isParent, none)
          else (none, false, vbar0, none)
        | none => (none, false, false, none)
    let hbar := hbar || (pointer.isSome && isLine && col ≠ 0 && col + 1 ≠ 1)
    let hbar := hbar && (!marginLabel || !isLine)
    match corner with
    | some st => pal.paint pal.label (if st then "╭" else "╰") ++ pal.paint pal.label "─"
    | none =>
      if hbar then pal.paint pal.label "─" ++ pal.paint pal.label "─"
      else if vbar then pal.paint pal.label (if ellipsis then "┆" else "│") ++ " "
      else match pointer with
        | some st =>
          if isLine then
            let isLimit := col = 1
            let a := if isLimit then "▶" else if col = 0 then (if st then "╭" else "├") else "─"
            pal.paint pal.label a ++ pal.paint pal.label (if isLimit then " " else "─")
          else "  "
        | none => "  "
  " " ++ left ++ " " ++ (if multi then column 0 ++ column 1 else "")

/-- The cells of a row under a line: for each column up to `len`, the text drawn there, from
the characters of the line (a column past them takes one cell). -/
def cells (txt : List Char) (len : Nat) (draw : Nat → Nat → String) : String :=
  String.join ((List.range len).map fun col =>
    let w := match txt[col]? with
      | some c => (cellOf c col).2
      | none => 1
    draw col w)

/-- The rows drawn for one line of text, given whether the line before was drawn as `┆`;
returns the rows and whether this line was. -/
def lineRows (idx : Nat) (line : SourceLine) (ellipsisBefore : Bool) : String × Bool :=
  let lineEnd := line.offset + line.chars.length
  let inLine (i : Nat) : Bool := line.offset ≤ i && i < lineEnd
  let marginLabel : Option LineLabel :=
    if !multi then none
    else if inLine mk.start then some ⟨mk.start - line.offset, true, false⟩
    else if inLine mk.last then some ⟨mk.last - line.offset, true, true⟩
    else none
  let lineLabels : List LineLabel :=
    if multi then
      if inLine mk.start && marginLabel.isNone then [⟨mk.start - line.offset, true, false⟩]
      else if inLine mk.last then [⟨mk.last - line.offset, true, true⟩]
      else []
    else if mk.start ≥ line.offset && mk.stop ≤ lineEnd then
      [⟨(mk.start + mk.stop) / 2 - line.offset, false, true⟩]
    else []
  let hasMargin := marginLabel.isSome
  if lineLabels.isEmpty && !hasMargin && (ellipsisBefore || !mk.covers line.offset) then
    if !ellipsisBefore then (marginOf pal width mk multi idx line false false none false ++ "\n", true)
    else ("", true)
  else
  let ellipsis := lineLabels.isEmpty && !hasMargin
  let txt := dropBlankEnd line.chars
  let shown := multi || !lineLabels.isEmpty
  let textRow : String :=
    if ellipsis then "" else
    String.join ((txt.zipIdx).map fun (c, col) =>
      let code := if shown && mk.covers (line.offset + col) then pal.label else Palette.plain
      let (c', w) := cellOf c col
      if isBlank c' then String.join (List.replicate w (pal.paint code " "))
      else pal.paint code (String.singleton c'))
  let arrowLen := (match lineLabels with
    | [ll] => if ll.multi then line.chars.length else mk.stop - line.offset
    | _ => 0) + 2
  let arrows : String := match lineLabels with
    | [ll] =>
      let vbarAt (col : Nat) : Bool := !hasMargin && ll.col = col
      let underAt (col : Nat) : Bool := !ll.multi && mk.covers (line.offset + col)
      let under := cells txt arrowLen fun col w =>
        let (c, tail) :=
          if vbarAt col then
            if underAt col then (pal.paint pal.label "┬", pal.paint pal.label "─")
            else if ll.multi then (pal.paint pal.label "▲", pal.paint pal.label " ")
            else (pal.paint pal.label "│", pal.paint pal.label " ")
          else if underAt col then (pal.paint pal.label "─", pal.paint pal.label "─")
          else (" ", " ")
        String.join ((List.range w).map fun i => if i = 0 then c else tail)
      let label := cells txt arrowLen fun col w =>
        let isHbar := ((decide (col > ll.col)) ^^ ll.multi) || (ll.drawMsg && col > ll.col)
        let (c, tail) :=
          if col = ll.col && !hasMargin then
            (pal.paint pal.label (if ll.multi then (if ll.drawMsg then "┴" else "╯") else "╰"),
              pal.paint pal.label "─")
          else if isHbar then (pal.paint pal.label "─", pal.paint pal.label "─")
          else (" ", " ")
        (if w > 0 then c else "") ++ String.join (List.replicate (w - 1) tail)
      marginOf pal width mk multi idx line false ellipsis (some false) hasMargin ++ under ++ "\n" ++
        marginOf pal width mk multi idx line false ellipsis (some true) hasMargin ++ label ++
        (if ll.drawMsg then " " ++ mk.text else "") ++ "\n"
    | _ => ""
  (marginOf pal width mk multi idx line true ellipsis none hasMargin ++ textRow ++ "\n" ++ arrows,
    ellipsis)

end Drawing

/-- Draws the excerpt of a text under a heading: `kind` and `message` open it, `path` names the
text, and the stretch `[start, stop)` of character indices is marked with `labelText`. A text
with no lines shows the heading only. -/
def drawExcerpt (pal : Palette) (kind message path : String) (content : List Char)
    (start stop : Nat) (labelText : String) : String :=
  let heading := pal.paint pal.label (kind ++ ":") ++ " " ++ message ++ "\n"
  let lines := splitLines content
  let total := content.length
  let mk : Marked := ⟨start, stop, labelText⟩
  match lineAt lines total start, lineAt lines total mk.last with
  | some (first, _, col), some (last, _, _) =>
    let multi := first ≠ last
    let width := digitCount (last + 1)
    let top := spaces (width + 2) ++ pal.paint Palette.frame "╭" ++ pal.paint Palette.frame "─" ++
      pal.paint Palette.frame "[" ++ path ++ ":" ++ toString (first + 1) ++ ":" ++ toString (col + 1) ++
      pal.paint Palette.frame "]" ++ "\n" ++ spaces (width + 2) ++ pal.paint Palette.frame "│" ++ "\n"
    let (body, _) := (List.range (last + 1 - first)).foldl (fun (acc : String × Bool) k =>
      match lines[first + k]? with
      | some line =>
        let (rows, ell) := lineRows pal width mk multi (first + k) line acc.2
        (acc.1 ++ rows, ell)
      | none => acc) ("", false)
    let bottom := pal.paint Palette.frame (String.ofList (List.replicate (width + 2) '─') ++ "╯") ++ "\n"
    heading ++ top ++ body ++ bottom
  | _, _ => heading

end CssBundle.Diagnostic
