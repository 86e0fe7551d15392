import CssBundle.Css.Syntax
import CssBundle.Text.Whitespace

/-!
# The compressed form of a stylesheet

The compressed form drops every blank that is not needed. A selector, prelude or value is
trimmed, each run of blanks inside it becomes one space, and that space is dropped next to a
character where no space is needed: `,` `>` `+` `~` in a selector, `,` in a prelude or value.
Quoted strings and the character after a backslash are copied as they are.

Declarations in a block are separated by `;`, with no `;` after the last one before a nested
rule or the end of the block. A comment is kept only when it starts with `!`, and a nested rule
that prints as nothing leaves no trace.
-/

namespace CssBundle.Css

open Text

/-- Where the collapsing of blanks stands: the open quote, a pending escape, a pending space. -/
structure CollapseState where
  quote : Option Char := none
  escaped : Bool := false
  pending : Bool := false
  deriving Repr, BEq, DecidableEq, Inhabited

/-- Collapses the blanks of trimmed characters; `out` is the output so far, reversed. -/
def collapseChars (tight : List Char) : List Char → CollapseState → List Char → List Char
  | [], _, out => out.reverse
  | c :: cs, st, out =>
    if st.quote.isSome || st.escaped then
      let st :=
        if st.escaped then { st with escaped := false }
        else if c = '\\' then { st with escaped := true }
        else if some c = st.quote then { st with quote := none }
        else st
      collapseChars tight cs st (c :: out)
    else if isBlank c then collapseChars tight cs { st with pending := true } out
    else
      let afterTight := match out with
        | last :: _ => tight.contains last
        | [] => false
      let out := if st.pending && !afterTight && !tight.contains c then ' ' :: out else out
      let st := { st with pending := false }
      let st :=
        if c = '"' || c = '\'' then { st with quote := some c }
        else if c = '\\' then { st with escaped := true }
        else st
      collapseChars tight cs st (c :: out)

/-- A text trimmed, with each inner run of blanks made one space, and spaces next to `tight`
characters dropped, outside quotes and escapes. -/
def collapseBlanks (text : String) (tight : List Char) : String :=
  String.ofList (collapseChars tight (trimChars text.toList) {} [])

def selectorTight : List Char := [',', '>', '+', '~']

mutual

def Rule.compressed : Rule → String
  | .style selector body _ =>
    collapseBlanks selector selectorTight ++ "\x7b" ++ Item.compressedBlock body false ++ "\x7d"
  | .atRule name prelude body _ =>
    let head := "@" ++ name ++ (if prelude.isEmpty then "" else " " ++ collapseBlanks prelude [','])
    match body with
    | some items => head ++ "\x7b" ++ Item.compressedBlock items false ++ "\x7d"
    | none => head ++ ";"
  | .comment text _ => if text.startsWith "!" then "/*" ++ text ++ "*/" else ""

/-- The compressed entries of a block; `open_` tells whether a declaration was written last and
still waits for its `;`. -/
def Item.compressedBlock : List Item → Bool → String
  | [], _ => ""
  | .decl property value _ :: rest, open_ =>
    (if open_ then ";" else "") ++ trim property ++ ":" ++ collapseBlanks value [','] ++
      Item.compressedBlock rest true
  | .rule r :: rest, open_ =>
    let printed := r.compressed
    if printed.isEmpty then Item.compressedBlock rest open_
    else (if open_ then ";" else "") ++ printed ++ Item.compressedBlock rest false

end

/-- The compressed form of a stylesheet: its rules' compressed forms, one after another. -/
def Stylesheet.compressed (s : Stylesheet) : String := String.join (s.rules.map Rule.compressed)

end CssBundle.Css
