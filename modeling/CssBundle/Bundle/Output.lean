import CssBundle.Css.Reader
import CssBundle.Css.Compressed
import CssBundle.SourceMap.Document
import CssBundle.Bundle.Merge
import CssBundle.Bundle.Mode

/-!
# Writing the bundle

A development build writes the merged stylesheet as it is, with its source map when the text is
not empty. A production build reads the merged text again and writes it compressed. With a
selector budget, the rules are spread over several files so that none exceeds the budget, as
far as single rules allow: imports and charsets stay in the first file, and every other rule
goes, in order, to the current file, or to a new one when the current file already counts
selectors and the rule's selectors would take it past the budget. A budget of 0 counts as 1.
-/

namespace CssBundle.Bundle

open Css

/-- Why the merged stylesheet could not be minified: the text that reading it again gave. -/
structure MinifyError where
  message : String
  deriving Repr, BEq, DecidableEq, Inhabited

def MinifyError.display (e : MinifyError) : String := "Minification failed: " ++ e.message

/-- Whether a rule stays in the first file: an import or a charset. -/
def isPinned (r : Rule) : Bool := r.isImport || r.isCharset

/-- Where a split stands: the first file, the later files (last first), each in reverse, and
the selectors counted in the last file. -/
structure SplitState where
  first : List Rule := []
  later : List (List Rule) := []
  count : Nat := 0
  deriving Inhabited

def SplitState.addToLast (st : SplitState) (r : Rule) : SplitState :=
  match st.later with
  | [] => { st with first := r :: st.first }
  | f :: fs => { st with later := (r :: f) :: fs }

def SplitState.step (budget : Nat) (st : SplitState) (r : Rule) : SplitState :=
  if isPinned r then { st with first := r :: st.first }
  else
    let n := r.selectorCount
    if st.count > 0 && st.count + n > budget then
      { st with later := [r] :: st.later, count := n }
    else { st.addToLast r with count := st.count + n }

def splitBySelectors (budget : Nat) (rules : List Rule) : List (List Rule) :=
  let st := rules.foldl (SplitState.step budget) {}
  st.first.reverse :: (st.later.reverse.map List.reverse)

/-- Minifies a text: one compressed text, or one per file under a selector budget. -/
def minify (code : String) (maxSelectors : Option Nat) : Except MinifyError (List String) :=
  match parse code mergedPath with
  | .error e =>
    .error ⟨e.message ++ " at " ++ toString e.lineColumn.1 ++ ":" ++ toString e.lineColumn.2⟩
  | .ok sheet =>
    match maxSelectors with
    | none => .ok [sheet.compressed]
    | some n => .ok ((splitBySelectors (max n 1) sheet.rules).map fun rs => String.join (rs.map Rule.compressed))

/-- A file the build writes: its path, its text, and its source map. -/
structure Artifact where
  path : String
  code : String
  sourceMap : Option String := none
  deriving Repr, Inhabited

def emit (code : String) (sourceMap : Option SourceMap) (mode : BuildMode)
    (maxSelectors : Option Nat) : Except MinifyError (List Artifact) :=
  match mode with
  | .development =>
    .ok [⟨mergedPath, code, if code.isEmpty then none else sourceMap.map (·.toJson)⟩]
  | .production => do
    let chunks ← minify code maxSelectors
    match chunks with
    | [one] => pure [⟨"merged-stylesheets.min.css", one, none⟩]
    | _ => pure ((chunks.zipIdx).map fun (c, i) =>
        ⟨"merged-stylesheets." ++ toString (i + 1) ++ ".min.css", c, none⟩)

end CssBundle.Bundle
