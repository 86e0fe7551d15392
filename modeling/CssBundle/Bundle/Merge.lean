import CssBundle.Css.Syntax

/-!
# Merging stylesheets

Merging puts the rules of several stylesheets, in order, into one. Two things change on the way.
Every `@charset` is dropped, since the merged sheet is always UTF-8; one that named another
encoding leaves a warning. And every `@import` moves to the front, keeping the order of the
imports among themselves and of the other rules among themselves, because an import is only
valid before all other rules. An import that had to move past a rule leaves a warning naming the
first such rule: the first rule that is neither an import, a charset, a comment nor an `@layer`
statement without a block.

A warning carries the name of the file the dropped or moved rule came from.
-/

namespace CssBundle.Bundle

open Css

def mergedPath : String := "merged-stylesheets.css"

/-- A problem merging could work around, and the file it concerns. -/
structure MergeWarning where
  filename : String
  message : String
  deriving Repr, BEq, DecidableEq, Inhabited

/-- Why stylesheets could not be merged: there were none. -/
inductive MergeError where
  | empty
  deriving Repr, BEq, DecidableEq, Inhabited

def MergeError.message : MergeError → String
  | .empty => "Cannot merge an empty set of stylesheets"

/-- Whether a rule lets an import stay where it is: a comment, or a `@layer` statement. -/
def isNeutral (r : Rule) : Bool := r.isComment || (r.atRuleName? == some "layer" && r.isStatement)

def stripQuotes (s : String) : String :=
  let isQ (c : Char) : Bool := c = '"' || c = '\''
  String.ofList (((s.toList.dropWhile isQ).reverse.dropWhile isQ).reverse)

/-- The warning for a dropped `@charset`: none when it names UTF-8, in any ASCII case. -/
def charsetWarning (r : Rule) : Option MergeWarning :=
  match r with
  | .atRule _ prelude _ span =>
    if asciiLower (stripQuotes prelude) = "utf-8" then none
    else some ⟨span.source, "@charset " ++ prelude ++ " was dropped; the merged stylesheet is always UTF-8"⟩
  | _ => none

/-- The warning for an import moved above the rule described by `label`, from file `file`. -/
def hoistWarning (r : Rule) (label file : String) : MergeWarning :=
  ⟨r.span.source, r.describe ++ " was hoisted above " ++ label ++ " (" ++ file ++
    "); @import rules must precede all other rules"⟩

/-- Where a merge stands: the imports and the other rules kept so far, the warnings, and the
first rule an import may not move past, with its file. Lists are kept in reverse. -/
structure MergeState where
  imports : List Rule := []
  others : List Rule := []
  warnings : List MergeWarning := []
  blocker : Option (String × String) := none
  deriving Inhabited

def MergeState.step (st : MergeState) (r : Rule) : MergeState :=
  if r.isCharset then
    match charsetWarning r with
    | some w => { st with warnings := w :: st.warnings }
    | none => st
  else if r.isImport then
    match st.blocker with
    | some (label, file) =>
      { st with imports := r :: st.imports, warnings := hoistWarning r label file :: st.warnings }
    | none => { st with imports := r :: st.imports }
  else
    let blocker := match st.blocker with
      | none => if isNeutral r then none else some (r.describe, r.span.source)
      | some b => some b
    { st with others := r :: st.others, blocker := blocker }

/-- Merges stylesheets, in order, into one, with the warnings in the order met. -/
def merge (sheets : List Stylesheet) : Except MergeError (Stylesheet × List MergeWarning) :=
  match sheets with
  | [] => .error .empty
  | _ =>
    let st := (sheets.flatMap (·.rules)).foldl MergeState.step {}
    .ok (⟨mergedPath, st.imports.reverse ++ st.others.reverse⟩, st.warnings.reverse)

end CssBundle.Bundle
