import CssBundle.Diagnostic.Catalog
import CssBundle.Diagnostic.Excerpt
import CssBundle.SourceText

/-!
# Diagnostic messages

A diagnostic has a title, an optional code from the catalog, a severity, an optional statement
of the problem, notes and hints, and an optional place: a range in one of the texts of a
`SourceSet`.

As text it is a sequence of lines. When its place can be shown from the texts at hand, the first
lines are a source excerpt headed by the code and title and labelled with the problem (or the
title). Otherwise they are a header (`Error [code]: title`), the problem, and `at line:column`
when the place is known. Then come the notes (`• note`), the hints (`? hint`), and, for a code
the catalog knows, its explanation (`ℹ …`).
-/

namespace CssBundle.Diagnostic

open Text

/-- How serious a diagnostic is. -/
inductive Severity where
  | error
  | warning
  deriving Repr, BEq, DecidableEq, Inhabited

def Severity.word : Severity → String
  | .error => "Error"
  | .warning => "Warning"

/-- The colour code of a severity's marks: red for errors, yellow for warnings. -/
def Severity.colorCode : Severity → String
  | .error => "31"
  | .warning => "33"

/-- A place in a text of a `SourceSet`: the text's number and a range in it. -/
structure Place where
  file : Nat
  range : Range
  deriving Repr, BEq, Inhabited

end CssBundle.Diagnostic

namespace CssBundle

/-- A diagnostic message. -/
structure Diagnostic where
  code : Option String := none
  title : String
  severity : Diagnostic.Severity := .error
  problem : Option String := none
  notes : List String := []
  hints : List String := []
  place : Option Diagnostic.Place := none
  deriving Repr, Inhabited

end CssBundle

namespace CssBundle.Diagnostic

open Text

def header (d : Diagnostic) : String :=
  match d.code with
  | some c => d.severity.word ++ " [" ++ c ++ "]: " ++ d.title
  | none => d.severity.word ++ ": " ++ d.title

/-- The excerpt of a diagnostic's place, when its text is at hand and the range's offsets fall
on character boundaries of it. An empty range marks one character. -/
def excerptAt (d : Diagnostic) (place : Place) (ctx : SourceSet) (color : Bool) : Option String := do
  let file ← ctx.get? place.file
  let cs := file.content.toList
  let start ← (prefixBytes cs place.range.start.offset).map List.length
  let stop ← (prefixBytes cs place.range.stop.offset).map List.length
  let stop := if stop > start then stop else min (start + 1) cs.length
  let message := match d.code with
    | some c => "[" ++ c ++ "] " ++ d.title
    | none => d.title
  let pal : Palette := ⟨color, d.severity.colorCode⟩
  pure (drawExcerpt pal d.severity.word message file.path cs start stop (d.problem.getD d.title))

def excerpt (d : Diagnostic) (ctx : SourceSet) : Option String :=
  d.place.bind fun p => d.excerptAt p ctx false

def render (d : Diagnostic) (ctx : Option SourceSet) (color : Bool) : String :=
  let shown : Option String := match ctx, d.place with
    | some ctx, some p => d.excerptAt p ctx color
    | _, _ => none
  let opening : List String := match shown with
    | some e => [trimEnd e]
    | none =>
      [d.header] ++ d.problem.toList ++
        (d.place.map fun p =>
          "at " ++ toString (p.range.start.row + 1) ++ ":" ++ toString (p.range.start.column + 1)).toList
  let explanation := (d.code.bind lookupCode).map fun i => "ℹ " ++ i.explanation
  "\n".intercalate (opening ++ d.notes.map ("• " ++ ·) ++ d.hints.map ("? " ++ ·) ++ explanation.toList)

def toText (d : Diagnostic) (ctx : Option SourceSet) : String := d.render ctx false

end CssBundle.Diagnostic
