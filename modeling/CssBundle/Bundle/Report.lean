import CssBundle.Bundle.Merge
import CssBundle.Bundle.Output
import CssBundle.Diagnostic.Message

/-!
# Build errors and reports

A `BuildError` records why one stylesheet could not take part in a bundle: a plugin or the
syntax conversion rejected it, or it could not be read as CSS. It carries the file's path, its
message, the location when one is known, and the number of the file in the report's
`SourceSet` once the text has been registered there, which lets its diagnostic show an excerpt.

A `Report` is the outcome of one run: the artifacts written, the errors of the files left out,
the warnings of merging, and the texts the diagnostics may quote. Its diagnostics are those of
the errors followed by those of the warnings.
-/

namespace CssBundle.Bundle

/-- Which step rejected a stylesheet. -/
inductive BuildErrorKind where
  | transform
  | parse
  deriving Repr, BEq, DecidableEq, Inhabited

/-- Why a stylesheet was left out of a bundle. -/
structure BuildError where
  path : String
  kind : BuildErrorKind
  message : String
  location : Option Location := none
  /-- The number of the file's text in the report's `SourceSet`, once registered. -/
  file : Option Nat := none
  deriving Repr, Inhabited

namespace BuildError

def line (e : BuildError) : Option Nat := e.location.map (·.row + 1)

def column (e : BuildError) : Option Nat := e.location.map (·.column + 1)

/-- The one-line text of the error: `path:line:column: message`, or `path: message` when the
location is unknown. -/
def display (e : BuildError) : String :=
  match e.line, e.column with
  | some l, some c => e.path ++ ":" ++ toString l ++ ":" ++ toString c ++ ": " ++ e.message
  | _, _ => e.path ++ ": " ++ e.message

/-- The diagnostic of the error; it has a place only when both the file and the location are
known. -/
def diagnostic (e : BuildError) : Diagnostic :=
  let (code, title) := match e.kind with
    | .transform => ("M-1-2", "Stylesheet Transform Failed")
    | .parse => ("M-1-1", "CSS Syntax Error")
  { code := some code, title, problem := some e.message, notes := ["In " ++ e.path],
    place := match e.file, e.location with
      | some f, some l => some ⟨f, Range.point l⟩
      | _, _ => none }

end BuildError

def MergeWarning.diagnostic (w : MergeWarning) : Diagnostic :=
  { code := some "M-2-1", title := "Import Hoisted", severity := .warning,
    problem := some w.message, notes := ["In " ++ w.filename] }

/-- The outcome of one bundling run. -/
structure Report where
  artifacts : List Artifact := []
  errors : List BuildError := []
  warnings : List MergeWarning := []
  /-- The texts of the files whose errors have a location, in the order of the errors. -/
  sources : SourceSet := {}
  deriving Inhabited

namespace Report

def isSuccess (r : Report) : Bool := r.errors.isEmpty

/-- The diagnostics of a run: those of the errors, then those of the warnings. -/
def diagnostics (r : Report) : List Diagnostic :=
  r.errors.map BuildError.diagnostic ++ r.warnings.map MergeWarning.diagnostic

end Report

end CssBundle.Bundle
