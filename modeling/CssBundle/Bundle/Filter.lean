/-!
# Which files take part in a bundle

Two kinds of stylesheet are left out of a bundle. An import partial is meant to be pulled in by
another file: its path ends in `.import.css` or has a directory named `imports`. A compiler
output is the CSS a LESS compiler wrote next to its source: its path ends in `.less.css`.
-/

namespace CssBundle.Bundle

/-- Whether a path names a file meant to be imported by another: it ends in `.import.css`, or
a directory `imports` occurs in it, at the start or after a slash. -/
def isImportPartial (path : String) : Bool :=
  path.endsWith ".import.css" || path.startsWith "imports/" ||
    (path.splitOn "/imports/").length > 1

def isCompilerOutput (path : String) : Bool := path.endsWith ".less.css"

def isSelected (path : String) : Bool := !isImportPartial path && !isCompilerOutput path

def select {α : Type} (path : α → String) (files : List α) : List α :=
  files.filter fun f => isSelected (path f)

end CssBundle.Bundle
