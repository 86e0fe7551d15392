/-!
# The catalog of error codes

Every diagnostic may carry a code of the form `M-<subsystem>-<number>`. The catalog gives each
known code its subsystem, title, a sentence that explains it, and the version that introduced it.
Codes are matched exactly.
-/

namespace CssBundle.Diagnostic

/-- What the catalog says about one code. -/
structure CodeInfo where
  subsystem : String
  title : String
  explanation : String
  since : String
  deriving Repr, BEq, Inhabited

def catalog : List (String × CodeInfo) :=
  [("M-0-1", ⟨"internal", "Internal Error",
      "An unexpected failure occurred while processing a stylesheet.", "0.1.0"⟩),
   ("M-1-1", ⟨"css", "CSS Syntax Error", "The stylesheet could not be parsed.", "0.1.0"⟩),
   ("M-1-2", ⟨"css", "Stylesheet Transform Failed",
      "A configured plugin rejected the stylesheet.", "0.1.0"⟩),
   ("M-2-1", ⟨"merge", "Import Hoisted",
      "An @import rule was moved above other rules so the merged stylesheet stays valid.",
      "0.1.0"⟩),
   ("M-3-1", ⟨"config", "Invalid Bundler Configuration",
      "The stylesheet bundler configuration could not be used.", "0.1.0"⟩),
   ("M-4-1", ⟨"output", "Minification Failed",
      "The merged stylesheet could not be minified.", "0.1.0"⟩)]

def lookupCode (code : String) : Option CodeInfo := catalog.lookup code

end CssBundle.Diagnostic
