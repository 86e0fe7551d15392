/-!
# Build modes

A development build writes one readable stylesheet with its source map; a production build
writes minified stylesheets and no maps.
-/

namespace CssBundle.Bundle

/-- What kind of output a build writes. -/
inductive BuildMode where
  | development
  | production
  deriving Repr, BEq, DecidableEq, Inhabited

namespace BuildMode

def name : BuildMode → String
  | .development => "development"
  | .production => "production"

/-- The mode a name stands for; any other name is refused with a message. -/
def ofName (s : String) : Except String BuildMode :=
  if s = "development" then .ok .development
  else if s = "production" then .ok .production
  else .error ("unknown build mode '" ++ s ++ "', expected 'development' or 'production'")

theorem ofName_name (m : BuildMode) : ofName m.name = .ok m := by
  cases m <;> rfl

end BuildMode

end CssBundle.Bundle
