/-!
# Locations in a text

A location names a place in a text three ways at once: the byte offset in its UTF-8 encoding,
the row (counted from 0), and the column, counted from 0 in UTF-16 code units from the start of
the row. A range is a pair of locations. A line and column pair is what a source map records of
a place: the row and the UTF-16 column.
-/

namespace CssBundle

/-- A place in a text: byte offset, row, and UTF-16 column. -/
structure Location where
  offset : Nat
  row : Nat
  column : Nat
  deriving Repr, BEq, DecidableEq, Inhabited

/-- A line and a UTF-16 column, both counted from 0, ordered line first. -/
structure LineColumn where
  line : Nat
  column : Nat
  deriving Repr, BEq, DecidableEq, Inhabited

/-- A stretch of a text between two locations. -/
structure Range where
  start : Location
  stop : Location
  deriving Repr, BEq, DecidableEq, Inhabited

namespace Location

def origin : Location := ⟨0, 0, 0⟩

def lineColumn (l : Location) : LineColumn := ⟨l.row, l.column⟩

end Location

def Range.point (l : Location) : Range := ⟨l, l⟩

namespace LineColumn

/-- The order of positions in a text: by line, then by column. -/
def le (a b : LineColumn) : Bool := a.line < b.line || (a.line == b.line && a.column ≤ b.column)

def lt (a b : LineColumn) : Bool := a.line < b.line || (a.line == b.line && a.column < b.column)

theorem le_refl (a : LineColumn) : le a a = true := by simp [le]

end LineColumn

end CssBundle
