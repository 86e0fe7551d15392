import CssBundle.Location
import CssBundle.Text.Units

/-!
# Texts and where their places are

`locate` turns a byte offset of a text into a location. An offset past the end, or one that falls
inside a character, has no location. Otherwise the row is the number of line feeds before the
offset, and the column the number of UTF-16 units from the start of that row: a line feed belongs
to the row it ends.

A `FileInformation` indexes a text by the byte offsets of its line feeds, so that a location is
found by a binary search over them rather than by a walk from the start.

A `SourceSet` holds texts under paths and hands out their numbers in the order they are added.
-/

namespace CssBundle

open Text

/-- The location of a byte offset of a text, when the offset is a character boundary. -/
def locate (content : String) (offset : Nat) : Option Location :=
  (prefixBytes content.toList offset).map fun before =>
    let row := before.count '\n'
    let lineStart := (before.reverse.takeWhile (· ≠ '\n')).reverse
    ⟨offset, row, length16 lineStart⟩

/-- The number of rows of a text: one more than its line feeds. -/
def lineCount (content : String) : Nat := content.toList.count '\n' + 1

/-- The bisection rounds of a binary search over a sorted array: the window starts at `base` and
holds `size` entries; each round looks at the entry `size / 2` past `base` and keeps the upper
part unless that entry is greater than `x`. The window never empties, and the number of rounds
depends on the size alone. -/
def bisect (a : Array Nat) (x : Nat) (base size : Nat) : Nat :=
  if size ≤ 1 then base
  else
    let half := size / 2
    let mid := base + half
    bisect a x (if x < a.getD mid 0 then base else mid) (size - half)
termination_by size

/-- Searches a sorted array for `x`: `.ok i` when the entry at `i` is `x`, else `.error i` with the
index at which `x` would be inserted to keep the order. -/
def binarySearch (a : Array Nat) (x : Nat) : Except Nat Nat :=
  if a.size = 0 then .error 0
  else
    let base := bisect a x 0 a.size
    let y := a.getD base 0
    if y = x then .ok base else .error (if y < x then base + 1 else base)

/-- The index a search answers with, whether it found the value there or would insert it
there. -/
def searchIndex : Except Nat Nat → Nat
  | .ok i => i
  | .error i => i

/-- The byte offsets of the line feeds of a text whose first character is at byte `start`. -/
def lineFeedOffsets : List Char → Nat → List Nat
  | [], _ => []
  | c :: cs, start =>
    let rest := lineFeedOffsets cs (start + c.utf8Size)
    if c = '\n' then start :: rest else rest

/-- The characters between the byte offsets `a` and `b` of a text, when both are character
boundaries and `a ≤ b ≤` its length. -/
def sliceBytes (cs : List Char) (a b : Nat) : Option (List Char) := do
  let upto ← prefixBytes cs b
  let before ← prefixBytes upto a
  pure (upto.drop before.length)

/-- A line index over a text: the byte offsets of its line feeds, in increasing order, and its
length in bytes. -/
structure FileInformation where
  lineBreaks : Array Nat
  totalLength : Nat
  deriving Repr, BEq, DecidableEq, Inhabited

namespace FileInformation

def new (content : String) : FileInformation :=
  ⟨(lineFeedOffsets content.toList 0).toArray, content.utf8ByteSize⟩

/-- The number of rows: one more than the line feeds. -/
def lineCount (info : FileInformation) : Nat := info.lineBreaks.size + 1

/-- The location of a byte offset of the indexed text, found by a binary search for the row: an
exact hit on a line feed is still the row that line feed ends. The column counts the UTF-16 units
from the start of the row, which fails when the offset is not a character boundary. -/
def offsetToLocation (info : FileInformation) (offset : Nat) (content : String) :
    Option Location :=
  if info.totalLength < offset then none
  else
    let row := searchIndex (binarySearch info.lineBreaks offset)
    let lineStart := if row = 0 then 0 else info.lineBreaks.getD (row - 1) 0 + 1
    (sliceBytes content.toList lineStart offset).map fun line => ⟨offset, row, length16 line⟩

end FileInformation

/-- A text registered under a path. -/
structure SourceFile where
  path : String
  content : String
  deriving Repr, Inhabited

/-- Texts numbered in the order they were added. -/
structure SourceSet where
  files : Array SourceFile := #[]
  deriving Repr, Inhabited

namespace SourceSet

/-- Adds a text; its number is the number of texts added before it. -/
def add (set : SourceSet) (path content : String) : SourceSet × Nat :=
  ({ files := set.files.push ⟨path, content⟩ }, set.files.size)

def get? (set : SourceSet) (id : Nat) : Option SourceFile := set.files[id]?

def size (set : SourceSet) : Nat := set.files.size

theorem get?_add (set : SourceSet) (path content : String) :
    (set.add path content).1.get? (set.add path content).2 = some ⟨path, content⟩ := by
  simp [add, get?]

end SourceSet

end CssBundle
