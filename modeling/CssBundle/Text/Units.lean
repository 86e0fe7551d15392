/-!
# Measuring text in bytes and in UTF-16 units

Locations in a stylesheet count bytes of its UTF-8 encoding for the offset and UTF-16 code units
for the column. A character takes one to four bytes and one or two UTF-16 units: two exactly
when it lies beyond the Basic Multilingual Plane.
-/

namespace CssBundle.Text

def units16 (c : Char) : Nat := if c.toNat < 0x10000 then 1 else 2

def length16 (cs : List Char) : Nat := cs.foldr (fun c n => units16 c + n) 0

def byteLength (cs : List Char) : Nat := cs.foldr (fun c n => c.utf8Size + n) 0

@[simp] theorem length16_nil : length16 [] = 0 := rfl

@[simp] theorem length16_cons (c : Char) (cs : List Char) :
    length16 (c :: cs) = units16 c + length16 cs := rfl

@[simp] theorem length16_append (xs ys : List Char) :
    length16 (xs ++ ys) = length16 xs + length16 ys := by
  induction xs with
  | nil => simp
  | cons x xs ih => simp [ih, Nat.add_assoc]

@[simp] theorem byteLength_nil : byteLength [] = 0 := rfl

@[simp] theorem byteLength_cons (c : Char) (cs : List Char) :
    byteLength (c :: cs) = c.utf8Size + byteLength cs := rfl

@[simp] theorem byteLength_append (xs ys : List Char) :
    byteLength (xs ++ ys) = byteLength xs + byteLength ys := by
  induction xs with
  | nil => simp
  | cons x xs ih => simp [ih, Nat.add_assoc]

/-- The characters of a text that its first `n` bytes encode, when `n` ends a character;
`none` when `n` falls inside a character or beyond the end. -/
def prefixBytes : List Char → Nat → Option (List Char)
  | _, 0 => some []
  | [], _ + 1 => none
  | c :: cs, n + 1 =>
    if c.utf8Size ≤ n + 1 then (prefixBytes cs (n + 1 - c.utf8Size)).map (c :: ·) else none

/-- The characters of a text after its first `n` bytes, when `n` ends a character. -/
def dropBytes (cs : List Char) (n : Nat) : Option (List Char) :=
  (prefixBytes cs n).map fun p => cs.drop p.length

/-- Whether `n` is a character boundary of the text: the start, the end, or a byte between two
characters. -/
def isBoundary (cs : List Char) (n : Nat) : Bool := (prefixBytes cs n).isSome

end CssBundle.Text
