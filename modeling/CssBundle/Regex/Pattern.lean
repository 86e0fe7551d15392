import CssBundle.Regex.Classes
import CssBundle.Regex.Folding
import CssBundle.Unicode.Category
import CssBundle.Unicode.Script

/-!
# Patterns with their meaning resolved

A `Pattern` is what a parse tree means once its flags are applied: every character test knows
its set and how case is ignored, every assertion knows whether it stops at line breaks and which
characters make words. Repetitions are built by `Pattern.repeat`, which keeps the bounds that the
compiled machine needs to see: a body that can only match the empty text is repeated at most
once, zero rounds are the empty pattern and one round is the body itself.
-/

namespace CssBundle.Regex

open CssBundle.Unicode

/-- How a character test ignores case: not at all, by the simple case folding of Unicode, or
for ASCII letters only. -/
inductive Fold where
  | exact
  | simple
  | ascii
  deriving Repr, BEq, Inhabited

def Fold.variants : Fold → Char → List Char
  | .exact, c => [c]
  | .simple, c => caseVariants c
  | .ascii, c => asciiVariants c

/-- A set of characters, as a class or an escape denotes it. -/
inductive CharSet where
  /-- The characters from `lo` to `hi`, both included. -/
  | range (lo hi : Char)
  /-- The code points of a sorted table of ranges. -/
  | table (ranges : Array (Nat × Nat))
  /-- The characters of some general categories. -/
  | category (members : List Category)
  /-- The characters of a script. -/
  | script (index : Nat)
  /-- The characters a script uses, its own and those it shares. -/
  | scriptExtension (index : Nat)
  /-- The characters in any of the sets. -/
  | union (items : List CharSet)
  /-- The characters not in the set. -/
  | complement (s : CharSet)
  deriving Repr, Inhabited

namespace CharSet

def single (c : Char) : CharSet := .range c c

def none : CharSet := .union []

def leafHolds : CharSet → Char → Bool
  | .range lo hi, c => lo ≤ c && c ≤ hi
  | .table ranges, c => memRanges ranges c.toNat
  | .category members, c => members.contains (categoryOf c)
  | .script i, c => scriptOf c == i
  | .scriptExtension i, c => (scriptExtensionsOf c).contains i
  | _, _ => false

/-- Whether a set holds a character when case is ignored as `fold` says: a member holds the
character when it holds one of its case variants, and a complement is taken of the set so
widened, which is how a class is folded before it is negated. -/
def holds (fold : Fold) : CharSet → Char → Bool
  | .union items, c => holdsAny fold items c
  | .complement s, c => !holds fold s c
  | s, c => (fold.variants c).any (leafHolds s)
where
  holdsAny (fold : Fold) : List CharSet → Char → Bool
    | [], _ => false
    | s :: rest, c => holds fold s c || holdsAny fold rest c

end CharSet

/-- The zero-width tests of a resolved pattern. -/
inductive Look where
  /-- The start of the text. -/
  | textStart
  /-- The end of the text. -/
  | textEnd
  /-- The start of a line: the start of the text or the point after a line feed, and with
  `crlf` also after a carriage return that no line feed follows. -/
  | lineStart (crlf : Bool)
  /-- The end of a line: the end of the text or the point before a line feed, and with `crlf`
  also before a carriage return, but not between a carriage return and its line feed. -/
  | lineEnd (crlf : Bool)
  /-- A point between a word character and another character (`negated`: not such a point),
  with words in the Unicode sense or, when `unicode` is off, in the ASCII sense. -/
  | wordBoundary (unicode negated : Bool)
  /-- A point with no word character before it and one after it. -/
  | wordStart (unicode : Bool)
  /-- A point with a word character before it and none after it. -/
  | wordEnd (unicode : Bool)
  /-- A point with no word character before it. -/
  | wordStartHalf (unicode : Bool)
  /-- A point with no word character after it. -/
  | wordEndHalf (unicode : Bool)
  deriving Repr, BEq, Inhabited

/-- A search pattern with its flags applied. -/
inductive Pattern where
  /-- Matches the empty text. -/
  | empty
  /-- One character of a set, up to case as `fold` says. -/
  | char (s : CharSet) (fold : Fold)
  /-- A zero-width test. -/
  | look (l : Look)
  /-- A group that records the span it matched under its index. -/
  | capture (index : Nat) (body : Pattern)
  /-- The patterns one after another. -/
  | concat (items : List Pattern)
  /-- The first of the patterns that leads to a match. -/
  | alt (items : List Pattern)
  /-- The body at least `min` and at most `max` times, as many as possible when `greedy`. -/
  | rep (body : Pattern) (min : Nat) (max : Option Nat) (greedy : Bool)
  deriving Repr, Inhabited

def minLength (a b : Option Nat) : Option Nat :=
  match a, b with
  | some x, some y => some (min x y)
  | _, _ => none

def maxLength (a b : Option Nat) : Option Nat :=
  match a, b with
  | some x, some y => some (max x y)
  | _, _ => none

mutual

def Pattern.minLen : Pattern → Option Nat
  | .empty | .look _ => some 0
  | .char _ _ => some 1
  | .capture _ body => body.minLen
  | .concat items => Pattern.minLenSum items
  | .alt [] => none
  | .alt (p :: ps) => Pattern.minLenOf p.minLen ps
  | .rep body lo _ _ => body.minLen.map (· * lo)

def Pattern.minLenSum : List Pattern → Option Nat
  | [] => some 0
  | p :: ps => (p.minLen.bind fun a => (Pattern.minLenSum ps).map (a + ·))

/-- The fewest characters one of some patterns matches, given the fewest so far. -/
def Pattern.minLenOf (acc : Option Nat) : List Pattern → Option Nat
  | [] => acc
  | p :: ps => Pattern.minLenOf (minLength acc p.minLen) ps

end

mutual

def Pattern.maxLen : Pattern → Option Nat
  | .empty | .look _ => some 0
  | .char _ _ => some 1
  | .capture _ body => body.maxLen
  | .concat items => Pattern.maxLenSum items
  | .alt [] => none
  | .alt (p :: ps) => Pattern.maxLenOf p.maxLen ps
  | .rep body _ hi _ => hi.bind fun h => body.maxLen.map (· * h)

def Pattern.maxLenSum : List Pattern → Option Nat
  | [] => some 0
  | p :: ps => (p.maxLen.bind fun a => (Pattern.maxLenSum ps).map (a + ·))

def Pattern.maxLenOf (acc : Option Nat) : List Pattern → Option Nat
  | [] => acc
  | p :: ps => Pattern.maxLenOf (maxLength acc p.maxLen) ps

end

/-- The repetition of a body between `lo` and `hi` times. A body that matches only the empty text
is repeated at most once, `{0}` is the empty pattern and `{1}` the body. -/
def Pattern.repeat (body : Pattern) (lo : Nat) (hi : Option Nat) (greedy : Bool) : Pattern :=
  let (lo, hi) := if body.maxLen == some 0 then (min lo 1, some ((hi.getD 1).min 1)) else (lo, hi)
  if lo == 0 && hi == some 0 then .empty
  else if lo == 1 && hi == some 1 then body
  else .rep body lo hi greedy

end CssBundle.Regex
