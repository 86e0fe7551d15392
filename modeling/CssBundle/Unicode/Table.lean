/-!
# Tables of code points

The Unicode data of the library (letters, widths, categories, scripts, case folding) is written
as text rather than as array literals: a table is a string of entries separated by spaces, and an
entry is one or more hexadecimal numbers separated by `-`, `:` or `,`. The range of code points
from `0x41` to `0x5A` is the entry `41-5A`, a range of one code point may be written `41`, and the
run of code points starting at `0x300` with value `5` is `300:5`. Reading the text is a single
left fold over its characters, so the tables cost nothing to elaborate and are read once when the
program starts.

`inRanges` searches a sorted array of ranges and `runValue` a sorted array of runs, both by
halving the interval of indices still in question.
-/

namespace CssBundle.Unicode

/-- The value of a hexadecimal digit; other characters count as zero. -/
def hexDigit (c : Char) : Nat :=
  if '0' ≤ c && c ≤ '9' then c.toNat - '0'.toNat
  else if 'a' ≤ c && c ≤ 'f' then c.toNat - 'a'.toNat + 10
  else if 'A' ≤ c && c ≤ 'F' then c.toNat - 'A'.toNat + 10
  else 0

/-- The state of reading a table: the number being read, the numbers of the entry so far, the
entries so far, and whether a number has been started since the last separator. -/
structure TableReader where
  value : Nat := 0
  fields : Array Nat := #[]
  entries : Array (Array Nat) := #[]
  started : Bool := false

def TableReader.endNumber (r : TableReader) : TableReader :=
  if r.started then { r with value := 0, fields := r.fields.push r.value, started := false }
  else r

def TableReader.endEntry (r : TableReader) : TableReader :=
  let r := r.endNumber
  if r.fields.isEmpty then r else { r with fields := #[], entries := r.entries.push r.fields }

def TableReader.step (r : TableReader) (c : Char) : TableReader :=
  if c == ' ' || c == '\n' then r.endEntry
  else if c == '-' || c == ':' || c == ',' then r.endNumber
  else { r with value := r.value * 16 + hexDigit c, started := true }

def readEntries (text : String) : Array (Array Nat) :=
  (text.foldl TableReader.step {}).endEntry.entries

/-- A table of ranges: each entry is its first and last code point, or one code point. -/
def readRanges (text : String) : Array (Nat × Nat) :=
  (readEntries text).map fun e => (e.getD 0 0, e.getD (e.size - 1) 0)

/-- A table of pairs: each entry is a code point and a value. -/
def readPairs (text : String) : Array (Nat × Nat) :=
  (readEntries text).map fun e => (e.getD 0 0, e.getD 1 0)

/-- Whether a code point lies in one of a sorted array of ranges, by binary search between the
indices `lo` (inclusive) and `hi` (exclusive). -/
def inRanges (ranges : Array (Nat × Nat)) (n : Nat) (lo hi : Nat) : Bool :=
  if _h : lo < hi then
    let mid := (lo + hi) / 2
    match ranges[mid]? with
    | none => false
    | some (a, b) =>
      if n < a then inRanges ranges n lo mid
      else if b < n then inRanges ranges n (mid + 1) hi
      else true
  else false
termination_by hi - lo

def memRanges (ranges : Array (Nat × Nat)) (n : Nat) : Bool :=
  inRanges ranges n 0 ranges.size

/-- The value of the last run that starts at or before `n`, searched between the indices `lo`
(inclusive) and `hi` (exclusive), or `default` when none does. -/
def runValueIn (runs : Array (Nat × Nat)) (n default : Nat) (lo hi : Nat) : Nat :=
  if _h : lo + 1 < hi then
    let mid := (lo + hi) / 2
    match runs[mid]? with
    | none => default
    | some (a, _) =>
      if n < a then runValueIn runs n default lo mid else runValueIn runs n default mid hi
  else
    match runs[lo]? with
    | some (a, v) => if a ≤ n then v else default
    | none => default
termination_by hi - lo

def runValue (runs : Array (Nat × Nat)) (n default : Nat) : Nat :=
  runValueIn runs n default 0 runs.size

/-- The code points whose value in the runs satisfies `p`, as sorted ranges with neighbouring
ranges joined: a run starts at a code point and lasts until the next one starts. -/
def runsWhere (runs : Array (Nat × Nat)) (p : Nat → Bool) : Array (Nat × Nat) :=
  let starts := runs.toList
  let stops := (starts.drop 1).map (·.1 - 1) ++ [0x10FFFF]
  let kept := (starts.zip stops).filterMap fun ((start, v), stop) =>
    if p v then some (start, stop) else none
  (kept.foldl (fun (acc : List (Nat × Nat)) (lo, hi) =>
    match acc with
    | (a, b) :: rest => if b + 1 == lo then (a, hi) :: rest else (lo, hi) :: acc
    | [] => [(lo, hi)]) []).reverse.toArray

end CssBundle.Unicode
