/-!
# Faults of search patterns

When a text is not a pattern, or is one that cannot be used, a `SyntaxError` names the fault and
the columns it covers; its `message` draws the pattern with carets under those columns, then
states the fault.
-/

namespace CssBundle.Regex

/-- The columns of the pattern text that a fault covers, as character indices (end excluded). -/
structure Span where
  start : Nat
  stop : Nat
  deriving Repr, Inhabited, BEq

/-- The faults of pattern text. -/
inductive SyntaxFault where
  | classEscapeInvalid
  | classRangeInvalid
  | classRangeLiteral
  | classUnclosed
  | decimalEmpty
  | decimalInvalid
  | escapeHexEmpty
  | escapeHexInvalid
  | escapeHexInvalidDigit
  | escapeUnexpectedEof
  | escapeUnrecognized
  | flagDanglingNegation
  | flagDuplicate
  | flagRepeatedNegation
  | flagUnexpectedEof
  | flagUnrecognized
  | groupNameDuplicate
  | groupNameEmpty
  | groupNameInvalid
  | groupNameUnexpectedEof
  | groupUnclosed
  | groupUnopened
  | repetitionCountInvalid
  | repetitionCountDecimalEmpty
  | repetitionCountUnclosed
  | repetitionMissing
  | unicodeClassInvalid
  | unicodePropertyNotFound
  | unicodePropertyValueNotFound
  | unicodeNotAllowed
  | invalidUtf8
  | nestLimitExceeded
  | specialWordBoundaryUnclosed
  | specialWordBoundaryUnrecognized
  | specialWordOrRepetitionUnexpectedEof
  | unsupportedBackreference
  | unsupportedLookAround
  deriving Repr, Inhabited, BEq

def SyntaxFault.describe : SyntaxFault → String
  | .classEscapeInvalid => "invalid escape sequence found in character class"
  | .classRangeInvalid => "invalid character class range, the start must be <= the end"
  | .classRangeLiteral => "invalid range boundary, must be a literal"
  | .classUnclosed => "unclosed character class"
  | .decimalEmpty => "decimal literal empty"
  | .decimalInvalid => "decimal literal invalid"
  | .escapeHexEmpty => "hexadecimal literal empty"
  | .escapeHexInvalid => "hexadecimal literal is not a Unicode scalar value"
  | .escapeHexInvalidDigit => "invalid hexadecimal digit"
  | .escapeUnexpectedEof => "incomplete escape sequence, reached end of pattern prematurely"
  | .escapeUnrecognized => "unrecognized escape sequence"
  | .flagDanglingNegation => "dangling flag negation operator"
  | .flagDuplicate => "duplicate flag"
  | .flagRepeatedNegation => "flag negation operator repeated"
  | .flagUnexpectedEof => "expected flag but got end of regex"
  | .flagUnrecognized => "unrecognized flag"
  | .groupNameDuplicate => "duplicate capture group name"
  | .groupNameEmpty => "empty capture group name"
  | .groupNameInvalid => "invalid capture group character"
  | .groupNameUnexpectedEof => "unclosed capture group name"
  | .groupUnclosed => "unclosed group"
  | .groupUnopened => "unopened group"
  | .repetitionCountInvalid => "invalid repetition count range, the start must be <= the end"
  | .repetitionCountDecimalEmpty => "repetition quantifier expects a valid decimal"
  | .repetitionCountUnclosed => "unclosed counted repetition"
  | .repetitionMissing => "repetition operator missing expression"
  | .unicodeClassInvalid => "invalid Unicode character class"
  | .unicodePropertyNotFound => "Unicode property not found"
  | .unicodePropertyValueNotFound => "Unicode property value not found"
  | .unicodeNotAllowed => "Unicode not allowed here"
  | .invalidUtf8 => "pattern can match invalid UTF-8"
  | .nestLimitExceeded => "exceed the maximum number of nested parentheses/brackets (250)"
  | .specialWordBoundaryUnclosed =>
    "special word boundary assertion is either unclosed or contains an invalid character"
  | .specialWordBoundaryUnrecognized =>
    "unrecognized special word boundary assertion, valid choices are: start, end, start-half " ++
      "or end-half"
  | .specialWordOrRepetitionUnexpectedEof =>
    "found either the beginning of a special word boundary or a bounded repetition on a \\b " ++
      "with an opening brace, but no closing brace"
  | .unsupportedBackreference => "backreferences are not supported"
  | .unsupportedLookAround =>
    "look-around, including look-ahead and look-behind, is not supported"

/-- A fault of pattern text with the columns it covers, and for a repeated name or flag the
columns of its first occurrence. -/
structure SyntaxError where
  fault : SyntaxFault
  span : Span
  earlier : Option Span := none
  deriving Repr, Inhabited

/-- The line (from one) and column (from one) of a character index of the text. -/
def lineColumnOf (text : List Char) (index : Nat) : Nat × Nat :=
  let before := text.take index
  let line := before.count '\n' + 1
  let column := (before.reverse.takeWhile (· ≠ '\n')).length + 1
  (line, column)

/-- The lines of a text, split at line feeds, with a carriage return right before a feed dropped
(a carriage return at the very end stays), and no empty last line after a final feed. -/
def patternLines (text : String) : List String :=
  let pieces := text.splitOn "\n"
  let ended := pieces.dropLast.map fun line =>
    if line.endsWith "\r" then (line.dropEnd 1).toString else line
  let last := pieces.getLast?.getD ""
  if last.isEmpty then ended else ended ++ [last]

def decimalWidth (n : Nat) : Nat := (toString n).length

/-- The spans to mark on each line: a span within one line is marked on it. -/
structure Marks where
  byLine : Array (List (Nat × Nat))
  across : List ((Nat × Nat) × (Nat × Nat))

/-- Place a span of the text on its line, or among the spans that cross lines. -/
def Marks.add (m : Marks) (text : List Char) (s : Span) : Marks :=
  let a := lineColumnOf text s.start
  let b := lineColumnOf text s.stop
  if a.1 == b.1 then
    let row := a.1 - 1
    let existing := m.byLine.getD row []
    let sorted := (existing ++ [(a.2, b.2)]).mergeSort fun x y => x.1 ≤ y.1
    { m with byLine := m.byLine.setIfInBounds row sorted }
  else { m with across := m.across ++ [(a, b)] }

/-- The caret row under one line: blanks up to each span, then one caret per column it covers
(at least one). -/
def caretRow (padding : Nat) (spans : List (Nat × Nat)) : String :=
  let step : String × Nat → Nat × Nat → String × Nat := fun (acc, pos) (start, stop) =>
    let gap := start - 1 - pos
    let width := max 1 (stop - start)
    (acc ++ String.ofList (List.replicate gap ' ') ++ String.ofList (List.replicate width '^'),
      pos + gap + width)
  (spans.foldl step (String.ofList (List.replicate padding ' '), 0)).1

def notate (pattern : String) (spans : List Span) : String :=
  let chars := pattern.toList
  let lines := patternLines pattern
  let count := if pattern.endsWith "\n" then lines.length + 1 else lines.length
  let width := if count ≤ 1 then 0 else decimalWidth count
  let blank : Marks := { byLine := Array.replicate count [], across := [] }
  let marks := spans.foldl (fun m s => m.add chars s) blank
  let padding := if width == 0 then 4 else 2 + width
  let numbered := lines.zipIdx.map fun (line, i) =>
    let head :=
      if width == 0 then "    "
      else
        let n := toString (i + 1)
        String.ofList (List.replicate (width - n.length) ' ') ++ n ++ ": "
    let notes := match marks.byLine.getD i [] with
      | [] => ""
      | spans => caretRow padding spans ++ "\n"
    head ++ line ++ "\n" ++ notes
  String.join numbered

def crossingNotes (pattern : String) (spans : List Span) : List String :=
  let chars := pattern.toList
  spans.filterMap fun s =>
    let a := lineColumnOf chars s.start
    let b := lineColumnOf chars s.stop
    if a.1 == b.1 then none
    else some s!"on line {a.1} (column {a.2}) through line {b.1} (column {b.2 - 1})"

/-- The report of a fault: the pattern with carets under the fault, then the fault's sentence.
A pattern of several lines is framed by rules of tildes and its lines are numbered. -/
def SyntaxError.message (e : SyntaxError) (pattern : String) : String :=
  let spans := e.span :: e.earlier.toList
  let drawn := notate pattern spans
  if pattern.contains '\n' then
    let rule := String.ofList (List.replicate 79 '~')
    let notes := crossingNotes pattern spans
    let noteText := if notes.isEmpty then "" else "\n".intercalate notes ++ "\n"
    "regex parse error:\n" ++ rule ++ "\n" ++ drawn ++ rule ++ "\n" ++ noteText ++
      "error: " ++ e.fault.describe
  else "regex parse error:\n" ++ drawn ++ "error: " ++ e.fault.describe

end CssBundle.Regex
