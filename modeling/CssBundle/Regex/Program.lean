import CssBundle.Regex.Reader
import CssBundle.Regex.Translate
import CssBundle.Regex.Match
import CssBundle.Regex.Size

/-!
# Compiled patterns

`Program.read` takes pattern text through every stage: reading it into a tree, checking its
nesting, giving it meaning under its flags, refusing it when its automata would pass the size
limit, and compiling the machine. The first fault of any stage is the answer when there is one;
its `message` is the text a user sees.
-/

namespace CssBundle.Regex

/-- A compiled pattern with its capture groups: their number and their names. -/
structure Program where
  machine : Machine
  /-- The number of capture groups, not counting the whole match. -/
  groups : Nat
  /-- The named groups with their indices, in the order they open. -/
  names : List (String × Nat)
  deriving Repr, Inhabited

/-- Why pattern text gives no program: a fault of the text, or a machine too large to build. -/
inductive RegexError where
  | malformed (e : SyntaxError)
  | tooBig (limit : Nat)
  deriving Repr, Inhabited

def RegexError.message (e : RegexError) (pattern : String) : String :=
  match e with
  | .malformed e => e.message pattern
  | .tooBig limit => "Compiled regex exceeds size limit of " ++ toString limit ++ " bytes."

def Program.read (text : String) : Except RegexError Program := do
  let parsed ← (readPattern text).mapError .malformed
  let (pattern, _) ← (parsed.ast.translate {}).mapError .malformed
  if !pattern.fitsSizeLimit then throw (.tooBig sizeLimit)
  return { machine := pattern.machine parsed.groups, groups := parsed.groups,
           names := parsed.names }

/-- The spans of the capture groups of one match, by group index; group 0 is the whole match. -/
abbrev Slots := Array (Option (Nat × Nat))

/-- The spans of the groups from the positions recorded in the slots: a group took part in the
match when both its slots are set. -/
def spansOf (groups : Nat) (slots : Array (Option Nat)) : Slots :=
  (Array.range (groups + 1)).map fun g =>
    match slots[2 * g]?, slots[2 * g + 1]? with
    | some (some a), some (some b) => some (a, b)
    | _, _ => none

/-- The leftmost-first match that starts at or after position `start`, if any. -/
def Program.find (prog : Program) (text : Array Char) (start : Nat) : Option Slots :=
  (prog.machine.find text start).map (spansOf prog.groups)

end CssBundle.Regex
