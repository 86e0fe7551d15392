import CssBundle.Regex.Pattern

/-!
# The machine of a pattern

A pattern is compiled into a `Machine`: an array of states, each reading a character, testing a
position, recording a position, offering alternatives in order of preference, or accepting.
Compilation works backwards: every pattern is compiled knowing the state that follows it, and
answers the state where it starts.

The shapes of repetitions decide which match is preferred when a body can match the empty text,
since the search never enters a state twice at one position:

- `x?` offers `x` or the way out;
- `x*` is a loop that offers `x` or the way out, except that when `x` can match the empty text it
  is `(x+)?`, whose loop and entry both lead to the same start of `x`;
- `x+` is `x` followed by a loop back to its start or out;
- `x{n,}` is `n - 1` copies of `x` and then one copy that loops;
- `x{n}` is `n` copies, and `x{n,m}` is `n` copies followed by `m - n` optional ones, each of
  which may also leave straight to what follows the repetition.

A lazy repetition offers the way out before another round. The whole pattern is wrapped in
group 0, whose slots hold the span of the match.
-/

namespace CssBundle.Regex

/-- A state of a machine; `next` and the alternatives are indices of states. -/
inductive State where
  /-- Read one character the set holds, up to case, then go on at `next`. -/
  | char (s : CharSet) (fold : Fold) (next : Nat)
  /-- Go on at `next` if a zero-width test holds. -/
  | look (l : Look) (next : Nat)
  /-- Try the alternatives in order. -/
  | split (alternates : List Nat)
  /-- Record the position in a slot, then go on at `next`. -/
  | save (slot : Nat) (next : Nat)
  /-- Report a match. -/
  | accept
  deriving Repr, Inhabited

/-- A compiled pattern: its states, the state where a match starts, and the number of slots,
two per capture group (group 0 included). -/
structure Machine where
  states : Array State
  start : Nat
  slotCount : Nat
  deriving Repr, Inhabited

def addState (st : Array State) (s : State) : Nat × Array State :=
  (st.size, st.push s)

/-- Two alternatives in order of preference: the first when greedy, else the second. -/
def preferring (greedy : Bool) (more out : Nat) : List Nat :=
  if greedy then [more, out] else [out, more]

def copies (body : Nat → Array State → Nat × Array State) : Nat → Nat → Array State →
    Nat × Array State
  | 0, next, st => (next, st)
  | n + 1, next, st =>
    let (entry, st) := body next st
    copies body n entry st

/-- Chain `n` optional copies of a body in front of `next`: each may go on to the next copy or
leave straight to `out`. -/
def optionalCopies (body : Nat → Array State → Nat × Array State) (greedy : Bool) (out : Nat) :
    Nat → Nat → Array State → Nat × Array State
  | 0, next, st => (next, st)
  | n + 1, next, st =>
    let (entry, st) := body next st
    let (choice, st) := addState st (.split (preferring greedy entry out))
    optionalCopies body greedy out n choice st

/-- Compile a repetition of a body, given how to compile the body in front of a state, the
fewest characters the body matches, the bounds and the greed, in front of `next`. -/
def compileRepeat (body : Nat → Array State → Nat × Array State) (bodyMin : Option Nat)
    (lo : Nat) (hi : Option Nat) (greedy : Bool) (next : Nat) (st : Array State) :
    Nat × Array State :=
  match hi with
  | some h =>
    if lo == 0 && h == 1 then
      let (entry, st) := body next st
      addState st (.split (preferring greedy entry next))
    else
      let (optional, st) := optionalCopies body greedy next (h - lo) next st
      copies body lo optional st
  | none =>
    let (loop, st) := addState st (.split [])
    let (entry, st) := body loop st
    let st := st.setIfInBounds loop (.split (preferring greedy entry next))
    if lo == 0 then
      if bodyMin.any (· > 0) then (loop, st)
      else addState st (.split (preferring greedy entry next))
    else copies body (lo - 1) entry st

mutual

def Pattern.compile : Pattern → Nat → Array State → Nat × Array State
  | .empty, next, st => (next, st)
  | .char s fold, next, st => addState st (.char s fold next)
  | .look l, next, st => addState st (.look l next)
  | .capture index body, next, st =>
    let (close, st) := addState st (.save (2 * index + 1) next)
    let (entry, st) := body.compile close st
    addState st (.save (2 * index) entry)
  | .concat items, next, st => Pattern.compileSeq items next st
  | .alt items, next, st =>
    let (entries, st) := Pattern.compileEach items next st
    match entries with
    | [e] => (e, st)
    | es => addState st (.split es)
  | .rep body lo hi greedy, next, st =>
    compileRepeat (fun n s => body.compile n s) body.minLen lo hi greedy next st

def Pattern.compileSeq : List Pattern → Nat → Array State → Nat × Array State
  | [], next, st => (next, st)
  | p :: ps, next, st =>
    let (rest, st) := Pattern.compileSeq ps next st
    p.compile rest st

/-- Compile alternatives, each in front of `next`, answering their starts in order. -/
def Pattern.compileEach : List Pattern → Nat → Array State → List Nat × Array State
  | [], _, st => ([], st)
  | p :: ps, next, st =>
    let (entry, st) := p.compile next st
    let (entries, st) := Pattern.compileEach ps next st
    (entry :: entries, st)

end

/-- The machine of a pattern with `groups` capture groups besides the whole match. -/
def Pattern.machine (p : Pattern) (groups : Nat) : Machine :=
  let (accept, st) := addState #[] .accept
  let (close, st) := addState st (.save 1 accept)
  let (entry, st) := p.compile close st
  let (start, st) := addState st (.save 0 entry)
  { states := st, start, slotCount := 2 * (groups + 1) }

end CssBundle.Regex
