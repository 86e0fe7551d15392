import Std.Data.HashSet.Basic
import CssBundle.Regex.Machine

/-!
# Matching search patterns

A machine is run by backtracking over its states. From a state at a position the search follows
the first alternative and keeps the others on a stack, with the captures to restore when it
comes back to them; the first time it reaches the accepting state, that match is the answer, so
alternatives are preferred in the order the machine lists them. The search never enters a state
twice at one position: what was tried there once cannot succeed a second time, which keeps every
search finite and decides which match wins when a repetition's body can match the empty text.

`Machine.find` tries the positions of the text from a given start, in order, sharing what it has
tried among them. Every step is paid for from a fuel argument; `Machine.fuelFor` gives enough for
any text, since each step enters a new state at a new position or takes back one that was
stacked.
-/

namespace CssBundle.Regex

/-- Whether the character before a position is a word character, in the Unicode or the ASCII
sense. -/
def wordBefore (unicode : Bool) (text : Array Char) (i : Nat) : Bool :=
  match i with
  | 0 => false
  | j + 1 => (text[j]?.map fun c => if unicode then isWord c else isAsciiWord c).getD false

def wordAfter (unicode : Bool) (text : Array Char) (i : Nat) : Bool :=
  (text[i]?.map fun c => if unicode then isWord c else isAsciiWord c).getD false

def Look.holdsAt (text : Array Char) (i : Nat) : Look → Bool
  | .textStart => i == 0
  | .textEnd => i == text.size
  | .lineStart false => i == 0 || text[i - 1]? == some '\n'
  | .lineEnd false => i == text.size || text[i]? == some '\n'
  | .lineStart true =>
    i == 0 || text[i - 1]? == some '\n' ||
      (text[i - 1]? == some '\r' && text[i]? != some '\n')
  | .lineEnd true =>
    i == text.size || text[i]? == some '\r' ||
      (text[i]? == some '\n' && (i == 0 || text[i - 1]? != some '\r'))
  | .wordBoundary u negated => (wordBefore u text i != wordAfter u text i) != negated
  | .wordStart u => !wordBefore u text i && wordAfter u text i
  | .wordEnd u => wordBefore u text i && !wordAfter u text i
  | .wordStartHalf u => !wordBefore u text i
  | .wordEndHalf u => !wordAfter u text i

/-- Work the search has put off: a state to try at a position, or a slot to restore. -/
inductive Task where
  | step (state pos : Nat)
  | restore (slot : Nat) (value : Option Nat)
  deriving Repr, Inhabited

/-- The state of a search: the work put off, the pairs of state and position entered so far,
and the positions recorded in the slots. -/
structure Search where
  stack : List Task
  visited : Std.HashSet Nat
  slots : Array (Option Nat)

/-- Follow the machine from a state at a position until it accepts (answering the position) or
fails; alternatives after the first are stacked. `width` is one more than the length of the
text, so that a state and a position make one key. -/
def Machine.follow (m : Machine) (text : Array Char) (width : Nat) :
    Nat → Nat → Nat → Search → Option Nat × Search
  | 0, _, _, search => (none, search)
  | fuel + 1, s, i, search =>
    let key := s * width + i
    if search.visited.contains key then (none, search)
    else
      let search := { search with visited := search.visited.insert key }
      match m.states[s]? with
      | some (.char set fold next) =>
        match text[i]? with
        | some c =>
          if set.holds fold c then m.follow text width fuel next (i + 1) search
          else (none, search)
        | none => (none, search)
      | some (.look l next) =>
        if l.holdsAt text i then m.follow text width fuel next i search else (none, search)
      | some (.split []) => (none, search)
      | some (.split (first :: rest)) =>
        m.follow text width fuel first i
          { search with stack := rest.map (Task.step · i) ++ search.stack }
      | some (.save slot next) =>
        match search.slots[slot]? with
        | some old =>
          m.follow text width fuel next i
            { search with
              stack := .restore slot old :: search.stack
              slots := search.slots.set! slot (some i) }
        | none => m.follow text width fuel next i search
      | some .accept => (some i, search)
      | none => (none, search)

def Machine.explore (m : Machine) (text : Array Char) (width : Nat) (inner : Nat) :
    Nat → Search → Option Nat × Search
  | 0, search => (none, search)
  | fuel + 1, search =>
    match search.stack with
    | [] => (none, search)
    | .restore slot value :: rest =>
      m.explore text width inner fuel { search with stack := rest, slots := search.slots.set! slot value }
    | .step s i :: rest =>
      match m.follow text width inner s i { search with stack := rest } with
      | (some e, search) => (some e, search)
      | (none, search) => m.explore text width inner fuel search

def Machine.fuelFor (m : Machine) (length : Nat) : Nat :=
  let pairs := m.states.size * (length + 1)
  let branching := m.states.foldl (fun acc s => match s with
    | .split alts => acc + alts.length
    | _ => acc + 1) 0
  (pairs + 1) * (branching + 2) + 1

/-- The slots of the leftmost-first match that starts at or after position `start`, if any;
slots 0 and 1 hold the span of the match. -/
def Machine.find (m : Machine) (text : Array Char) (start : Nat) : Option (Array (Option Nat)) :=
  let width := text.size + 1
  let fuel := m.fuelFor text.size
  let blank : Array (Option Nat) := Array.replicate m.slotCount none
  go width fuel (text.size + 1 - start) start
    { stack := [], visited := {}, slots := blank }
where
  go (width fuel : Nat) : Nat → Nat → Search → Option (Array (Option Nat))
    | 0, _, _ => none
    | count + 1, i, search =>
      match m.explore text width fuel fuel { search with stack := [.step m.start i] } with
      | (some _, search) => some search.slots
      | (none, search) => go width fuel count (i + 1) search

end CssBundle.Regex
