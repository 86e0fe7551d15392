import CssBundle.Regex.Pattern
import Std.Data.HashMap

/-!
# The size of compiled patterns

A pattern is refused when an automaton the search engine builds for it would be too large. The
engine builds one automaton that reads the text forwards and one that reads it backwards, and
neither may take more than `sizeLimit` bytes.

The size is found by building each automaton the way the engine's builder does, counting states
instead of storing them: every state takes `stateBytes`, each transition of a state with a list
of byte-range transitions `transitionBytes` more, and each branch of a branching state
`branchBytes` more. Joining the end of a fragment to what follows adds a branch when that end is
a branching state.

A character class becomes states over the bytes of its UTF-8 encoding. Forwards, its byte
sequences, in increasing order, are built into an automaton that shares common suffixes;
backwards, each byte sequence becomes a chain of single-range states that shares the chains of
earlier sequences with a common start. Either way equal states are found through a cache of a
fixed number of slots, indexed by a hash of the state that includes the numbers of the states it
leads to. Two states that fall into one slot push each other out, and the second is built again
when it comes back, so the size of a class depends on the numbers its states get, and states are
numbered in the order the builder adds them.

Before building, a pattern is put in the shape the builder sees (`Node`): sequences flattened
with their neighbouring literal characters joined, alternations flattened, an alternation of
single characters and classes made one class, and alternatives that all begin with the same items
factored. An alternation of literals is built as a trie of their bytes.
-/

namespace CssBundle.Regex

open CssBundle.Unicode

def sizeLimit : Nat := 10485760

def stateBytes : Nat := 32

def transitionBytes : Nat := 8

def branchBytes : Nat := 4

def maxCodePoint : Nat := 0x10FFFF

/-! ## Classes as ranges -/

/-- Sorted, disjoint ranges, with touching ranges joined, holding the code points of some
ranges. -/
def normalizeRanges (rs : List (Nat × Nat)) : List (Nat × Nat) :=
  let sorted := rs.mergeSort fun a b => a.1 ≤ b.1
  (sorted.foldl (fun acc r =>
    match acc with
    | (lo, hi) :: rest => if r.1 ≤ hi + 1 then (lo, max hi r.2) :: rest else r :: acc
    | [] => [r]) []).reverse

def complementRanges (rs : List (Nat × Nat)) : List (Nat × Nat) :=
  let (acc, next) := rs.foldl (fun (acc, next) (lo, hi) =>
    (if next < lo then (next, lo - 1) :: acc else acc, hi + 1)) ([], 0)
  (if next ≤ maxCodePoint then (next, maxCodePoint) :: acc else acc).reverse

def intersectRanges (a b : List (Nat × Nat)) : List (Nat × Nat) :=
  complementRanges (normalizeRanges (complementRanges a ++ complementRanges b))

/-- The ranges of the code points whose value satisfies `p`, from runs: a run starts at a code
point and lasts until the next one starts. -/
def runRanges (runs : Array (Nat × Nat)) (p : Nat → Bool) : List (Nat × Nat) :=
  let starts := runs.toList
  let ends := (starts.drop 1).map (·.1 - 1) ++ [maxCodePoint]
  normalizeRanges ((starts.zip ends).filterMap fun ((start, v), stop) =>
    if p v && start ≤ stop then some (start, stop) else none)

/-- The code points of the scripts that use them (Script_Extensions) of one script: those of
the script without an entry of their own, and those whose entry names it. -/
def scriptExtensionRanges (index : Nat) : List (Nat × Nat) :=
  let entries := extensionRuns.toList.map fun e => (e.getD 0 0, e.getD 1 0, e.toList.drop 2)
  let covered := normalizeRanges (entries.map fun (lo, hi, _) => (lo, hi))
  let own := intersectRanges (runRanges scriptRuns (· == index)) (complementRanges covered)
  normalizeRanges (own ++ entries.filterMap fun (lo, hi, scripts) =>
    if scripts.contains index then some (lo, hi) else none)

def CharSet.leafRanges : CharSet → List (Nat × Nat)
  | .range lo hi => [(lo.toNat, hi.toNat)]
  | .table ranges => ranges.toList
  | .category members => runRanges categoryRuns fun v => members.contains (Category.ofIndex v)
  | .script index => runRanges scriptRuns (· == index)
  | .scriptExtension index => scriptExtensionRanges index
  | _ => []

/-- The code points that have case variants under a fold: under simple folding, every member of
a case-fold class of two or more; under ASCII folding, the ASCII letters. -/
def foldCandidates : Fold → List Nat
  | .exact => []
  | .simple => foldLinks.toList.map (·.1)
  | .ascii => (List.range 26).map (65 + ·) ++ (List.range 26).map (97 + ·)

/-- Sorted ranges with the case variants of their code points added. Only code points with case
variants can add anything, so the candidates are looked up in the ranges rather than every code
point of the ranges being walked. -/
def foldRanges (fold : Fold) (rs : List (Nat × Nat)) : List (Nat × Nat) :=
  let table := rs.toArray
  let found := (foldCandidates fold).filter fun n => memRanges table n
  normalizeRanges (rs ++ found.flatMap fun n =>
    (fold.variants (Char.ofNat n)).map fun c => (c.toNat, c.toNat))

def CharSet.ranges (fold : Fold) : CharSet → List (Nat × Nat)
  | .union items => normalizeRanges (rangesAll fold items)
  | .complement s => complementRanges (CharSet.ranges fold s)
  | s => foldRanges fold (normalizeRanges s.leafRanges)
where
  rangesAll (fold : Fold) : List CharSet → List (Nat × Nat)
    | [] => []
    | s :: rest => CharSet.ranges fold s ++ rangesAll fold rest

/-! ## UTF-8 byte sequences -/

def maxScalarOf (n : Nat) : Nat :=
  match n with
  | 1 => 0x7F
  | 2 => 0x7FF
  | 3 => 0xFFFF
  | _ => maxCodePoint

def utf8Bytes (c : Nat) : List Nat :=
  if c < 0x80 then [c]
  else if c < 0x800 then [0xC0 + c / 64, 0x80 + c % 64]
  else if c < 0x10000 then [0xE0 + c / 4096, 0x80 + c / 64 % 64, 0x80 + c % 64]
  else [0xF0 + c / 262144, 0x80 + c / 4096 % 64, 0x80 + c / 64 % 64, 0x80 + c % 64]

/-- Where a range of code points must be cut so that every piece has one byte length and
differs from one end to the other only in bytes that run over the whole continuation range:
the first piece ends at the answer. -/
def utf8Cut (lo hi : Nat) : Option Nat :=
  match [1, 2, 3].find? fun i => lo ≤ maxScalarOf i && maxScalarOf i < hi with
  | some i => some (maxScalarOf i)
  | none =>
    if hi ≤ 0x7F then none
    else
      let step := fun (i : Nat) =>
        let block := Nat.pow 2 (6 * i)
        if lo / block != hi / block then
          if lo % block != 0 then some (lo - lo % block + block - 1)
          else if hi % block != block - 1 then some (hi - hi % block - 1)
          else none
        else none
      [1, 2, 3].findSome? step

/-- The byte-range sequences of UTF-8 that encode the code points of ranges taken from a stack,
in increasing order; `fuel` bounds the steps. -/
def utf8SequencesOf : Nat → List (Nat × Nat) → List (List (Nat × Nat))
  | 0, _ => []
  | _ + 1, [] => []
  | fuel + 1, (lo, hi) :: stack =>
    if lo < 0xE000 && hi > 0xD7FF then
      utf8SequencesOf fuel ((lo, 0xD7FF) :: (0xE000, hi) :: stack)
    else if hi < lo then utf8SequencesOf fuel stack
    else match utf8Cut lo hi with
      | some cut => utf8SequencesOf fuel ((lo, cut) :: (cut + 1, hi) :: stack)
      | none => (utf8Bytes lo).zip (utf8Bytes hi) :: utf8SequencesOf fuel stack

/-- The byte-range sequences of UTF-8 that encode the code points of sorted ranges. -/
def utf8Sequences (rs : List (Nat × Nat)) : List (List (Nat × Nat)) :=
  utf8SequencesOf (64 * rs.length + 64) rs

/-! ## The shape the builder sees -/

/-- A pattern in the shape the automaton builder sees. -/
inductive Node where
  /-- Matches the empty text. -/
  | empty
  /-- A run of characters, by code point, matched one byte at a time. -/
  | literal (chars : List Nat)
  /-- One character of a set that is not a single character, with the UTF-8 byte sequences of
  the set; the empty set never matches. -/
  | cls (ranges : List (Nat × Nat)) (seqs : List (List (Nat × Nat)))
  /-- A zero-width test. -/
  | look (l : Look)
  /-- A group that records the span it matched. -/
  | capture (index : Nat) (body : Node)
  /-- The nodes one after another. -/
  | concat (items : List Node)
  /-- The first of the nodes that leads to a match. -/
  | alt (items : List Node)
  /-- The body at least `min` and at most `max` times. -/
  | rep (body : Node) (min : Nat) (max : Option Nat) (greedy : Bool)
  deriving Inhabited

mutual

def Node.same : Node → Node → Bool
  | .empty, .empty => true
  | .literal a, .literal b => a == b
  | .cls a _, .cls b _ => a == b
  | .look a, .look b => a == b
  | .capture i a, .capture j b => i == j && Node.same a b
  | .concat a, .concat b => Node.sameAll a b
  | .alt a, .alt b => Node.sameAll a b
  | .rep a lo hi g, .rep b lo' hi' g' => lo == lo' && hi == hi' && g == g' && Node.same a b
  | _, _ => false

def Node.sameAll : List Node → List Node → Bool
  | [], [] => true
  | a :: as, b :: bs => Node.same a b && Node.sameAll as bs
  | _, _ => false

end

/-- A set as the builder sees it: a single character is a literal. -/
def Node.ofRanges (rs : List (Nat × Nat)) : Node :=
  match rs with
  | [(lo, hi)] => if lo == hi then .literal [lo] else .cls rs (utf8Sequences rs)
  | _ => .cls rs (utf8Sequences rs)

/-- Add an item to a sequence kept in reverse: empty items are dropped and a literal that follows
a literal is joined to it. -/
def pushItem (acc : List Node) (n : Node) : List Node :=
  match n, acc with
  | .empty, _ => acc
  | .literal cs, .literal ds :: rest => .literal (ds ++ cs) :: rest
  | n, _ => n :: acc

/-- A sequence as the builder sees it: nested sequences opened, empty items dropped, neighbouring
literals joined; no item is the empty pattern and one item is that item. -/
def Node.mkConcat (items : List Node) : Node :=
  let flat := items.flatMap fun n => match n with
    | .concat xs => xs
    | n => [n]
  match (flat.foldl pushItem []).reverse with
  | [] => .empty
  | [n] => n
  | ns => .concat ns

/-- The ranges of a node that an alternation joins into one class: a single character or a
class. -/
def Node.classRanges? : Node → Option (List (Nat × Nat))
  | .literal [c] => some [(c, c)]
  | .cls rs _ => some rs
  | _ => none

def Node.concatItems? : Node → Option (List Node)
  | .concat xs => some xs
  | _ => none

def commonPrefix : List Node → List Node → List Node
  | x :: xs, y :: ys => if Node.same x y then x :: commonPrefix xs ys else []
  | _, _ => []

/-- An alternation as the builder sees it: nested alternations opened; no item never matches and
one item is that item; single characters and classes make one class; and when every item is a
sequence and all begin with the same items, those items come first, followed by the alternation
of what is left of each. The factoring shortens every item, so `fuel`, the length of the longest
item, bounds how often it happens. -/
def Node.mkAlt : Nat → List Node → Node
  | fuel, items =>
    let flat := items.flatMap fun n => match n with
      | .alt xs => xs
      | n => [n]
    match flat with
    | [] => Node.ofRanges []
    | [n] => n
    | _ =>
      match flat.mapM Node.classRanges? with
      | some rss => Node.ofRanges (normalizeRanges rss.flatten)
      | none =>
        match fuel, flat.mapM Node.concatItems? with
        | fuel + 1, some (first :: rest) =>
          let start := rest.foldl commonPrefix first
          if start.isEmpty then .alt flat
          else
            let tails := (first :: rest).map fun xs => Node.mkConcat (xs.drop start.length)
            Node.mkConcat (start ++ [Node.mkAlt fuel tails])
        | _, _ => .alt flat

/-- The length of the longest sequence among some nodes, which bounds how often an alternation
of them is factored. -/
def longestSequence (items : List Node) : Nat :=
  items.foldl (fun n item => max n (((Node.concatItems? item).map List.length).getD 0)) 0

mutual

def Pattern.toNode : Pattern → Node
  | .empty => .empty
  | .char s fold => Node.ofRanges (s.ranges fold)
  | .look l => .look l
  | .capture index body => .capture index body.toNode
  | .concat items => Node.mkConcat (Pattern.toNodes items)
  | .alt items =>
    let nodes := Pattern.toNodes items
    Node.mkAlt (longestSequence nodes + 1) nodes
  | .rep body lo hi greedy => .rep body.toNode lo hi greedy

def Pattern.toNodes : List Pattern → List Node
  | [] => []
  | p :: ps => p.toNode :: Pattern.toNodes ps

end

def sumLengths (a b : Option Nat) : Option Nat :=
  a.bind fun x => b.map (x + ·)

mutual

def Node.minLen : Node → Option Nat
  | .empty | .look _ => some 0
  | .literal cs => some (cs.flatMap utf8Bytes).length
  | .cls [] _ => none
  | .cls ((lo, _) :: _) _ => some (utf8Bytes lo).length
  | .capture _ body => body.minLen
  | .concat items => Node.minLenSum items
  | .alt [] => none
  | .alt (n :: ns) => Node.minLenOf n.minLen ns
  | .rep body lo _ _ => body.minLen.map (· * lo)

def Node.minLenSum : List Node → Option Nat
  | [] => some 0
  | n :: ns => sumLengths n.minLen (Node.minLenSum ns)

/-- The fewest bytes one of some nodes matches, given the fewest so far; none when one of them
never matches. -/
def Node.minLenOf (acc : Option Nat) : List Node → Option Nat
  | [] => acc
  | n :: ns => Node.minLenOf (acc.bind fun a => n.minLen.map (min a ·)) ns

end

def Node.literals? (items : List Node) : Option (List (List Nat)) :=
  items.mapM fun n => match n with
    | .literal cs => some cs
    | _ => none

/-! ## Counting states -/

/-- What the builder has added so far: the number of states, which is also the number the next
state gets, and the bytes they take beyond the fixed size of a state. -/
structure Tally where
  states : Nat := 0
  extra : Nat := 0

def Tally.bytes (t : Tally) : Nat := stateBytes * t.states + t.extra

/-- A step of building: it fails as soon as the automaton passes the size limit. -/
abbrev Build (α : Type) := StateT Tally Option α

/-- Add `count` states that take `extra` bytes beyond their fixed size together; the number of
the first is the answer. -/
def countStates (count extra : Nat) : Build Nat := fun t =>
  let t' : Tally := { states := t.states + count, extra := t.extra + extra }
  if t'.bytes > sizeLimit then none else some (t.states, t')

/-- Add one state that takes `extra` bytes beyond its fixed size; its number is the answer. -/
def countState (extra : Nat) : Build Nat := countStates 1 extra

/-- Add bytes to states already added: a branch, for instance. -/
def grow (extra : Nat) : Build Unit := fun t =>
  let t' : Tally := { t with extra := t.extra + extra }
  if t'.bytes > sizeLimit then none else some ((), t')

/-- Join the end of a fragment to what follows: a branch more when the end is a branching
state. -/
def joinEnd (endsInBranch : Bool) : Build Unit :=
  if endsInBranch then grow branchBytes else pure ()

/-! ## Classes forwards: sharing suffixes -/

def hashStep (h : UInt64) (x : Nat) : UInt64 := (h ^^^ x.toUInt64) * 1099511628211

def hashStart : UInt64 := 0xcbf29ce484222325

def forwardSlots : Nat := 10000

def backwardSlots : Nat := 1000

/-- The slot of a state with some transitions, as (first byte, last byte, target). -/
def transitionsSlot (ts : Array (Nat × Nat × Nat)) : Nat :=
  (ts.foldl (fun h (lo, hi, next) => hashStep (hashStep (hashStep h lo) hi) next)
    hashStart).toNat % forwardSlots

/-- A state of the forward automaton of a class not built yet: its finished transitions, as
(first byte, last byte, target), and its last byte range, whose target is not known yet. -/
structure PendingState where
  transitions : Array (Nat × Nat × Nat) := #[]
  last : Option (Nat × Nat) := none
  deriving Inhabited

def PendingState.close (p : PendingState) (target : Nat) : PendingState :=
  match p.last with
  | some (lo, hi) => { transitions := p.transitions.push (lo, hi, target), last := none }
  | none => p

/-- The forward automaton of a class while it is built: the state after the class, the states
not built yet from the start state on, and the cache of built states by slot. -/
structure SuffixBuilder where
  target : Nat
  pending : Array PendingState := #[{}]
  cache : Std.HashMap Nat (Array (Nat × Nat × Nat) × Nat) := {}

/-- The number of a state with some transitions: the state in its slot when that state is equal,
or a new state, which then takes the slot. -/
def SuffixBuilder.build (b : SuffixBuilder) (ts : Array (Nat × Nat × Nat)) :
    Build (SuffixBuilder × Nat) := do
  let slot := transitionsSlot ts
  let hit := match b.cache.get? slot with
    | some (key, id) => if key == ts then some id else none
    | none => none
  match hit with
  | some id => pure (b, id)
  | none =>
    let id ← countState (transitionBytes * ts.size)
    pure ({ b with cache := b.cache.insert slot (ts, id) }, id)

/-- Build the pending states after the first `keep + 1`, innermost first, each sending its last
range to the one built after it; the last kept state then sends its last range there. -/
def SuffixBuilder.buildFrom (b : SuffixBuilder) (keep : Nat) : Build SuffixBuilder :=
  go b.pending.size b b.target
where
  /-- Build pending states while more than `keep + 1` are left, at most `fuel` of them. -/
  go : Nat → SuffixBuilder → Nat → Build SuffixBuilder
    | 0, b, _ => pure b
    | fuel + 1, b, next =>
      if keep + 1 < b.pending.size then do
        let top := b.pending.back!.close next
        let (b, id) ← { b with pending := b.pending.pop }.build top.transitions
        go fuel b id
      else
        let i := b.pending.size - 1
        pure { b with pending := b.pending.modify i (·.close next) }

/-- Add a byte sequence, greater than those added before: the states it shares with the last one
stay pending, the rest of the last one is built. -/
def SuffixBuilder.add (b : SuffixBuilder) (seq : List (Nat × Nat)) : Build SuffixBuilder := do
  let shared := ((seq.zip b.pending.toList).takeWhile fun (r, p) => p.last == some r).length
  let b ← b.buildFrom shared
  match seq.drop shared with
  | [] => pure b
  | first :: rest =>
    let i := b.pending.size - 1
    let pending := b.pending.modify i fun p => { p with last := some first }
    pure { b with pending := rest.foldl (fun acc r => acc.push { last := some r }) pending }

/-- Build the forward automaton of a class with some byte sequences: the state after the class
first, then the states of the sequences, the start state last. -/
def forwardClass (seqs : List (List (Nat × Nat))) : Build Unit := do
  let target ← countState 0
  let b ← seqs.foldlM SuffixBuilder.add { target }
  let b ← b.buildFrom 0
  let _ ← b.build (b.pending[0]?.getD default).transitions

/-! ## Classes backwards: sharing prefixes -/

/-- The cache of the backward automaton of a class: by slot, a state's target and byte range,
with the state's number. -/
abbrev PrefixCache := Std.HashMap Nat ((Nat × Nat × Nat) × Nat)

/-- The state that reads a byte range and goes on to `next`: the one in its slot when that one
is equal, or a new state, which then takes the slot. -/
def prefixState (cache : PrefixCache) (next : Nat) (r : Nat × Nat) : Build (PrefixCache × Nat) := do
  let slot := (hashStep (hashStep (hashStep hashStart next) r.1) r.2).toNat % backwardSlots
  let hit := match cache.get? slot with
    | some (key, id) => if key == (next, r.1, r.2) then some id else none
    | none => none
  match hit with
  | some id => pure (cache, id)
  | none =>
    let id ← countState 0
    pure (cache.insert slot ((next, r.1, r.2), id), id)

/-- Build the backward automaton of a class with some byte sequences: a branching state with a
branch for each sequence and the state after the class, then for each sequence a chain of
states from its first byte range, which reads last, to its last. -/
def backwardClass (seqs : List (List (Nat × Nat))) : Build Unit := do
  let _ ← countState 0
  let after ← countState 0
  let _ ← seqs.foldlM (fun (cache : PrefixCache) seq => do
    let (cache, _) ← seq.foldlM (fun (acc : PrefixCache × Nat) r => prefixState acc.1 acc.2 r)
      (cache, after)
    grow branchBytes
    pure cache) {}

/-- Build a class: a failing state when it is empty, one state with a transition for each range
when it holds only ASCII characters, and its UTF-8 automaton otherwise. -/
def classBuild (backwards : Bool) (rs : List (Nat × Nat)) (seqs : List (List (Nat × Nat))) :
    Build Unit :=
  if rs.isEmpty then do let _ ← countState 0
  else if rs.all (·.2 ≤ 0x7F) then do
    let _ ← countState 0
    let _ ← countState (transitionBytes * rs.length)
  else if backwards then backwardClass seqs
  else forwardClass seqs

/-! ## Alternations of literals -/

/-- A state of the trie of some literals: its transitions, as (byte, state), and the chunks they
are cut into where a literal ends, as start and end indices; the transitions after the last chunk
are the active ones. -/
structure TrieState where
  transitions : Array (Nat × Nat) := #[]
  chunks : Array (Nat × Nat) := #[]
  deriving Inhabited

def TrieState.activeStart (s : TrieState) : Nat := (s.chunks.back?.map (·.2)).getD 0

/-- A trie state where a literal ends: a chunk is closed, unless the last one was closed with no
transition after it. -/
def TrieState.addMatch (s : TrieState) : TrieState :=
  if !s.chunks.isEmpty && s.activeStart == s.transitions.size then s
  else { s with chunks := s.chunks.push (s.activeStart, s.transitions.size) }

def TrieState.chunkList (s : TrieState) : List (List (Nat × Nat)) :=
  let slice := fun (a b : Nat) => (s.transitions.extract a b).toList
  s.chunks.toList.map (fun (a, b) => slice a b) ++ [slice s.activeStart s.transitions.size]

/-- The state a trie state goes to on a byte among its active transitions, added when there is
none, with the active transitions kept in order of their bytes. -/
def trieStep (states : Array TrieState) (src byte : Nat) : Array TrieState × Nat :=
  let s := states.getD src default
  let start := s.activeStart
  let active := (s.transitions.extract start s.transitions.size).toList
  match active.find? (·.1 == byte) with
  | some (_, next) => (states, next)
  | none =>
    let next := states.size
    let pos := start + (active.filter (·.1 < byte)).length
    let ts := s.transitions.toList
    let s := { s with transitions := (ts.take pos ++ [(byte, next)] ++ ts.drop pos).toArray }
    ((states.set! src s).push {}, next)

def buildTrie (backwards : Bool) (lits : List (List Nat)) : Array TrieState :=
  lits.foldl (fun states lit =>
    let bytes := lit.flatMap utf8Bytes
    let (states, last) := (if backwards then bytes.reverse else bytes).foldl
      (fun (acc : Array TrieState × Nat) b => trieStep acc.1 acc.2 b) (states, 0)
    states.modify last TrieState.addMatch) #[{}]

/-- Build the states of a trie state, depth first, and give the number of its branching state:
each chunk becomes one state with its transitions, where a transition to a state with none goes
to the end and another goes to the state built for it, and the branching state leads to those
states in order, with the end between one chunk and the next. -/
def trieBuild (states : Array TrieState) (after : Nat) : Nat → Nat → Build Nat
  | 0, _ => countState 0
  | fuel + 1, i => do
    let s := states.getD i default
    let (branches, _) ← s.chunkList.foldlM (fun (acc : Nat × Bool) chunk => do
      let (branches, later) := acc
      let branches := if later then branches + 1 else branches
      let count ← chunk.foldlM (fun (count : Nat) (_, next) => do
        if (states.getD next default).transitions.isEmpty then pure (count + 1)
        else
          let _ ← trieBuild states after fuel next
          pure (count + 1)) 0
      if count == 0 then pure (branches, true)
      else
        let _ ← countState (if count == 1 then 0 else transitionBytes * count)
        pure (branches + 1, true)) (0, false)
    countState (branchBytes * branches)

/-- Build an alternation of literals as the trie of their bytes: the end first, then the trie
from its root. -/
def literalsBuild (backwards : Bool) (lits : List (List Nat)) : Build Unit := do
  let states := buildTrie backwards lits
  let after ← countState 0
  let _ ← trieBuild states after (states.size + 1) 0

/-! ## Fragments -/

/-- Build fragments one after another, each joined to the end of the one before; the answer
tells whether the last ends in a branching state. -/
def runSequence (prev : Bool) : List (Build Bool) → Tally → Option (Bool × Tally)
  | [], t => some (prev, t)
  | step :: rest, t =>
    match (do let e ← step; joinEnd prev; pure e : Build Bool).run t with
    | none => none
    | some (e, t) => runSequence e rest t

/-- Build a sequence from its fragments, in the order given: no fragment is the empty pattern. -/
def sequenceBuild : List (Build Bool) → Build Bool
  | [] => do let _ ← countState 0; pure false
  | step :: rest => fun t =>
    match step.run t with
    | none => none
    | some (e, t) => runSequence e rest t

/-- Build the further alternatives of an alternation, each joined to the branching state and to
the end. -/
def runAlternatives : List (Build Bool) → Tally → Option (Unit × Tally)
  | [], t => some ((), t)
  | step :: rest, t =>
    match (do let e ← step; grow branchBytes; joinEnd e : Build Unit).run t with
    | none => none
    | some (_, t) => runAlternatives rest t

/-- Build an alternation from its fragments: the first two, the branching state and the end,
then the others; no fragment never matches and one is that fragment. -/
def alternationBuild : List (Build Bool) → Build Bool
  | [] => do let _ ← countState 0; pure false
  | [step] => step
  | first :: second :: rest => do
    let e1 ← first
    let e2 ← second
    let _ ← countState 0
    let _ ← countState 0
    grow branchBytes
    joinEnd e1
    grow branchBytes
    joinEnd e2
    fun t => runAlternatives rest t
    pure false

/-- Build `count` more copies of a fragment after one that ends as `prev` says, each joined to
the one before. -/
def runCopies (step : Build Bool) (prev : Bool) : Nat → Tally → Option (Bool × Tally)
  | 0, t => some (prev, t)
  | count + 1, t =>
    match (do let e ← step; joinEnd prev; pure e : Build Bool).run t with
    | none => none
    | some (e, t) => runCopies step e count t

/-- Build `count` copies of a fragment one after another: none is the empty pattern. -/
def copiesBuild (step : Build Bool) : Nat → Build Bool
  | 0 => do let _ ← countState 0; pure false
  | count + 1 => fun t =>
    match step.run t with
    | none => none
    | some (e, t) => runCopies step e count t

/-- Build the optional copies of a bounded repetition after its required ones, which end as
`prev` says: each is reached through a branching state that may skip to the end. -/
def runOptional (step : Build Bool) (prev : Bool) : Nat → Tally → Option (Bool × Tally)
  | 0, t => some (prev, t)
  | count + 1, t =>
    match (do
        let _ ← countState 0
        let e ← step
        joinEnd prev
        grow (2 * branchBytes)
        pure e : Build Bool).run t with
    | none => none
    | some (e, t) => runOptional step e count t

/-- Build a repetition of a fragment from its bounds; `nonEmpty` tells whether every match of
the body takes some text. -/
def repetitionBuild (step : Build Bool) (nonEmpty : Bool) (lo : Nat) (hi : Option Nat) :
    Build Bool :=
  match lo, hi with
  | 0, some 1 => do
    let _ ← countState 0
    let e ← step
    let _ ← countState 0
    grow (2 * branchBytes)
    joinEnd e
    pure false
  | 0, none =>
    if nonEmpty then do
      let _ ← countState 0
      let e ← step
      grow branchBytes
      joinEnd e
      pure true
    else do
      let e ← step
      let _ ← countState 0
      joinEnd e
      grow branchBytes
      let _ ← countState 0
      let _ ← countState 0
      grow (3 * branchBytes)
      pure false
  | 1, none => do
    let e ← step
    let _ ← countState 0
    joinEnd e
    grow branchBytes
    pure true
  | n + 2, none => do
    let e ← copiesBuild step (n + 1)
    let e' ← step
    let _ ← countState 0
    joinEnd e
    joinEnd e'
    grow branchBytes
    pure true
  | lo, some m =>
    if lo == m then copiesBuild step lo
    else do
      let e ← copiesBuild step lo
      let _ ← countState 0
      let e ← fun t => runOptional step e (m - lo) t
      joinEnd e
      pure false

mutual

/-- Build a node, forwards or backwards; the answer tells whether its end is a branching
state. Backwards, a sequence is built from its last item and groups record nothing. -/
def Node.build (backwards : Bool) : Node → Build Bool
  | .empty | .look _ => do let _ ← countState 0; pure false
  | .literal cs => do
    let _ ← countStates (cs.flatMap utf8Bytes).length 0
    pure false
  | .cls rs seqs => do classBuild backwards rs seqs; pure false
  | .capture _ body =>
    if backwards then body.build backwards
    else do
      let _ ← countState 0
      let e ← body.build backwards
      let _ ← countState 0
      joinEnd e
      pure false
  | .concat items =>
    let steps := Node.buildAll backwards items
    sequenceBuild (if backwards then steps.reverse else steps)
  | .alt items =>
    match Node.literals? items with
    | some lits =>
      if 2 ≤ lits.length then do literalsBuild backwards lits; pure false
      else alternationBuild (Node.buildAll backwards items)
    | none => alternationBuild (Node.buildAll backwards items)
  | .rep body lo hi _ =>
    let nonEmpty := match body.minLen with
      | some n => n > 0
      | none => false
    repetitionBuild (body.build backwards) nonEmpty lo hi

def Node.buildAll (backwards : Bool) : List Node → List (Build Bool)
  | [] => []
  | n :: ns => n.build backwards :: Node.buildAll backwards ns

end

mutual

def Pattern.startsWithLook (l : Look) : Pattern → Bool
  | .look l' => l' == l
  | .capture _ body => body.startsWithLook l
  | .concat items => Pattern.startsWithLookAll l items
  | .alt [] => false
  | .alt items => Pattern.allStartWithLook l items
  | .rep body lo _ _ => lo > 0 && body.startsWithLook l
  | _ => false

/-- Whether a sequence starts with a test of a look, before anything that can match text. -/
def Pattern.startsWithLookAll (l : Look) : List Pattern → Bool
  | [] => false
  | p :: rest => p.startsWithLook l || (p.maxLen == some 0 && Pattern.startsWithLookAll l rest)

def Pattern.allStartWithLook (l : Look) : List Pattern → Bool
  | [] => true
  | p :: rest => p.startsWithLook l && Pattern.allStartWithLook l rest

end

mutual

def Pattern.endsWithLook (l : Look) : Pattern → Bool
  | .look l' => l' == l
  | .capture _ body => body.endsWithLook l
  | .concat items => (Pattern.endsWithLookAll l items).1
  | .alt [] => false
  | .alt items => Pattern.allEndWithLook l items
  | .rep body lo _ _ => lo > 0 && body.endsWithLook l
  | _ => false

/-- Whether a sequence ends with a test of a look after anything that can match text, and
whether none of its items can match text. -/
def Pattern.endsWithLookAll (l : Look) : List Pattern → Bool × Bool
  | [] => (false, true)
  | p :: rest =>
    let (found, silent) := Pattern.endsWithLookAll l rest
    (found || (silent && p.endsWithLook l), silent && p.maxLen == some 0)

def Pattern.allEndWithLook (l : Look) : List Pattern → Bool
  | [] => true
  | p :: rest => p.endsWithLook l && Pattern.allEndWithLook l rest

end

/-- Build the automaton of a pattern, forwards or backwards. Unless every match is tied to the
start of the text (backwards: its end), it starts with a loop over any byte; forwards, the whole
match is a group; last comes the state of a match. -/
def Node.automaton (n : Node) (backwards anchored : Bool) : Build Unit := do
  let loop ← if anchored then (do let _ ← countState 0; pure false) else (do
    let _ ← countState 0
    let _ ← countState 0
    let _ ← countState transitionBytes
    grow branchBytes
    pure true)
  if backwards then
    let e ← n.build true
    let _ ← countState 0
    joinEnd e
  else
    let _ ← countState 0
    let e ← n.build false
    let _ ← countState 0
    joinEnd e
    let _ ← countState 0
  joinEnd loop

def Pattern.fitsSizeLimit (p : Pattern) : Bool :=
  let n := p.toNode
  ((n.automaton false (p.startsWithLook .textStart)).run {}).isSome &&
    ((n.automaton true (p.endsWithLook .textEnd)).run {}).isSome

end CssBundle.Regex
