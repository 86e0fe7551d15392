import Mathlib
import CssBundle.Proofs.ReaderProgress
import CssBundle.Proofs.ReadThrough

/-!
# Where the reader is stuck

The reader walks a text statement by statement (`Reaches`). It skips blanks and stray `;`, reads
comments whole, and reads the head of every other statement with a scan up to a stop character.
A head that stops at a `{` opens a block, and the walk goes on inside it until a `}` closes it; a
head that stops elsewhere ends an at-rule or, inside a block, a declaration. The walk keeps the
`{` of every block it is in, innermost first.

Every error of the reader is a place of that walk where it cannot go on (`Stuck`): a `}` with no
block open; the end of the text inside a block, reported at the `{` of the innermost one; an `@`
with no name after it; a statement that is neither a rule nor, inside a block, a declaration,
reported at its first character; a comment with no `*/` after its `/*`; or the scan of a head
reaching the end of the text with something left open (`LeftOpen`). What a scan leaves open is
said with the machine of `Scanner`: a string the machine stays inside up to the end, a comment
with no `*/` after it, or the outermost bracket, which the scan came to with no bracket open and
after which the machine never again awaits no bracket.

Main statement: `parse_error_opens`.
-/

namespace CssBundle.Css

open Text Cursor

namespace Scanner

def stack : Scanner → List Char
  | .plain st | .escape st | .slash st | .quoted _ st | .quotedEscape _ st | .comment st
  | .commentStar st => st

def inString : Scanner → Bool
  | .quoted _ _ | .quotedEscape _ _ => true
  | _ => false

/-- The machine reads a text from `m` through states that all have the property `P`, the first
and the last included. -/
def Throughout (P : Scanner → Prop) : Scanner → List Char → Prop
  | m, [] => P m
  | m, x :: xs => P m ∧ ∃ m', m.step x = some m' ∧ Throughout P m' xs

variable {P : Scanner → Prop}

theorem Throughout.append : ∀ {m m' : Scanner} {T U : List Char}, Throughout P m T →
    m.feed T = some m' → Throughout P m' U → Throughout P m (T ++ U)
  | _, _, [], _, _, hf, hU => by
    cases hf
    exact hU
  | _, _, _ :: _, _, ⟨_, m₁, hx, hT⟩, hf, hU => by
    rw [feed_cons, hx, Option.bind_some] at hf
    exact ⟨‹_›, m₁, hx, Throughout.append hT hf hU⟩

theorem Throughout.mono {Q : Scanner → Prop} (hPQ : ∀ m, P m → Q m) :
    ∀ {m : Scanner} {T : List Char}, Throughout P m T → Throughout Q m T
  | _, [], h => hPQ _ h
  | _, _ :: _, ⟨hm, m', hx, hT⟩ => ⟨hPQ _ hm, m', hx, Throughout.mono hPQ hT⟩

theorem throughout_single {m m' : Scanner} {x : Char} (hx : m.step x = some m') (hm : P m)
    (hm' : P m') : Throughout P m [x] :=
  ⟨hm, m', hx, hm'⟩

theorem stack_afterPlain_of_ne {st : List Char} {x : Char} (h1 : x ≠ '(') (h2 : x ≠ '[')
    (h3 : x ≠ ')') (h4 : x ≠ ']') : (afterPlain st x).stack = st := by
  unfold afterPlain
  split_ifs <;> first | rfl | simp_all

/-- After a character that opens no string and no escape, the machine is between constructs,
unless a slash is followed by a star. -/
theorem between_afterPlain {st more : List Char} {x : Char} (hesc : x ≠ '\\') (hq : x ≠ '"' ∧ x ≠ '\'')
    (hslash : x = '/' → more.head? ≠ some '*') : Between (afterPlain st x) (afterPlain st x).stack more := by
  unfold afterPlain
  split_ifs with h1 h2 h3
  · exact absurd h1 hesc
  · exact absurd h2 (by tauto)
  · exact .inr ⟨rfl, hslash h3⟩
  all_goals exact .inl rfl

theorem Between.stack {m : Scanner} {st rest : List Char} (h : Between m st rest) : m.stack = st := by
  rcases h with rfl | ⟨rfl, -⟩ <;> rfl

/-- Inside a string opened by `q`, the string loop reads up to and with the closing quote a text
the machine reads inside the string, leaving it with the same brackets awaited; or it fails, and
the machine is inside the string up to the end of the text. -/
theorem skipString_go_machine (start : Cursor) {q : Char} (hq : q ≠ '\\') (st : List Char) :
    ∀ n (d : Cursor), d.rest.length < n →
      (∀ e, skipString.go start q n d = .ok e → ∃ S, d.rest = S ++ e.rest ∧
        Throughout (·.stack = st) (.quoted q st) S ∧ (Scanner.quoted q st).feed S = some (.plain st)) ∧
      (∀ err, skipString.go start q n d = .error err → Throughout (·.inString) (.quoted q st) d.rest) := by
  have hesc : (Scanner.quoted q st).step '\\' = some (.quotedEscape q st) := by simp [step]
  have hclose : (Scanner.quoted q st).step q = some (.plain st) := by simp [step, hq]
  intro n
  induction n with
  | zero => intro d hd; omega
  | succ n ih =>
    intro d hd
    rcases hrest : d.rest with _ | ⟨x, more⟩
    · refine ⟨fun e h => ?_, fun err _ => rfl⟩
      simp [skipString.go, hrest] at h
    · by_cases hx : x = '\\'
      · subst hx
        have hgo : skipString.go start q (n + 1) d = skipString.go start q n d.bump.bump := by
          simp [skipString.go, hrest]
        rw [hgo]
        rcases more with _ | ⟨z, more'⟩
        · have hend : d.bump.bump.rest = [] := by simp [rest_bump, hrest]
          refine ⟨fun e h => ?_, fun err _ => ⟨rfl, _, hesc, rfl⟩⟩
          obtain ⟨S, hS, -, hfeed⟩ := (ih d.bump.bump (by simp [hend]; simp [hrest] at hd; omega)).1 e h
          obtain ⟨rfl, -⟩ := List.append_eq_nil_iff.mp (hS.symm.trans hend)
          cases hfeed
        · have hnext : d.bump.bump.rest = more' := by simp [rest_bump, hrest]
          have hlen : d.bump.bump.rest.length < n := by simp [hnext]; simp [hrest] at hd; omega
          refine ⟨fun e h => ?_, fun err h => ?_⟩
          · obtain ⟨S, hS, hthr, hfeed⟩ := (ih _ hlen).1 e h
            refine ⟨'\\' :: z :: S, by simp [← hnext, hS], ⟨rfl, _, hesc, rfl, _, rfl, hthr⟩, ?_⟩
            simp [step, hfeed]
          · exact ⟨rfl, _, hesc, rfl, _, rfl, hnext ▸ (ih _ hlen).2 err h⟩
      · have hnext : d.bump.rest = more := by simp [rest_bump, hrest]
        have hlen : d.bump.rest.length < n := by simp [hnext]; simp [hrest] at hd; omega
        by_cases hxq : x = q
        · subst hxq
          have hgo : skipString.go start x (n + 1) d = .ok d.bump := by simp [skipString.go, hrest, hx]
          rw [hgo]
          refine ⟨fun e h => ?_, fun err h => by cases h⟩
          cases h
          exact ⟨[x], by simp [hnext], ⟨rfl, _, hclose, rfl⟩, by simp [hclose]⟩
        · have hgo : skipString.go start q (n + 1) d = skipString.go start q n d.bump := by
            simp [skipString.go, hrest, hx, hxq]
          have hstep : (Scanner.quoted q st).step x = some (.quoted q st) := by simp [step, hx, hxq]
          rw [hgo]
          refine ⟨fun e h => ?_, fun err h => ⟨rfl, _, hstep, hnext ▸ (ih _ hlen).2 err h⟩⟩
          obtain ⟨S, hS, hthr, hfeed⟩ := (ih _ hlen).1 e h
          exact ⟨x :: S, by simp [← hnext, hS], ⟨rfl, _, hstep, hthr⟩, by simp [hstep, hfeed]⟩

/-- Inside a comment, a text holding no `*/` and the closing `*/` after it are read through
states that await the same brackets. -/
theorem throughout_inComment {st : List Char} :
    ∀ {text : List Char} {s : Scanner}, ¬ ['*', '/'] <:+: text → InComment s st (text ++ ['*', '/']) →
      Throughout (·.stack = st) s (text ++ ['*', '/'])
  | [], s, _, hs => by
    rcases hs with rfl | ⟨rfl, -⟩ <;> exact ⟨rfl, _, rfl, rfl, _, rfl, rfl⟩
  | y :: text, s, ht, hs => by
    have ht' : ¬ ['*', '/'] <:+: text := fun h => ht (h.trans (List.suffix_cons y text).isInfix)
    have hnext : y = '*' → (text ++ ['*', '/']).head? ≠ some '/' := by
      rintro rfl hhead
      cases text with
      | nil => simp at hhead
      | cons z text =>
        simp only [List.cons_append, List.head?_cons, Option.some.injEq] at hhead
        exact ht ⟨[], text, by simp [hhead]⟩
    have hstep : s.step y = some (if y = '*' then .commentStar st else .comment st) := by
      rcases hs with rfl | ⟨rfl, hslash⟩
      · rfl
      · have hy : y ≠ '/' := fun h => hslash (by simp [h])
        simp [step, hy]
    have hstack : s.stack = st := by rcases hs with rfl | ⟨rfl, -⟩ <;> rfl
    refine ⟨hstack, _, hstep, throughout_inComment ht' ?_⟩
    by_cases hy : y = '*'
    · exact .inr ⟨by simp [hy], hnext hy⟩
    · exact .inl (by simp [hy])

end Scanner

open Scanner

/-- What the text at a problem's location begins with: the construct the problem names. A
comment left open has no `*/` after its `/*`; an at-rule without a name has no name character
after its `@`; a statement that reads as nothing starts with a character that is not blank. -/
def ParseProblem.Opens : ParseProblem → List Char → Prop
  | .unexpectedClose, rest => rest.head? = some '}'
  | .unknownWord, rest => ∃ x ∈ rest.head?, isBlank x = false
  | .atRuleWithoutName, rest => ∃ after, rest = '@' :: after ∧ ∀ x ∈ after.head?, isNameChar x = false
  | .unclosedBlock, rest => rest.head? = some '{'
  | .unclosedBracket, rest => rest.head? = some '(' ∨ rest.head? = some '['
  | .unclosedString, rest => rest.head? = some '"' ∨ rest.head? = some '\''
  | .unclosedComment, rest => ∃ body, rest = '/' :: '*' :: body ∧ ¬ ['*', '/'] <:+: body

/-! ## What a scan leaves open -/

/-- The scan started at `s` has read the text up to `q`, and the machine stands in `m` there. -/
def Cursor.ScanAt (s q : Cursor) (m : Scanner) : Prop :=
  s.Follows q ∧ ∃ T, s.rest = T ++ q.rest ∧ (Scanner.plain []).feed T = some m

theorem Cursor.ScanAt.unique {s q : Cursor} {m m' : Scanner} (h : s.ScanAt q m) (h' : s.ScanAt q m') :
    m = m' := by
  obtain ⟨-, T, hT, hm⟩ := h
  obtain ⟨-, T', hT', hm'⟩ := h'
  obtain rfl : T = T' := List.append_cancel_right (hT.symm.trans hT')
  exact Option.some.inj (hm.symm.trans hm')

theorem Cursor.ScanAt.advance {s d d' : Cursor} {m m' : Scanner} {C : List Char} (h : s.ScanAt d m)
    (hdd' : d.Follows d') (hC : d.rest = C ++ d'.rest) (hfeed : m.feed C = some m') : s.ScanAt d' m' := by
  obtain ⟨hsd, T, hT, hm⟩ := h
  exact ⟨hsd.trans hdd', T ++ C, by rw [hT, hC, List.append_assoc], by rw [feed_append, hm, Option.bind_some, hfeed]⟩

/-- From a place the scan came to, the machine reads on as it would from the state after the
character there. -/
theorem Cursor.ScanAt.feed_after {s o d : Cursor} {m₀ m : Scanner} {st A : List Char} {x : Char}
    (ho : s.ScanAt o m₀) (hbetween : Between m₀ st o.rest) (hx : ¬(st = [] ∧ isStop x = true))
    (hrest : o.rest = x :: (A ++ d.rest)) (hd : s.ScanAt d m) : (afterPlain st x).feed A = some m := by
  obtain ⟨-, T₀, hT₀, hm₀⟩ := ho
  obtain ⟨-, T, hT, hm⟩ := hd
  have hTT : T = T₀ ++ x :: A := by
    have h : T ++ d.rest = (T₀ ++ x :: A) ++ d.rest := by rw [← hT, hT₀, hrest]; simp
    exact List.append_cancel_right h
  have hstep : m₀.step x = some (afterPlain st x) := by
    rw [hrest] at hbetween
    exact hbetween.step_eq hx
  rw [hTT, feed_append, hm₀, Option.bind_some, feed_cons, hstep, Option.bind_some] at hm
  exact hm

/-- What the scan started at `s` leaves open at the end of the text, at the place `q`: a string
the machine stays inside, a comment with no `*/` after its `/*`, or a bracket that the scan came
to with no bracket open, after which the machine always awaits a bracket. -/
inductive LeftOpen (s : Cursor) : Cursor → ParseProblem → Prop
  | string {q : Cursor} {m : Scanner} {st after : List Char} {x : Char} : s.ScanAt q m →
      Between m st q.rest → q.rest = x :: after → (x = '"' ∨ x = '\'') →
      Throughout (·.inString) (.quoted x st) after → LeftOpen s q .unclosedString
  | comment {q : Cursor} {m : Scanner} {st body : List Char} : s.ScanAt q m → Between m st q.rest →
      q.rest = '/' :: '*' :: body → ¬ ['*', '/'] <:+: body → LeftOpen s q .unclosedComment
  | bracket {q : Cursor} {m : Scanner} {after : List Char} {x : Char} : s.ScanAt q m →
      Between m [] q.rest → q.rest = x :: after → (x = '(' ∨ x = '[') →
      Throughout (·.stack ≠ []) (afterPlain [] x) after → LeftOpen s q .unclosedBracket

/-- The scanner's loop at `d` with the bracket stack `stack`, in a scan started at `s`: the machine
has read the text up to `d` and awaits the stack's closers; the outermost open bracket was met
with no bracket open, and the machine has awaited a bracket ever since. -/
structure LoopState (s d : Cursor) (stack : List (Char × Location)) : Prop where
  scanned : ∃ m, s.ScanAt d m ∧ m.stack = stack.map (·.1) ∧
    (d.rest ≠ [] → Between m (stack.map (·.1)) d.rest)
  outermost : ∀ p ∈ stack.getLast?, ∃ o m₀ x A, p.2 = o.here ∧ s.ScanAt o m₀ ∧ Between m₀ [] o.rest ∧
    o.rest = x :: (A ++ d.rest) ∧ (x = '(' ∨ x = '[') ∧ Throughout (·.stack ≠ []) (afterPlain [] x) A

theorem loopState_start (s : Cursor) : LoopState s s [] :=
  ⟨⟨.plain [], ⟨.refl s, [], rfl, rfl⟩, rfl, fun _ => .inl rfl⟩, by simp⟩

theorem LoopState.advance {s d d' : Cursor} {stack stack' : List (Char × Location)} {C : List Char}
    {m m' : Scanner} (h : LoopState s d stack) (hm : s.ScanAt d m) (hdd' : d.Follows d')
    (hC : d.rest = C ++ d'.rest) (hfeed : m.feed C = some m') (hst : m'.stack = stack'.map (·.1))
    (hbetween : d'.rest ≠ [] → Between m' (stack'.map (·.1)) d'.rest)
    (hbottom : ∀ p ∈ stack'.getLast?, p ∈ stack.getLast? ∧ Throughout (·.stack ≠ []) m C) :
    LoopState s d' stack' := by
  refine ⟨⟨m', hm.advance hdd' hC hfeed, hst, hbetween⟩, fun p hp => ?_⟩
  obtain ⟨hp', hC'⟩ := hbottom p hp
  obtain ⟨o, m₀, x, A, hloc, ho, hbo, hrest, hx, hA⟩ := h.outermost p hp'
  have hxs : ¬([] = ([] : List Char) ∧ isStop x = true) := by
    rcases hx with rfl | rfl <;> simp [isStop]
  refine ⟨o, m₀, x, A ++ C, hloc, ho, hbo, by rw [hrest, hC, List.append_assoc], hx, ?_⟩
  exact hA.append (ho.feed_after hbo hxs hrest hm) hC'

theorem LoopState.keep {s d d' : Cursor} {stack : List (Char × Location)} {C : List Char}
    {m m' : Scanner} (h : LoopState s d stack) (hm : s.ScanAt d m) (hdd' : d.Follows d')
    (hC : d.rest = C ++ d'.rest) (hfeed : m.feed C = some m')
    (hthr : Throughout (·.stack = stack.map (·.1)) m C) (hm' : m'.stack = stack.map (·.1))
    (hbetween : d'.rest ≠ [] → Between m' (stack.map (·.1)) d'.rest) : LoopState s d' stack := by
  refine h.advance hm hdd' hC hfeed hm' hbetween fun p hp => ⟨hp, hthr.mono fun m hm => ?_⟩
  rw [hm]
  simpa using List.ne_nil_of_mem (List.mem_of_getLast? hp)

theorem LoopState.between {s d : Cursor} {stack : List (Char × Location)} {m : Scanner} {x : Char}
    {more : List Char} (h : LoopState s d stack) (hm : s.ScanAt d m) (hd : d.rest = x :: more) :
    Between m (stack.map (·.1)) (x :: more) := by
  obtain ⟨m', hm', -, hb⟩ := h.scanned
  obtain rfl := hm'.unique hm
  rw [← hd]
  exact hb (by simp [hd])

theorem LoopState.char {s d : Cursor} {stack stack' : List (Char × Location)} {m : Scanner} {x : Char}
    {more : List Char} (h : LoopState s d stack) (hm : s.ScanAt d m) (hd : d.rest = x :: more)
    (hx : ¬(stack.map (·.1) = [] ∧ isStop x = true))
    (hst : (afterPlain (stack.map (·.1)) x).stack = stack'.map (·.1))
    (hbetween : more ≠ [] → Between (afterPlain (stack.map (·.1)) x) (stack'.map (·.1)) more)
    (hbottom : ∀ p ∈ stack'.getLast?, p ∈ stack.getLast?) : LoopState s d.bump stack' := by
  have hstep := (h.between hm hd).step_eq hx
  have hnext : d.bump.rest = more := by simp [rest_bump, hd]
  refine h.advance hm d.follows_bump (C := [x]) (by rw [hd, hnext]; rfl) (by simp [hstep])
    hst (by rw [hnext]; exact hbetween) fun p hp => ⟨hbottom p hp, throughout_single hstep ?_ ?_⟩
  · obtain ⟨m', hm', hmst, -⟩ := h.scanned
    obtain rfl := hm'.unique hm
    rw [hmst]
    simpa using List.ne_nil_of_mem (List.mem_of_getLast? (hbottom p hp))
  · rw [hst]
    simpa using List.ne_nil_of_mem (List.mem_of_getLast? hp)

theorem LoopState.outermost_bracket {s d : Cursor} {m : Scanner} {x : Char} {more : List Char}
    (h : LoopState s d []) (hm : s.ScanAt d m) (hd : d.rest = x :: more) (hx : x = '(' ∨ x = '[')
    {close : Char} (hclose : afterPlain [] x = .plain [close]) : LoopState s d.bump [(close, d.here)] := by
  have hb := h.between hm hd
  have hnot : ¬(([] : List Char) = [] ∧ isStop x = true) := by
    rcases hx with rfl | rfl <;> simp [isStop]
  have hstep := hb.step_eq hnot
  have hnext : d.bump.rest = more := by simp [rest_bump, hd]
  refine ⟨⟨.plain [close], hm.advance d.follows_bump (C := [x]) (by rw [hd, hnext]; rfl)
    (by simp [hstep, hclose]), rfl, fun _ => .inl rfl⟩, fun p hp => ?_⟩
  obtain rfl : p = (close, d.here) := by simpa using hp.symm
  refine ⟨d, m, x, [], rfl, hm, by rw [hd]; exact hb, by rw [hd, hnext]; rfl, hx, ?_⟩
  show (afterPlain [] x).stack ≠ []
  simp [hclose, stack]

theorem LoopState.plain {s d : Cursor} {stack stack' : List (Char × Location)} {m : Scanner}
    {x : Char} {more : List Char} (h : LoopState s d stack) (hm : s.ScanAt d m) (hd : d.rest = x :: more)
    (hx : ¬(stack.map (·.1) = [] ∧ isStop x = true)) (hesc : x ≠ '\\') (hq : x ≠ '"' ∧ x ≠ '\'')
    (hslash : x = '/' → more.head? ≠ some '*')
    (hst : (afterPlain (stack.map (·.1)) x).stack = stack'.map (·.1))
    (hbottom : ∀ p ∈ stack'.getLast?, p ∈ stack.getLast?) : LoopState s d.bump stack' :=
  h.char hm hd hx hst (fun _ => hst ▸ between_afterPlain hesc hq hslash) hbottom

/-- An opening bracket goes on the stack; met with no bracket open, it is the outermost one. -/
theorem LoopState.push {s d : Cursor} {stack : List (Char × Location)} {m : Scanner} {x close : Char}
    {more : List Char} (h : LoopState s d stack) (hm : s.ScanAt d m) (hd : d.rest = x :: more)
    (hx : x = '(' ∧ close = ')' ∨ x = '[' ∧ close = ']') :
    LoopState s d.bump ((close, d.here) :: stack) := by
  have hopen : x = '(' ∨ x = '[' := hx.imp And.left And.left
  have hafter : ∀ st, afterPlain st x = .plain (close :: st) := by
    rcases hx with ⟨rfl, rfl⟩ | ⟨rfl, rfl⟩ <;> simp [afterPlain]
  by_cases hemp : stack = []
  · subst hemp
    exact h.outermost_bracket hm hd hopen (hafter [])
  · refine h.char hm hd (by rcases hopen with rfl | rfl <;> simp [isStop]) (by rw [hafter]; rfl)
      (fun _ => by rw [hafter]; exact .inl rfl) fun p hp => ?_
    rwa [List.getLast?_cons_of_ne_nil hemp] at hp

theorem LoopState.pop {s d : Cursor} {stack stack' : List (Char × Location)} {m : Scanner} {x : Char}
    {more : List Char} (h : LoopState s d stack) (hm : s.ScanAt d m) (hd : d.rest = x :: more)
    (hc : x = ')' ∨ x = ']') (hst : Scanner.close (stack.map (·.1)) x = stack'.map (·.1))
    (hbottom : ∀ p ∈ stack'.getLast?, p ∈ stack.getLast?) : LoopState s d.bump stack' := by
  have hafter : afterPlain (stack.map (·.1)) x = .plain (stack'.map (·.1)) := by
    rw [afterPlain_close hc, hst]
  exact h.char hm hd (by rcases hc with rfl | rfl <;> simp [isStop]) (by rw [hafter]; rfl)
    (fun _ => by rw [hafter]; exact .inl rfl) hbottom

theorem LoopState.escape {s d : Cursor} {stack : List (Char × Location)} {m : Scanner}
    {more : List Char} (h : LoopState s d stack) (hm : s.ScanAt d m) (hd : d.rest = '\\' :: more) :
    LoopState s d.bump.bump stack := by
  have hstep : m.step '\\' = some (.escape (stack.map (·.1))) := by
    rw [(h.between hm hd).step_eq (by simp [isStop])]
    rfl
  have hst : m.stack = stack.map (·.1) := (h.between hm hd).stack
  rcases more with _ | ⟨z, more⟩
  · have hend : d.bump.bump.rest = [] := by simp [rest_bump, hd]
    have hfeed : m.feed ['\\'] = some (.escape (stack.map (·.1))) := by simp [hstep]
    exact h.keep hm d.follows_bump.bump (by simp [hd, hend]) hfeed ⟨hst, _, hstep, rfl⟩ rfl
      (fun hne => absurd hend hne)
  · have hnext : d.bump.bump.rest = more := by simp [rest_bump, hd]
    have hfeed : m.feed ['\\', z] = some (.plain (stack.map (·.1))) := by
      rw [feed_cons, hstep, Option.bind_some, feed_cons]
      rfl
    exact h.keep hm d.follows_bump.bump (by rw [hd, hnext]; rfl) hfeed
      ⟨hst, _, hstep, rfl, _, rfl, rfl⟩ rfl (fun _ => .inl rfl)

theorem LoopState.string {s d e : Cursor} {stack : List (Char × Location)} {m : Scanner} {x : Char}
    {more : List Char} (h : LoopState s d stack) (hm : s.ScanAt d m) (hd : d.rest = x :: more)
    (hx : x = '"' ∨ x = '\'') (he : skipString d = .ok e) : LoopState s e stack := by
  have hq : x ≠ '\\' := by rcases hx with rfl | rfl <;> decide
  have hstep : m.step x = some (.quoted x (stack.map (·.1))) := by
    rw [(h.between hm hd).step_eq (by rcases hx with rfl | rfl <;> simp [isStop]), afterPlain_quote hx]
  have hnext : d.bump.rest = more := by simp [rest_bump, hd]
  rw [skipString_cons hd] at he
  obtain ⟨S, hS, hthr, hfeed⟩ := (skipString_go_machine d hq (stack.map (·.1)) _ d.bump
    (by simp [hnext])).1 e he
  refine h.keep hm ((skipString_spec d).1 e (by rw [skipString_cons hd]; exact he)) (C := x :: S)
    (by rw [hd, ← hnext, hS]; rfl) (by simp [hstep, hfeed]) ⟨(h.between hm hd).stack, _, hstep, hthr⟩ rfl
    (fun _ => .inl rfl)

theorem LoopState.comment {s d e : Cursor} {stack : List (Char × Location)} {m : Scanner}
    {more : List Char} (h : LoopState s d stack) (hm : s.ScanAt d m) (hd : d.rest = '/' :: '*' :: more)
    (he : skipComment d = .ok e) : LoopState s e stack := by
  have hslash : m.step '/' = some (.slash (stack.map (·.1))) := by
    rw [(h.between hm hd).step_eq (by simp [isStop])]
    rfl
  have hstar : (Scanner.slash (stack.map (·.1))).step '*' = some (.comment (stack.map (·.1))) := rfl
  have hfollows := (skipComment_spec d).1 e he
  rw [skipComment_cons hd] at he
  obtain ⟨X, rest', hX, hno, rfl⟩ := skipComment_go_spec d _ _ _ he
  have hmore : more = X ++ '*' :: '/' :: rest' := by simpa [rest_bump, hd] using hX
  have hend : (bump^[X.length + 2] d.bump.bump).rest = rest' := by
    rw [rest_iterate_bump, hX]
    simp
  refine h.keep hm hfollows (C := '/' :: '*' :: (X ++ ['*', '/']))
    (by rw [hd, hend, hmore]; simp) ?_ ⟨(h.between hm hd).stack, _, hslash, rfl, _, hstar,
      throughout_inComment hno (.inl rfl)⟩ rfl (fun _ => .inl rfl)
  rw [feed_cons, hslash, Option.bind_some, feed_cons, hstar, Option.bind_some]
  exact feed_inComment hno (.inl rfl)

theorem skipComment_error {c : Cursor} {body : List Char} (hc : c.rest = '/' :: '*' :: body)
    {e : ParseError} (h : skipComment c = .error e) :
    e = ⟨.unclosedComment, c.here⟩ ∧ ¬ ['*', '/'] <:+: body := by
  unfold skipComment at h
  suffices ∀ n (d : Cursor), d.rest.length < n → skipComment.go c n d = .error e →
      e = ⟨.unclosedComment, c.here⟩ ∧ ¬ ['*', '/'] <:+: d.rest by
    have hd : c.bump.bump.rest = body := by simp [rest_bump, hc]
    rw [← hd]
    exact this _ _ (by simp [hd, hc]) h
  intro n
  induction n with
  | zero => intro d hd; omega
  | succ n ih =>
    intro d hd h
    rw [skipComment.go] at h
    split at h
    · cases h
    · next hstart =>
      split at h
      · next hnil =>
        cases h
        exact ⟨rfl, by simp [hnil]⟩
      · next y ys hrest =>
        have hlen : d.bump.rest.length < n := by
          have := length_bump_cons hrest
          omega
        obtain ⟨he, hinf⟩ := ih d.bump hlen h
        refine ⟨he, fun hin => ?_⟩
        rw [hrest] at hin
        rcases List.infix_cons_iff.mp hin with hpre | hin'
        · rw [List.cons_prefix_cons] at hpre
          obtain ⟨rfl, hslash⟩ := hpre
          cases ys with
          | nil => simp at hslash
          | cons z zs =>
            obtain ⟨rfl, -⟩ := List.cons_prefix_cons.mp hslash
            simp [startsWith2, hrest] at hstart
        · rw [rest_bump, hrest] at hinf
          exact hinf hin'

theorem skipString_error {c : Cursor} {e : ParseError} (h : skipString c = .error e) :
    e = ⟨.unclosedString, c.here⟩ := by
  unfold skipString at h
  split at h
  · cases h
  · next q _ =>
    suffices ∀ n d, skipString.go c q n d = .error e → e = ⟨.unclosedString, c.here⟩ from this _ _ h
    intro n
    induction n with
    | zero =>
      intro d h
      simp only [skipString.go, Except.error.injEq] at h
      exact h.symm
    | succ n ih =>
      intro d h
      simp only [skipString.go] at h
      split at h
      · simp only [Except.error.injEq] at h
        exact h.symm
      · split at h
        · exact ih _ h
        · split at h
          · cases h
          · exact ih _ h

/-- At the end of the text, the outermost bracket still on the stack is left open. -/
theorem LoopState.bracket_open {s d : Cursor} {stack : List (Char × Location)} {close : Char}
    {open_ : Location} (h : LoopState s d stack) (hnil : d.rest = [])
    (hlast : stack.getLast? = some (close, open_)) : ∃ q, open_ = q.here ∧ LeftOpen s q .unclosedBracket := by
  obtain ⟨o, m₀, x, A, hloc, ho, hbo, hrest, hx, hA⟩ := h.outermost _ hlast
  rw [hnil, List.append_nil] at hrest
  exact ⟨o, hloc, .bracket ho hbo hrest hx hA⟩

theorem LoopState.string_open {s d : Cursor} {stack : List (Char × Location)} {m : Scanner} {x : Char}
    {more : List Char} (h : LoopState s d stack) (hm : s.ScanAt d m) (hd : d.rest = x :: more)
    (hx : x = '"' ∨ x = '\'') {err : ParseError} (herr : skipString d = .error err) :
    ∃ q, err.location = q.here ∧ LeftOpen s q err.problem := by
  rw [skipString_error herr]
  have hq : x ≠ '\\' := by rcases hx with rfl | rfl <;> decide
  rw [skipString_cons hd] at herr
  have hin := (skipString_go_machine d hq (stack.map (·.1)) _ d.bump (by simp [rest_bump, hd])).2 _ herr
  rw [rest_bump, hd] at hin
  exact ⟨d, rfl, .string hm (hd ▸ h.between hm hd) hd hx hin⟩

theorem LoopState.comment_open {s d : Cursor} {stack : List (Char × Location)} {m : Scanner}
    {body : List Char} (h : LoopState s d stack) (hm : s.ScanAt d m) (hd : d.rest = '/' :: '*' :: body)
    {err : ParseError} (herr : skipComment d = .error err) :
    ∃ q, err.location = q.here ∧ LeftOpen s q err.problem := by
  obtain ⟨rfl, hno⟩ := skipComment_error hd herr
  exact ⟨d, rfl, .comment hm (hd ▸ h.between hm hd) hd hno⟩

/-- A scan fails only at what it leaves open at the end of the text: a string, a comment, or the
outermost bracket. -/
theorem scanUntil_go_leftOpen (s : Cursor) {e : ParseError} :
    ∀ n d stack, LoopState s d stack → scanUntil.go n d stack = .error e →
      ∃ q, e.location = q.here ∧ LeftOpen s q e.problem := by
  intro n
  induction n with
  | zero => intro d stack _ h; simp [scanUntil.go] at h
  | succ n ih =>
    intro d stack hs h
    obtain ⟨m, hm, -, -⟩ := hs.scanned
    unfold scanUntil.go at h
    split at h
    · next hnil =>
      split at h
      · next close open_ hlast =>
        cases h
        exact hs.bracket_open hnil hlast
      · cases h
    · next x more hrest =>
      split at h
      · cases h
      · next hstop =>
        have hnot : ¬(stack.map (·.1) = [] ∧ isStop x = true) := by
          simpa [List.isEmpty_iff] using hstop
        split at h
        · next hesc =>
          subst hesc
          exact ih _ _ (hs.escape hm hrest) h
        · next hesc =>
          split at h
          · next hq =>
            have hq' : x = '"' ∨ x = '\'' := by simpa using hq
            split at h
            · next e' he' => exact ih _ _ (hs.string hm hrest hq' he') h
            · next err herr =>
              cases h
              exact hs.string_open hm hrest hq' herr
          · split at h
            · next hcm =>
              obtain ⟨body, hbody⟩ := rest_of_startsWith2 (Bool.and_eq_true_iff.mp hcm).2
              split at h
              · next e' he' => exact ih _ _ (hs.comment hm hbody he') h
              · next err herr =>
                cases h
                exact hs.comment_open hm hbody herr
            · next hq hcm =>
              split at h
              · next hx =>
                subst hx
                exact ih _ _ (hs.push hm hrest (.inl ⟨rfl, rfl⟩)) h
              · split at h
                · next hx =>
                  subst hx
                  exact ih _ _ (hs.push hm hrest (.inr ⟨rfl, rfl⟩)) h
                · next hopen hopen' =>
                  split at h
                  · next hclose =>
                    have hc : x = ')' ∨ x = ']' := by simpa using hclose
                    split at h
                    · next c l rest =>
                      split at h
                      · next hcx =>
                        exact ih _ _ (hs.pop hm hrest hc (by simp [Scanner.close, hcx])
                          fun p hp => List.mem_getLast?_cons hp) h
                      · next hcx =>
                        exact ih _ _ (hs.pop hm hrest hc (by simp [Scanner.close, hcx]) fun p hp => hp) h
                    · exact ih _ _ (hs.pop hm hrest hc rfl fun p hp => hp) h
                  · next hclose =>
                    have hc : x ≠ ')' ∧ x ≠ ']' := by simpa using hclose
                    have hslash : x = '/' → more.head? ≠ some '*' := by
                      rintro rfl hstar
                      apply hcm
                      cases more with
                      | nil => simp at hstar
                      | cons y ys => simp_all [startsWith2]
                    exact ih _ _ (hs.plain hm hrest hnot hesc (by simpa using hq) hslash
                      (stack_afterPlain_of_ne hopen hopen' hc.1 hc.2) fun p hp => hp) h

theorem scanUntil_leftOpen {s : Cursor} {e : ParseError} (h : scanUntil s = .error e) :
    ∃ q, e.location = q.here ∧ LeftOpen s q e.problem :=
  scanUntil_go_leftOpen s _ s [] (loopState_start s) h

/-! ## The reader's walk -/

/-- A statement starts at `t`: a character that neither closes a block nor is a lone `;`, and
does not start a comment; after an `@` comes a name. -/
def Statement (t : Cursor) : Prop :=
  ∃ x r, t.rest = x :: r ∧ x ≠ '}' ∧ x ≠ ';' ∧ t.startsWith2 '/' '*' = false ∧
    (x = '@' → ∃ y ∈ r.head?, isNameChar y = true)

/-- Where the scan of the statement at `t` starts: after the name of an at-rule, and at `t` for
any other statement. -/
def Cursor.scanStart (t : Cursor) : Cursor :=
  if t.peek = some '@' then
    (List.range (t.bump.rest.takeWhile isNameChar).length).foldl (fun d _ => d.bump) t.bump
  else t

theorem Cursor.follows_scanStart (t : Cursor) : t.Follows t.scanStart := by
  unfold scanStart
  split
  · exact t.follows_bump.trans (follows_foldl_bump _ t.bump)
  · exact .refl t

/-- The places where the reader of `text` takes up one of its loops, with the `{` of every block
it is inside, innermost first. -/
inductive Reaches (text : String) : List Cursor → Cursor → Prop
  | start : Reaches text [] (Cursor.start text)
  | semicolon {bs : List Cursor} {c : Cursor} {r : List Char} : Reaches text bs c →
      c.skipBlank.rest = ';' :: r → Reaches text bs c.skipBlank.bump
  | comment {bs : List Cursor} {c d : Cursor} : Reaches text bs c →
      c.skipBlank.startsWith2 '/' '*' = true → skipComment c.skipBlank = .ok d → Reaches text bs d
  | opens {bs : List Cursor} {c o : Cursor} : Reaches text bs c → Statement c.skipBlank →
      scanUntil c.skipBlank.scanStart = .ok (some '{', o) → Reaches text (o :: bs) o.bump
  | ends {bs : List Cursor} {c d : Cursor} {stop : Option Char} : Reaches text bs c →
      Statement c.skipBlank → scanUntil c.skipBlank.scanStart = .ok (stop, d) → stop ≠ some '{' →
      (c.skipBlank.peek = some '@' ∨ (bs ≠ [] ∧ (splitDeclaration (textTo c.skipBlank d)).isSome)) →
      Reaches text bs (if stop = some ';' then d.bump else d)
  | closes {o : Cursor} {bs : List Cursor} {c : Cursor} {r : List Char} : Reaches text (o :: bs) c →
      c.skipBlank.rest = '}' :: r → Reaches text bs c.skipBlank.bump

/-- How the reader fails at the statement that starts at `t`, inside the blocks opened at `bs`,
and the error it reports there. -/
inductive Stuck : List Cursor → Cursor → ParseError → Prop
  | strayClose {t : Cursor} {r : List Char} : t.rest = '}' :: r → Stuck [] t ⟨.unexpectedClose, t.here⟩
  | blockOpen {o : Cursor} {bs : List Cursor} {t : Cursor} : t.rest = [] →
      Stuck (o :: bs) t ⟨.unclosedBlock, o.here⟩
  | noName {bs : List Cursor} {t : Cursor} {after : List Char} : t.rest = '@' :: after →
      (∀ y ∈ after.head?, isNameChar y = false) → Stuck bs t ⟨.atRuleWithoutName, t.here⟩
  | unknownWord {bs : List Cursor} {t d : Cursor} {stop : Option Char} : Statement t →
      t.peek ≠ some '@' → scanUntil t = .ok (stop, d) → stop ≠ some '{' →
      (bs = [] ∨ splitDeclaration (textTo t d) = none) → Stuck bs t ⟨.unknownWord, t.here⟩
  | commentOpen {bs : List Cursor} {t : Cursor} {body : List Char} : t.rest = '/' :: '*' :: body →
      ¬ ['*', '/'] <:+: body → Stuck bs t ⟨.unclosedComment, t.here⟩
  | scanOpen {bs : List Cursor} {t q : Cursor} {p : ParseProblem} : Statement t →
      LeftOpen t.scanStart q p → Stuck bs t ⟨p, q.here⟩

def Arises (text : String) (e : ParseError) : Prop :=
  ∃ bs c, Reaches text bs c ∧ Stuck bs c.skipBlank e

/-- A reader's result inside the blocks `bs`: a value read up to a place the walk reaches inside
the same blocks, or an error at a place where the walk is stuck. -/
def WalkResult {α : Type} (text : String) (bs : List Cursor) : Step α → Prop
  | .ok (_, d) => Reaches text bs d
  | .error e => Arises text e

theorem WalkResult.of_error {α : Type} {text : String} {bs : List Cursor} {r : Step α} {e : ParseError}
    (hw : WalkResult text bs r) (he : r = .error e) : Arises text e := by
  subst he
  exact hw

theorem WalkResult.of_ok {α : Type} {text : String} {bs : List Cursor} {r : Step α} {a : α} {d : Cursor}
    (hw : WalkResult text bs r) (he : r = .ok (a, d)) : Reaches text bs d := by
  subst he
  exact hw

theorem Cursor.scanStart_of_ne {t : Cursor} (h : t.peek ≠ some '@') : t.scanStart = t := by
  simp [scanStart, h]

theorem statement_of_head {t : Cursor} {x : Char} {r : List Char} (ht : t.rest = x :: r)
    (hclose : x ≠ '}') (hsemi : x ≠ ';') (hat : x ≠ '@') (hcm : t.startsWith2 '/' '*' = false) :
    Statement t :=
  ⟨x, r, ht, hclose, hsemi, hcm, fun h => absurd h hat⟩

section Walk

variable (text source : String)

def AtRulesWalk (f : Nat) : Prop :=
  ∀ (bs : List Cursor) (c : Cursor) (r : List Char), Reaches text bs c →
    c.skipBlank.rest = '@' :: r → 3 * c.skipBlank.rest.length ≤ f →
    WalkResult text bs (readAtRule source f c.skipBlank)

def BlocksWalk (f : Nat) : Prop :=
  ∀ (bs : List Cursor) (o : Cursor) (r : List Char), Reaches text (o :: bs) o.bump →
    o.rest = '{' :: r → 3 * o.rest.length ≤ f + 1 → WalkResult text bs (readBlock source f o)

def EntriesWalk (f : Nat) : Prop :=
  ∀ (o : Cursor) (bs : List Cursor) (c : Cursor) (acc : List Item), Reaches text (o :: bs) c →
    3 * c.rest.length + 1 ≤ f → WalkResult text bs (readItems source f o.here c acc)

def ItemsWalk (f : Nat) : Prop :=
  ∀ (bs : List Cursor) (c : Cursor), Reaches text bs c → bs ≠ [] → Statement c.skipBlank →
    c.skipBlank.peek ≠ some '@' → 3 * c.skipBlank.rest.length ≤ f →
    WalkResult text bs (readItem source f c.skipBlank)

def RulesWalk (f : Nat) : Prop :=
  ∀ (c : Cursor) (x : Char) (r : List Char), Reaches text [] c → c.skipBlank.rest = x :: r →
    x ≠ '}' → x ≠ ';' → 3 * c.skipBlank.rest.length + 1 ≤ f →
    WalkResult text [] (readRule source f c.skipBlank)

theorem walk_block {f : Nat} (hbl : BlocksWalk text source f) {bs : List Cursor} {c d : Cursor}
    (hc : Reaches text bs c) (hst : Statement c.skipBlank)
    (hd : scanUntil c.skipBlank.scanStart = .ok (some '{', d))
    (hf : 3 * c.skipBlank.rest.length ≤ f + 1) : WalkResult text bs (readBlock source f d) := by
  obtain ⟨r, hr⟩ := rest_of_scanUntil hd
  have hle := (c.skipBlank.follows_scanStart.trans ((scanUntil_spec _).follows_of_ok hd)).length_le
  exact hbl bs d r (.opens hc hst hd) hr (by omega)

theorem arises_of_scan {bs : List Cursor} {c : Cursor} (hc : Reaches text bs c)
    (hst : Statement c.skipBlank) {e : ParseError} (he : scanUntil c.skipBlank.scanStart = .error e) :
    Arises text e := by
  obtain ⟨q, hloc, hopen⟩ := scanUntil_leftOpen he
  obtain ⟨p, l⟩ := e
  dsimp only at hloc hopen
  subst hloc
  exact ⟨bs, c, hc, .scanOpen hst hopen⟩

theorem BlocksWalk.succ {f : Nat} (hit : EntriesWalk text source f) : BlocksWalk text source (f + 1) := by
  intro bs o r ho hr hf
  have hlen := length_bump_cons hr
  rw [readBlock]
  exact hit o bs o.bump [] ho (by omega)

theorem AtRulesWalk.succ {f : Nat} (hbl : BlocksWalk text source f) : AtRulesWalk text source (f + 1) := by
  intro bs c r hc hat hf
  have hpeek : c.skipBlank.peek = some '@' := by simp [peek, hat]
  have hname : c.skipBlank.bump.rest = r := by simp [rest_bump, hat]
  rw [readAtRule]
  dsimp only
  split
  · next hzero =>
    refine ⟨bs, c, hc, .noName hat fun y hy => ?_⟩
    rw [hname, List.length_eq_zero_iff] at hzero
    cases r with
    | nil => simp at hy
    | cons z zs =>
      obtain rfl : z = y := by simpa using hy
      by_contra hy'
      simp [List.takeWhile_cons, hy'] at hzero
  · next hzero =>
    have hst : Statement c.skipBlank := by
      refine ⟨'@', r, hat, by decide, by decide, startsWith2_of_ne hat (by decide), fun _ => ?_⟩
      rw [hname] at hzero
      cases r with
      | nil => simp at hzero
      | cons z zs =>
        refine ⟨z, rfl, ?_⟩
        by_contra hz
        simp [hz] at hzero
    have hstart : c.skipBlank.scanStart = (List.range (c.skipBlank.bump.rest.takeWhile isNameChar).length).foldl
        (fun d _ => d.bump) c.skipBlank.bump := by simp [scanStart, hpeek]
    split
    · next e he =>
      rw [← hstart] at he
      exact arises_of_scan text hc hst he
    · next stop d hd =>
      rw [← hstart] at hd
      split
      · have hw := walk_block text source hbl hc hst hd hf
        split
        · next e he => exact hw.of_error he
        · next body e he => exact hw.of_ok he
      · have h' := Reaches.ends hc hst hd (by simp) (.inl hpeek)
        rwa [if_pos rfl] at h'
      · next h1 h2 =>
        have h' := Reaches.ends hc hst hd (by simpa using h1) (.inl hpeek)
        rwa [if_neg (by simpa using h2)] at h'

theorem walk_comment {bs : List Cursor} {c : Cursor} {body : List Char} (hc : Reaches text bs c)
    (hbody : c.skipBlank.rest = '/' :: '*' :: body) :
    WalkResult text bs (readComment source c.skipBlank) := by
  unfold readComment
  split
  · next e he =>
    obtain ⟨rfl, hno⟩ := skipComment_error hbody he
    exact ⟨bs, c, hc, .commentOpen hbody hno⟩
  · next d hd => exact Reaches.comment hc (by simp [startsWith2, hbody]) hd

theorem ItemsWalk.succ {f : Nat} (hbl : BlocksWalk text source f) : ItemsWalk text source (f + 1) := by
  intro bs c hc hne hst hpeek hf
  have hstart := c.skipBlank.scanStart_of_ne hpeek
  rw [readItem]
  split
  · next e he =>
    rw [← hstart] at he
    exact arises_of_scan text hc hst he
  · next stop d hd =>
    dsimp only
    split
    · next hstop =>
      subst hstop
      have hw := walk_block text source hbl hc hst (hstart.symm ▸ hd) (by omega)
      split
      · next e he => exact hw.of_error he
      · next body e he => exact hw.of_ok he
    · next hstop =>
      split
      · next p v hsplit =>
        exact Reaches.ends hc hst (hstart.symm ▸ hd) hstop (.inr ⟨hne, by simp [hsplit]⟩)
      · next hsplit => exact ⟨bs, c, hc, .unknownWord hst hpeek hd hstop (.inr hsplit)⟩

theorem EntriesWalk.succ {f : Nat} (hat : AtRulesWalk text source f) (hitem : ItemsWalk text source f)
    (hit : EntriesWalk text source f) : EntriesWalk text source (f + 1) := by
  intro o bs c acc hc hf
  have hsk := length_skipBlank_le c
  have hnext : ∀ {β : Type} (i : Item) {r : Step β} {b : β} {d : Cursor},
      WalkResult text (o :: bs) r → Advances c.skipBlank r → r = .ok (b, d) →
      WalkResult text bs (readItems source f o.here d (i :: acc)) := by
    intro β i r b d hw hr hd
    have hdl := (hr b d hd).2
    exact hit o bs d _ (hw.of_ok hd) (by omega)
  cases hsb : c.skipBlank.rest with
  | nil =>
    rw [readItems]
    simp only [hsb]
    exact ⟨o :: bs, c, hc, .blockOpen hsb⟩
  | cons x rest =>
    have hblen := length_bump_cons hsb
    by_cases hclose : x = '}'
    · subst hclose
      rw [readItems_close source hsb]
      exact Reaches.closes hc hsb
    by_cases hsemi : x = ';'
    · subst hsemi
      rw [readItems_semicolon source hsb]
      exact hit o bs _ acc (.semicolon hc hsb) (by omega)
    by_cases hatc : x = '@'
    · subst hatc
      rw [readItems_at source hsb]
      have hw := hat (o :: bs) c rest hc hsb (by omega)
      split
      · next e he => exact hw.of_error he
      · next r d hd => exact hnext (.rule r) hw ((readers_advance source f).1 _ rest hsb) hd
    by_cases hcm : c.skipBlank.startsWith2 '/' '*' = true
    · obtain ⟨more, hmore⟩ := rest_of_startsWith2 hcm
      rw [readItems_comment source hmore]
      have hw := walk_comment text source hc hmore
      split
      · next e he => exact hw.of_error he
      · next r d hd => exact hnext (.rule r) hw (readComment_advances source hmore) hd
    · have hcm' : c.skipBlank.startsWith2 '/' '*' = false := by simpa using hcm
      rw [readItems_plain source hsb hclose hsemi hatc hcm']
      have hw := hitem (o :: bs) c hc (List.cons_ne_nil _ _)
        (statement_of_head hsb hclose hsemi hatc hcm') (by simp [peek, hsb, hatc]) (by omega)
      split
      · next e he => exact hw.of_error he
      · next i d hd => exact hnext i hw ((readers_advance source f).2.2.2.1 _) hd

theorem RulesWalk.succ {f : Nat} (hat : AtRulesWalk text source f) (hbl : BlocksWalk text source f) :
    RulesWalk text source (f + 1) := by
  intro c x r hc hcr hclose hsemi hf
  rw [readRule]
  split
  · next hcm =>
    obtain ⟨more, hmore⟩ := rest_of_startsWith2 hcm
    exact walk_comment text source hc hmore
  · next hcm =>
    split
    · next hpeek =>
      obtain rfl : x = '@' := by simpa [peek, hcr] using hpeek
      exact hat [] c r hc hcr (by omega)
    · next hpeek =>
      have hst := statement_of_head hcr hclose hsemi (fun h => hpeek (by simp [peek, hcr, h]))
        (by simpa using hcm)
      have hstart := c.skipBlank.scanStart_of_ne hpeek
      dsimp only
      split
      · next e he =>
        rw [← hstart] at he
        exact arises_of_scan text hc hst he
      · next d hd =>
        have hw := walk_block text source hbl hc hst (hstart.symm ▸ hd) (by omega)
        split
        · next e he => exact hw.of_error he
        · next body e he => exact hw.of_ok he
      · next y hne hd =>
        obtain ⟨stop, d⟩ := y
        have hstop : stop ≠ some '{' := by
          rintro rfl
          exact hne d rfl
        exact ⟨[], c, hc, .unknownWord hst hpeek hd hstop (.inl rfl)⟩

/-- With three units of fuel per character left, every reader reads up to a place of the walk, or
fails where the walk is stuck: the fuel never runs out. -/
theorem readers_walk (f : Nat) :
    AtRulesWalk text source f ∧ BlocksWalk text source f ∧ EntriesWalk text source f ∧
      ItemsWalk text source f ∧ RulesWalk text source f := by
  induction f with
  | zero =>
    refine ⟨fun bs c r _ hc hf => ?_, fun bs o r _ hr hf => ?_, fun o bs c acc _ hf => by omega,
      fun bs c _ _ hst _ hf => ?_, fun c x r _ hc _ _ hf => ?_⟩
    · simp only [hc, List.length_cons] at hf
      omega
    · simp only [hr, List.length_cons] at hf
      omega
    · obtain ⟨x, r, hr, -⟩ := hst
      simp only [hr, List.length_cons] at hf
      omega
    · simp only [hc, List.length_cons] at hf
      omega
  | succ f ih =>
    obtain ⟨hat, hbl, hit, hitem, -⟩ := ih
    exact ⟨AtRulesWalk.succ text source hbl, BlocksWalk.succ text source hit,
      EntriesWalk.succ text source hat hitem hit, ItemsWalk.succ text source hbl,
      RulesWalk.succ text source hat hbl⟩

end Walk

/-- The top-level loop, with two units of fuel more than three per character left, fails only
where the walk is stuck. -/
theorem readRules_walk (text source : String) (f : Nat) :
    ∀ c acc e, Reaches text [] c → 3 * c.rest.length + 2 ≤ f → readRules source f c acc = .error e →
      Arises text e := by
  induction f with
  | zero => intro c acc e _ hf; omega
  | succ f ih =>
    intro c acc e hc hf h
    have hsk := length_skipBlank_le c
    rw [readRules] at h
    cases hsb : c.skipBlank.rest with
    | nil => simp [hsb] at h
    | cons x rest =>
      have hblen := length_bump_cons hsb
      simp only [hsb] at h
      split_ifs at h with hclose hsemi
      · cases h
        exact ⟨[], c, hc, .strayClose (hclose ▸ hsb)⟩
      · exact ih _ acc e (.semicolon hc (hsemi ▸ hsb)) (by omega) h
      · have hw := (readers_walk text source f).2.2.2.2 c x rest hc hsb hclose hsemi (by omega)
        split at h
        · next e' he =>
          cases h
          exact hw.of_error he
        · next r d hd =>
          have hdl := ((readers_advance source f).2.2.2.2 c.skipBlank r d hd).2
          exact ih d _ e (hw.of_ok hd) (by omega) h

/-- Every place of the walk comes after the start of the text, and so does the `{` of every block
open there. -/
theorem Reaches.follows {text : String} {bs : List Cursor} {c : Cursor} (h : Reaches text bs c) :
    (Cursor.start text).Follows c ∧
      ∀ o ∈ bs, (Cursor.start text).Follows o ∧ o.rest.head? = some '{' := by
  induction h with
  | start => exact ⟨.refl _, by simp⟩
  | semicolon _ _ ih => exact ⟨(ih.1.trans (follows_skipBlank _)).bump, ih.2⟩
  | comment _ _ hd ih => exact ⟨ih.1.trans ((follows_skipBlank _).trans ((skipComment_spec _).1 _ hd)), ih.2⟩
  | opens _ _ hd ih =>
    have ho := ih.1.trans ((follows_skipBlank _).trans
      ((follows_scanStart _).trans ((scanUntil_spec _).follows_of_ok hd)))
    obtain ⟨r, hr⟩ := rest_of_scanUntil hd
    refine ⟨ho.bump, fun o' ho' => ?_⟩
    rcases List.mem_cons.mp ho' with rfl | ho'
    · exact ⟨ho, by simp [hr]⟩
    · exact ih.2 o' ho'
  | ends _ _ hd _ _ ih =>
    have hd' := ih.1.trans ((follows_skipBlank _).trans
      ((follows_scanStart _).trans ((scanUntil_spec _).follows_of_ok hd)))
    refine ⟨?_, ih.2⟩
    split
    · exact hd'.bump
    · exact hd'
  | closes _ _ ih =>
    exact ⟨(ih.1.trans (follows_skipBlank _)).bump, fun o ho => ih.2 o (List.mem_cons_of_mem _ ho)⟩

/-- Where the walk is stuck, the error's location is a place of the text that begins with the
construct its problem names. -/
theorem Arises.opens {text : String} {e : ParseError} (h : Arises text e) :
    ∃ d, (Cursor.start text).Follows d ∧ e.location = d.here ∧ e.problem.Opens d.rest := by
  obtain ⟨bs, c, hc, hs⟩ := h
  have hct := hc.follows.1.trans (follows_skipBlank c)
  cases hs with
  | strayClose ht => exact ⟨_, hct, rfl, by simp [ParseProblem.Opens, ht]⟩
  | blockOpen _ =>
    obtain ⟨ho, hbr⟩ := hc.follows.2 _ List.mem_cons_self
    exact ⟨_, ho, rfl, hbr⟩
  | noName ht hname => exact ⟨_, hct, rfl, _, ht, hname⟩
  | unknownWord hst _ _ _ _ =>
    obtain ⟨x, r, hx, -⟩ := hst
    exact ⟨_, hct, rfl, x, by simp [hx], isBlank_head_dropBlank (by rw [← rest_skipBlank, hx]; rfl)⟩
  | commentOpen ht hno => exact ⟨_, hct, rfl, _, ht, hno⟩
  | scanOpen _ hopen =>
    have hs := hct.trans (follows_scanStart _)
    cases hopen with
    | string hq _ hrest hx _ =>
      exact ⟨_, hs.trans hq.1, rfl, by rcases hx with rfl | rfl <;> simp [ParseProblem.Opens, hrest]⟩
    | comment hq _ hrest hno => exact ⟨_, hs.trans hq.1, rfl, _, hrest, hno⟩
    | bracket hq _ hrest hx _ =>
      exact ⟨_, hs.trans hq.1, rfl, by rcases hx with rfl | rfl <;> simp [ParseProblem.Opens, hrest]⟩

theorem ParseProblem.Opens.ne_nil {p : ParseProblem} {rest : List Char} (h : p.Opens rest) :
    rest ≠ [] := by
  rintro rfl
  cases p <;> simp [Opens] at h

/-- Every parse error is reported where the reader's walk through the text is stuck: at a `}`
with no block open, at the `{` of the innermost block open at the end of the text, at an `@` with
no name, at the first character of a statement that is neither a rule nor a declaration, at the
`/*` of a comment with no `*/` after it, or where the scan of a statement's head leaves a string,
a comment or its outermost bracket open up to the end. No other message occurs. The location is
a place of the text, before its end, where that construct begins. -/
theorem parse_error_opens {text filename : String} {e : ParseError} (h : parse text filename = .error e) :
    (∃ bs c, Reaches text bs c ∧ Stuck bs c.skipBlank e) ∧
      e.location.offset < text.utf8ByteSize ∧
      ∃ before rest, text.toList = before ++ rest ∧ byteLength before = e.location.offset ∧
        e.problem.Opens rest := by
  unfold parse at h
  dsimp only at h
  rcases hr : readRules filename (3 * (Cursor.start text).rest.length + 3) (Cursor.start text) [] with
    e' | rules <;> simp only [hr, Except.map] at h
  · cases h
    have harise := readRules_walk text filename _ _ _ _ .start (by omega) hr
    obtain ⟨d, hd, hloc, hop⟩ := harise.opens
    obtain ⟨pre, htext, hoff, -⟩ := Cursor.OnText.of_follows hd
    obtain ⟨x, more, hmore⟩ := List.exists_cons_of_ne_nil hop.ne_nil
    have hsize : text.utf8ByteSize = byteLength pre + byteLength d.rest := by
      rw [← byteLength_toList, htext, byteLength_append]
    have hat : e.location.offset = byteLength pre := by rw [hloc, ← hoff]; rfl
    refine ⟨harise, ?_, pre, d.rest, htext, hat.symm, hop⟩
    rw [hat, hsize, hmore, byteLength_cons]
    have := Char.utf8Size_pos x
    omega
  · cases h

/-- In `a{b{c:d}` the inner block is closed, so the error points at the `{` of the outer one, the
innermost block still open at the end. -/
theorem parse_error_opens_sample :
    parse "a\x7bb\x7bc:d\x7d" "a.css" = .error ⟨.unclosedBlock, ⟨1, 0, 1⟩⟩ ∧
      (∃ bs c, Reaches "a\x7bb\x7bc:d\x7d" bs c ∧ Stuck bs c.skipBlank ⟨.unclosedBlock, ⟨1, 0, 1⟩⟩) ∧
      1 < "a\x7bb\x7bc:d\x7d".utf8ByteSize ∧
      ∃ before rest, "a\x7bb\x7bc:d\x7d".toList = before ++ rest ∧ byteLength before = 1 ∧
        ParseProblem.unclosedBlock.Opens rest := by
  have h : parse "a\x7bb\x7bc:d\x7d" "a.css" = .error ⟨.unclosedBlock, ⟨1, 0, 1⟩⟩ := by
    cbv
  exact ⟨h, parse_error_opens h⟩

example : parse "a(b[c" "a.css" = .error ⟨.unclosedBracket, ⟨1, 0, 1⟩⟩ := by
  cbv

end CssBundle.Css
