import Mathlib
import CssBundle.Css.Reader

/-!
# The scanner, one character at a time

The reader finds the end of a selector, prelude or declaration with `scanUntil`, which steps
over a construct at a time: an escape, a quoted string, a comment, a bracket, or one character.
This module describes the same scan as a machine that reads one character at a time (`Scanner`):
between constructs (`plain`), just after a backslash (`escape`) or a slash (`slash`), inside a
quoted string or just after a backslash there, inside a comment or just after a star there.
Every state remembers the closing brackets still awaited. A stop character (`{`, `;`, `}`) read
between constructs with no bracket open ends the scan (`Scanner.step` gives `none`).

Feeding a text to the machine (`Scanner.feed`) composes over appending (`feed_append`), which is
what lets a proof cut a text where it likes: at a colon inside a string, before blanks that a
trim removed. `Scanner.scanEnd` says how a scan of a whole text ends: at a stop after `k`
characters, at the end of the text with nothing open (`settled`), or at the end with a string,
comment or bracket left open (`broken`).

Main statement: `scanUntil_matches`, the scanner's answer is the machine's, with the stop at the
same place. The rest restates it in the forms later proofs use: `scanUntil_of_feed` and
`feed_of_scanUntil` for scans that stop, `scanUntil_of_settled` and `settled_of_scanUntil` for
scans that reach the end.
-/

namespace CssBundle.Css

open Text

/-- Where a scan stands after a character; each state carries the closing brackets awaited,
innermost first. -/
inductive Scanner where
  | plain (stack : List Char)
  | escape (stack : List Char)
  | slash (stack : List Char)
  | quoted (quote : Char) (stack : List Char)
  | quotedEscape (quote : Char) (stack : List Char)
  | comment (stack : List Char)
  | commentStar (stack : List Char)
  deriving DecidableEq, Repr

namespace Scanner

/-- The awaited closers after a closing bracket: the innermost one is done if it matches, and a
bracket that matches nothing is an ordinary character. -/
def close (stack : List Char) (x : Char) : List Char :=
  match stack with
  | c :: rest => if c = x then rest else stack
  | [] => []

/-- What a character between constructs leads to, when it does not stop the scan. -/
def afterPlain (stack : List Char) (x : Char) : Scanner :=
  if x = '\\' then .escape stack
  else if x = '"' ∨ x = '\'' then .quoted x stack
  else if x = '/' then .slash stack
  else if x = '(' then .plain (')' :: stack)
  else if x = '[' then .plain (']' :: stack)
  else if x = ')' ∨ x = ']' then .plain (close stack x)
  else .plain stack

/-- A character between constructs: a stop ends the scan when no bracket is open. -/
def plainStep (stack : List Char) (x : Char) : Option Scanner :=
  if stack = [] ∧ isStop x = true then none else some (afterPlain stack x)

/-- One character of the scan; `none` when it is the stop the scan ends before. A slash
followed by a star opens a comment, and is an ordinary character otherwise. -/
def step : Scanner → Char → Option Scanner
  | .plain stack, x => plainStep stack x
  | .slash stack, x => if x = '*' then some (.comment stack) else plainStep stack x
  | .escape stack, _ => some (.plain stack)
  | .quoted q stack, x =>
    some (if x = '\\' then .quotedEscape q stack else if x = q then .plain stack else .quoted q stack)
  | .quotedEscape q stack, _ => some (.quoted q stack)
  | .comment stack, x => some (if x = '*' then .commentStar stack else .comment stack)
  | .commentStar stack, x =>
    some (if x = '/' then .plain stack else if x = '*' then .commentStar stack else .comment stack)

def feed : Scanner → List Char → Option Scanner
  | s, [] => some s
  | s, x :: xs => (s.step x).bind fun s' => feed s' xs

/-- Whether the end of the text may come in this state without an error: outside strings and
comments, with no bracket open. -/
def settled : Scanner → Bool
  | .plain [] | .escape [] | .slash [] => true
  | _ => false

/-- How a scan of a text ends. -/
inductive End where
  /-- before the stop character `x`, after `k` characters -/
  | stop (k : Nat) (x : Char)
  /-- at the end of the text, with nothing open -/
  | settled
  /-- at the end of the text, inside a string, comment or bracket -/
  | broken
  deriving DecidableEq, Repr

def End.shift (k : Nat) : End → End
  | .stop j x => .stop (j + k) x
  | e => e

def scanEnd : Scanner → List Char → End
  | s, [] => if s.settled then .settled else .broken
  | s, x :: xs =>
    match s.step x with
    | none => .stop 0 x
    | some s' => (scanEnd s' xs).shift 1

@[simp] theorem feed_nil (s : Scanner) : s.feed [] = some s := rfl

@[simp] theorem feed_cons (s : Scanner) (x : Char) (xs : List Char) :
    s.feed (x :: xs) = (s.step x).bind fun s' => s'.feed xs := rfl

theorem feed_append (s : Scanner) (xs ys : List Char) :
    s.feed (xs ++ ys) = (s.feed xs).bind fun s' => s'.feed ys := by
  induction xs generalizing s with
  | nil => rfl
  | cons x xs ih =>
    simp only [List.cons_append, feed_cons]
    cases s.step x with
    | none => rfl
    | some s' => exact ih s'

/-- A scan stops right after `T`, at `x`, exactly when the machine reads `T` without stopping
and then stops at `x`. -/
theorem scanEnd_append_stop (s : Scanner) (T : List Char) (x : Char) (rest : List Char) :
    s.scanEnd (T ++ x :: rest) = .stop T.length x ↔
      ∃ s', s.feed T = some s' ∧ s'.step x = none := by
  induction T generalizing s with
  | nil =>
    simp only [List.nil_append, scanEnd, List.length_nil, feed_nil, Option.some.injEq,
      exists_eq_left']
    cases s.step x with
    | none => simp
    | some s' => cases h : s'.scanEnd rest <;> simp [End.shift, h]
  | cons t T ih =>
    simp only [List.cons_append, scanEnd, List.length_cons, feed_cons]
    cases s.step t with
    | none => simp
    | some s' =>
      simp only [Option.bind_some]
      rw [← ih s']
      cases s'.scanEnd (T ++ x :: rest) <;> simp [End.shift]

/-- A scan reads the whole text exactly when the machine does, and then ends as its last state
says. -/
theorem scanEnd_of_feed {s s' : Scanner} {cs : List Char} (h : s.feed cs = some s') :
    s.scanEnd cs = if s'.settled then .settled else .broken := by
  induction cs generalizing s with
  | nil =>
    cases h
    rfl
  | cons x xs ih =>
    simp only [feed_cons] at h
    rcases hx : s.step x with _ | t
    · simp [hx] at h
    · simp only [hx, Option.bind_some] at h
      simp only [scanEnd, hx, ih h]
      cases s'.settled <;> rfl

/-- After a part the machine reads without stopping, the scan goes on from the state it
reaches. -/
theorem scanEnd_append_of_feed {s s' : Scanner} {xs : List Char} (h : s.feed xs = some s')
    (ys : List Char) : s.scanEnd (xs ++ ys) = (s'.scanEnd ys).shift xs.length := by
  induction xs generalizing s with
  | nil =>
    simp only [feed_nil, Option.some.injEq] at h
    subst h
    cases h : s.scanEnd ys <;> simp [End.shift, h]
  | cons x xs ih =>
    simp only [feed_cons] at h
    rcases hx : s.step x with _ | t
    · simp [hx] at h
    · simp only [hx, Option.bind_some] at h
      simp only [List.cons_append, scanEnd, hx, ih h, List.length_cons]
      cases s'.scanEnd ys <;> simp [End.shift, Nat.add_assoc]

theorem feed_cases (s : Scanner) (cs : List Char) :
    (∃ T x rest s', cs = T ++ x :: rest ∧ s.feed T = some s' ∧ s'.step x = none) ∨
      ∃ s', s.feed cs = some s' := by
  induction cs generalizing s with
  | nil => exact .inr ⟨s, rfl⟩
  | cons x xs ih =>
    rcases hx : s.step x with _ | t
    · exact .inl ⟨[], x, xs, s, rfl, rfl, hx⟩
    · rcases ih t with ⟨T, y, rest, s', rfl, hT, hy⟩ | ⟨s', hs'⟩
      · exact .inl ⟨x :: T, y, rest, s', rfl, by simp [hx, hT], hy⟩
      · exact .inr ⟨s', by simp [hx, hs']⟩

end Scanner

/-! ## The scanner follows the machine -/

namespace Cursor

theorem rest_bump (c : Cursor) : c.bump.rest = c.rest.tail := by
  unfold bump
  split
  · next h => simp [h]
  · next x xs h =>
    rw [h]
    split <;> rfl

theorem rest_iterate_bump (c : Cursor) (k : Nat) : (bump^[k] c).rest = c.rest.drop k := by
  induction k generalizing c with
  | zero => rfl
  | succ k ih => rw [Function.iterate_succ_apply, ih, rest_bump, List.drop_tail]

theorem bump_of_rest_nil {c : Cursor} (h : c.rest = []) : c.bump = c := by
  unfold bump
  rw [h]

theorem rest_of_startsWith2 {c : Cursor} {a b : Char} (h : c.startsWith2 a b = true) :
    ∃ more, c.rest = a :: b :: more := by
  unfold startsWith2 at h
  split at h
  · next x y tail hrest =>
    simp only [Bool.and_eq_true, beq_iff_eq] at h
    exact ⟨tail, by rw [hrest, h.1, h.2]⟩
  · cases h

end Cursor

namespace Scanner

open Cursor in
/-- A scanner answer, started at `c`, agrees with how the machine's scan ends: the same stop at
the same place, the end of the text, or an error. -/
def End.Matches (e : End) (c : Cursor) (r : Except ParseError (Option Char × Cursor)) : Prop :=
  match e with
  | .stop k x => r = .ok (some x, bump^[k] c)
  | .settled => r = .ok (none, bump^[c.rest.length] c)
  | .broken => ∃ err, r = .error err

open Cursor in
theorem End.Matches.shift {e : End} {k : Nat} {c : Cursor} {r : Except ParseError (Option Char × Cursor)}
    (hk : k ≤ c.rest.length) (h : e.Matches (bump^[k] c) r) : (e.shift k).Matches c r := by
  cases e with
  | stop j x =>
    simp only [End.Matches, End.shift] at h ⊢
    rw [h, Function.iterate_add_apply]
  | settled =>
    simp only [End.Matches, End.shift, rest_iterate_bump, List.length_drop] at h ⊢
    rw [h, ← Function.iterate_add_apply, Nat.sub_add_cancel hk]
  | broken => exact h

/-- The machine is between constructs with these brackets open, as the scanner is at a text;
just after a slash, that text does not go on with a star. -/
def Between (s : Scanner) (stack : List Char) (rest : List Char) : Prop :=
  s = .plain stack ∨ (s = .slash stack ∧ rest.head? ≠ some '*')

theorem Between.step {s : Scanner} {stack : List Char} {y : Char} {more : List Char}
    (h : Between s stack (y :: more)) : s.step y = plainStep stack y := by
  rcases h with rfl | ⟨rfl, hy⟩
  · rfl
  · have hy' : y ≠ '*' := fun e => hy (by simp [e])
    show (if y = '*' then _ else _) = _
    rw [if_neg hy']

theorem End.shift_shift (e : End) (j k : Nat) : (e.shift j).shift k = e.shift (j + k) := by
  cases e <;> simp [End.shift, Nat.add_assoc]

theorem scanEnd_cons_of_step {s s' : Scanner} {y : Char} (h : s.step y = some s') (more : List Char) :
    s.scanEnd (y :: more) = (s'.scanEnd more).shift 1 := by
  simp [scanEnd, h]

theorem Between.scanEnd {s : Scanner} {stack : List Char} {y : Char} {more : List Char}
    (h : Between s stack (y :: more)) {s' : Scanner} (hy : plainStep stack y = some s') :
    s.scanEnd (y :: more) = (s'.scanEnd more).shift 1 :=
  scanEnd_cons_of_step (h.step.trans hy) more

theorem plainStep_of_not_stop {stack : List Char} {y : Char} (h : ¬(stack = [] ∧ isStop y = true)) :
    plainStep stack y = some (afterPlain stack y) := by
  simp [plainStep, h]

/-- What the main loop with `n` steps of fuel does agrees with the machine, from every place
between constructs that the fuel reaches the end from. -/
def LoopAgrees (n : Nat) : Prop :=
  ∀ (d : Cursor) (stack : List (Char × Location)) (s : Scanner), d.rest.length < n →
    Between s (stack.map (·.1)) d.rest → (s.scanEnd d.rest).Matches d (scanUntil.go n d stack)

theorem scanEnd_nil_of_settled_false {s : Scanner} (h : s.settled = false) : s.scanEnd [] = .broken := by
  simp [scanEnd, h]

open Cursor in
/-- Inside a quoted string, the scanner's string loop followed by the main loop agrees with the
machine. -/
theorem skipString_go_agrees {m : Nat} (ih : LoopAgrees m) (start : Cursor) (q : Char)
    (hq : q ≠ '\\') (stack : List (Char × Location)) :
    ∀ (k : Nat) (e : Cursor), e.rest.length < k → e.rest.length ≤ m →
      ((Scanner.quoted q (stack.map (·.1))).scanEnd e.rest).Matches e
        (match skipString.go start q k e with
         | .ok e' => scanUntil.go m e' stack
         | .error err => .error err) := by
  intro k
  induction k with
  | zero => intro e hk; exact absurd hk (Nat.not_lt_zero _)
  | succ k ihk =>
    intro e hk hm
    unfold skipString.go
    rcases he : e.rest with _ | ⟨x, more⟩
    · exact ⟨_, rfl⟩
    · simp only
      by_cases hx : x = '\\'
      · subst hx
        simp only [if_true]
        have hstep : (Scanner.quoted q (stack.map (·.1))).step '\\' =
            some (.quotedEscape q (stack.map (·.1))) := by simp [step]
        rw [scanEnd_cons_of_step hstep]
        rcases more with _ | ⟨z, more'⟩
        · have hend : e.bump.bump.rest = [] := by simp [rest_bump, he]
          obtain ⟨k', rfl⟩ : ∃ k', k = k' + 1 := ⟨k - 1, by simp [he] at hk; omega⟩
          have herr : skipString.go start q (k' + 1) e.bump.bump =
              .error ⟨.unclosedString, start.here⟩ := by
            simp only [skipString.go, hend]
          rw [herr, scanEnd_nil_of_settled_false rfl]
          exact ⟨_, rfl⟩
        · have hstep' : (Scanner.quotedEscape q (stack.map (·.1))).step z =
              some (.quoted q (stack.map (·.1))) := rfl
          have hrest : e.bump.bump.rest = more' := by simp [rest_bump, he]
          rw [scanEnd_cons_of_step hstep', End.shift_shift]
          have h := ihk e.bump.bump (by simp [hrest]; simp [he] at hk; omega)
            (by simp [hrest]; simp [he] at hm; omega)
          rw [hrest] at h
          exact End.Matches.shift (by simp [he]) h
      · by_cases hxq : x = q
        · subst hxq
          simp only [hx, if_false, if_true]
          have hstep : (Scanner.quoted x (stack.map (·.1))).step x = some (.plain (stack.map (·.1))) := by
            simp [step, hx]
          rw [scanEnd_cons_of_step hstep]
          have hrest : e.bump.rest = more := by simp [rest_bump, he]
          have h := ih e.bump stack (.plain (stack.map (·.1)))
            (by simp [hrest]; simp [he] at hm; omega) (Or.inl rfl)
          rw [hrest] at h
          exact End.Matches.shift (by simp [he]) h
        · simp only [hx, hxq, if_false]
          have hstep : (Scanner.quoted q (stack.map (·.1))).step x = some (.quoted q (stack.map (·.1))) := by
            simp [step, hx, hxq]
          rw [scanEnd_cons_of_step hstep]
          have hrest : e.bump.rest = more := by simp [rest_bump, he]
          have h := ihk e.bump (by simp [hrest]; simp [he] at hk; omega)
            (by simp [hrest]; simp [he] at hm; omega)
          rw [hrest] at h
          exact End.Matches.shift (by simp [he]) h

/-- Inside a comment: either after an ordinary character, or just after a star that the text
does not follow with a slash. -/
def InComment (s : Scanner) (stack : List Char) (rest : List Char) : Prop :=
  s = .comment stack ∨ (s = .commentStar stack ∧ rest.head? ≠ some '/')

open Cursor in
/-- Inside a comment, the scanner's comment loop followed by the main loop agrees with the
machine. -/
theorem skipComment_go_agrees {m : Nat} (ih : LoopAgrees m) (start : Cursor)
    (stack : List (Char × Location)) :
    ∀ (k : Nat) (e : Cursor) (s : Scanner), e.rest.length < k → e.rest.length ≤ m →
      InComment s (stack.map (·.1)) e.rest →
      (s.scanEnd e.rest).Matches e
        (match skipComment.go start k e with
         | .ok e' => scanUntil.go m e' stack
         | .error err => .error err) := by
  intro k
  induction k with
  | zero => intro e s hk; exact absurd hk (Nat.not_lt_zero _)
  | succ k ihk =>
    intro e s hk hm hs
    unfold skipComment.go
    by_cases hclose : e.startsWith2 '*' '/' = true
    · obtain ⟨more, he⟩ := rest_of_startsWith2 hclose
      simp only [hclose, if_true]
      have hfeed : s.feed ['*', '/'] = some (.plain (stack.map (·.1))) := by
        rcases hs with rfl | ⟨rfl, -⟩ <;> simp [step]
      have h := ih e.bump.bump stack (.plain (stack.map (·.1)))
        (by simp [rest_bump, he]; simp [he] at hm; omega) (Or.inl rfl)
      have hrest : e.bump.bump.rest = more := by simp [rest_bump, he]
      rw [hrest] at h
      rw [he, show '*' :: '/' :: more = ['*', '/'] ++ more from rfl, scanEnd_append_of_feed hfeed]
      exact End.Matches.shift (by simp [he]) h
    · simp only [hclose, Bool.false_eq_true, if_false]
      rcases he : e.rest with _ | ⟨x, more⟩
      · have hs' : s.settled = false := by rcases hs with rfl | ⟨rfl, -⟩ <;> rfl
        rw [scanEnd_nil_of_settled_false hs']
        exact ⟨_, rfl⟩
      · simp only
        have hx : s.step x = some (if x = '*' then .commentStar (stack.map (·.1))
            else .comment (stack.map (·.1))) := by
          rcases hs with rfl | ⟨rfl, hslash⟩
          · rfl
          · have hx' : x ≠ '/' := fun e => hslash (by simp [he, e])
            simp [step, hx']
        rw [scanEnd_cons_of_step hx]
        have hrest : e.bump.rest = more := by simp [rest_bump, he]
        have hin : InComment (if x = '*' then .commentStar (stack.map (·.1))
            else .comment (stack.map (·.1))) (stack.map (·.1)) e.bump.rest := by
          by_cases hxs : x = '*'
          · refine .inr ⟨by simp [hxs], ?_⟩
            intro hmore
            apply hclose
            rcases more with _ | ⟨y, more'⟩
            · simp [hrest] at hmore
            · simp [hrest] at hmore
              simp [Cursor.startsWith2, he, hxs, hmore]
          · exact .inl (by simp [hxs])
        have h := ihk e.bump _ (by simp [hrest]; simp [he] at hk; omega)
          (by simp [hrest]; simp [he] at hm; omega) hin
        rw [hrest] at h
        exact End.Matches.shift (by simp [he]) h

open Cursor in
theorem LoopAgrees.bump {m : Nat} (ih : LoopAgrees m) {d : Cursor} {y : Char} {more : List Char}
    (hd : d.rest = y :: more) (hm : more.length < m) {s s' : Scanner}
    (stack' : List (Char × Location)) (hstep : s.step y = some s')
    (hs' : Between s' (stack'.map (·.1)) more) :
    (s.scanEnd (y :: more)).Matches d (scanUntil.go m d.bump stack') := by
  have hrest : d.bump.rest = more := by simp [rest_bump, hd]
  have h := ih d.bump stack' s' (by rw [hrest]; exact hm) (by rw [hrest]; exact hs')
  rw [hrest] at h
  rw [scanEnd_cons_of_step hstep]
  exact End.Matches.shift (by simp [hd]) h

theorem scanEnd_escape_nil (stack : List Char) :
    (Scanner.escape stack).scanEnd [] = (Scanner.plain stack).scanEnd [] := by
  cases stack <;> rfl

/-- From between constructs, a character that does not stop the scan leads where `afterPlain`
says. -/
theorem Between.step_eq {s : Scanner} {stack : List Char} {y : Char} {more : List Char}
    (hs : Between s stack (y :: more)) (hnot : ¬(stack = [] ∧ isStop y = true)) :
    s.step y = some (afterPlain stack y) := by
  rw [hs.step, plainStep_of_not_stop hnot]

theorem afterPlain_quote {stack : List Char} {y : Char} (hq : y = '"' ∨ y = '\'') :
    afterPlain stack y = .quoted y stack := by
  rcases hq with rfl | rfl <;> simp [afterPlain]

theorem afterPlain_close {stack : List Char} {y : Char} (hc : y = ')' ∨ y = ']') :
    afterPlain stack y = .plain (close stack y) := by
  rcases hc with rfl | rfl <;> simp [afterPlain]

theorem skipString_cons {d : Cursor} {y : Char} {more : List Char} (hd : d.rest = y :: more) :
    skipString d = skipString.go d y (more.length + 1) d.bump := by
  simp [skipString, Cursor.peek, hd]

theorem skipComment_cons {d : Cursor} {more : List Char} (hd : d.rest = '/' :: '*' :: more) :
    skipComment d = skipComment.go d (more.length + 2) d.bump.bump := by
  simp [skipComment, hd]

open Cursor in
/-- An escape takes the next character with it, and the loop goes on after both; at the end of
the text it ends there. -/
theorem LoopAgrees.escape {m : Nat} (ih : LoopAgrees m) {d : Cursor} {stack : List (Char × Location)}
    {s : Scanner} {more : List Char} (hd : d.rest = '\\' :: more) (hm : more.length < m)
    (hstep : s.step '\\' = some (.escape (stack.map (·.1)))) :
    (s.scanEnd ('\\' :: more)).Matches d (scanUntil.go m d.bump.bump stack) := by
  rcases more with _ | ⟨z, more'⟩
  · have hrest : d.bump.rest = [] := by simp [rest_bump, hd]
    have h := ih d.bump stack (.plain _) (by rw [hrest]; omega) (by rw [hrest]; exact .inl rfl)
    rw [hrest] at h
    rw [bump_of_rest_nil hrest, scanEnd_cons_of_step hstep, scanEnd_escape_nil]
    exact End.Matches.shift (by simp [hd]) h
  · have hrest : d.bump.bump.rest = more' := by simp [rest_bump, hd]
    have h := ih d.bump.bump stack (.plain _) (by rw [hrest]; simp at hm; omega)
      (by rw [hrest]; exact .inl rfl)
    rw [hrest] at h
    have hfeed : s.feed ['\\', z] = some (.plain (stack.map (·.1))) := by
      rw [feed_cons, hstep]
      rfl
    rw [show '\\' :: z :: more' = ['\\', z] ++ more' from rfl, scanEnd_append_of_feed hfeed]
    exact End.Matches.shift (by simp [hd]) h

open Cursor in
/-- The scanner's main loop agrees with the machine, for every amount of fuel that reaches the
end of the text. -/
theorem loopAgrees (n : Nat) : LoopAgrees n := by
  induction n with
  | zero => intro d stack s hn; exact absurd hn (Nat.not_lt_zero _)
  | succ m ih =>
    intro d stack s hn hs
    unfold scanUntil.go
    rcases hd : d.rest with _ | ⟨y, more⟩
    · rw [hd] at hs
      have hsc : s.scanEnd [] = (Scanner.plain (stack.map (·.1))).scanEnd [] := by
        rcases hs with rfl | ⟨rfl, -⟩ <;> cases stack <;> rfl
      rw [hsc]
      rcases stack with _ | ⟨p, ps⟩
      · simp [scanEnd, settled, End.Matches, hd]
      · obtain ⟨q, hq⟩ : ∃ q, (p :: ps).getLast? = some q :=
          ⟨_, List.getLast?_eq_some_getLast (by simp)⟩
        simp only [hq]
        exact ⟨_, rfl⟩
    · rw [hd] at hs hn
      have hm : more.length < m := by simp at hn; omega
      set st := stack.map (·.1) with hst
      simp only
      split
      · next hstop =>
        have hnone : plainStep st y = none := by
          simp only [Bool.and_eq_true, List.isEmpty_iff] at hstop
          simp [plainStep, hst, hstop.1, hstop.2]
        simp [scanEnd, hs.step, hnone, End.Matches]
      · next hstop =>
        have hnot : ¬(st = [] ∧ isStop y = true) := by
          simpa [hst, List.isEmpty_iff] using hstop
        have hsimple : s.step y = some (afterPlain st y) := hs.step_eq hnot
        split
        · next hy =>
          subst hy
          exact ih.escape hd hm (by rw [hsimple]; simp [afterPlain, hst])
        · next hnesc =>
          split
          · next hq =>
            have hq' : y = '"' ∨ y = '\'' := by simpa using hq
            have hy : y ≠ '\\' := by rcases hq' with rfl | rfl <;> decide
            have h := skipString_go_agrees ih d y hy stack (more.length + 1) d.bump
              (by simp [rest_bump, hd]) (by simp [rest_bump, hd]; omega)
            rw [show d.bump.rest = more by simp [rest_bump, hd]] at h
            rw [skipString_cons hd, scanEnd_cons_of_step (hsimple.trans (by rw [afterPlain_quote hq']))]
            exact End.Matches.shift (by simp [hd]) h
          · next hnq =>
            split
            · next hc =>
              simp only [Bool.and_eq_true, decide_eq_true_eq] at hc
              obtain ⟨rfl, hc2⟩ := hc
              obtain ⟨more', rfl⟩ : ∃ more', more = '*' :: more' := by
                obtain ⟨more', hmore'⟩ := rest_of_startsWith2 hc2
                rw [hd, List.cons.injEq] at hmore'
                exact ⟨more', hmore'.2⟩
              have hfeed : s.feed ['/', '*'] = some (.comment st) := by
                rw [feed_cons, hsimple]
                simp [afterPlain]
                rfl
              have hrest : d.bump.bump.rest = more' := by simp [rest_bump, hd]
              have h := skipComment_go_agrees ih d stack (more'.length + 2) d.bump.bump
                (.comment st) (by simp [hrest]) (by simp [hrest]; simp at hm; omega) (.inl rfl)
              rw [hrest] at h
              rw [skipComment_cons hd, show '/' :: '*' :: more' = ['/', '*'] ++ more' from rfl,
                scanEnd_append_of_feed hfeed]
              exact End.Matches.shift (by simp [hd]) h
            · next hnc =>
              split
              · next hy =>
                subst hy
                refine ih.bump hd hm ((')', d.here) :: stack) hsimple ?_
                simp [afterPlain, Between, hst]
              · split
                · next hy =>
                  subst hy
                  refine ih.bump hd hm ((']', d.here) :: stack) hsimple ?_
                  simp [afterPlain, Between, hst]
                · split
                  · next hclose =>
                    rw [afterPlain_close (by simpa using hclose)] at hsimple
                    split
                    · next c l rest =>
                      split
                      · next hcy =>
                        refine ih.bump hd hm rest hsimple ?_
                        simp [Between, hst, Scanner.close, hcy]
                      · next hcy =>
                        refine ih.bump hd hm _ hsimple ?_
                        simp [Between, hst, Scanner.close, hcy]
                    · exact ih.bump hd hm [] hsimple (by simp [Between, hst, Scanner.close])
                  · next hother =>
                    refine ih.bump hd hm stack hsimple ?_
                    by_cases hslash : y = '/'
                    · subst hslash
                      refine .inr ⟨by simp [afterPlain, hst], ?_⟩
                      intro hstar
                      apply hnc
                      rcases more with _ | ⟨z, more'⟩
                      · simp at hstar
                      · simp at hstar
                        simp [Cursor.startsWith2, hd, hstar]
                    · next hopen hsquare =>
                      refine .inl ?_
                      have hy2 : ¬(y = '"' ∨ y = '\'') := by simpa using hnq
                      have hy6 : ¬(y = ')' ∨ y = ']') := by simpa using hother
                      simp [afterPlain, hnesc, hy2, hslash, hopen, hsquare, hy6, hst]

end Scanner

/-! ## The scan in the forms the reader proofs use -/

open Scanner Cursor

/-- The scanner's answer is the machine's: the same stop at the same place, the end of the text,
or an error exactly when the machine ends inside a string, comment or bracket. -/
theorem scanUntil_matches (c : Cursor) : ((Scanner.plain []).scanEnd c.rest).Matches c (scanUntil c) :=
  loopAgrees _ c [] (.plain []) (Nat.lt_succ_self _) (.inl rfl)

theorem scanUntil_of_feed {c : Cursor} {T : List Char} {x : Char} {rest : List Char}
    (hc : c.rest = T ++ x :: rest) {s : Scanner} (hT : (Scanner.plain []).feed T = some s)
    (hx : s.step x = none) : scanUntil c = .ok (some x, bump^[T.length] c) := by
  have h := scanUntil_matches c
  rw [hc, (scanEnd_append_stop _ T x rest).mpr ⟨s, hT, hx⟩] at h
  exact h

theorem scanUntil_of_settled {c : Cursor} {s : Scanner} (h : (Scanner.plain []).feed c.rest = some s)
    (hs : s.settled = true) : scanUntil c = .ok (none, bump^[c.rest.length] c) := by
  have hm := scanUntil_matches c
  rw [scanEnd_of_feed h, if_pos hs] at hm
  exact hm

/-- A scan that stops read, before the stop, a text the machine reads without stopping and
then stops at. -/
theorem feed_of_scanUntil {c d : Cursor} {x : Char} (h : scanUntil c = .ok (some x, d)) :
    ∃ T rest s, c.rest = T ++ x :: rest ∧ d = bump^[T.length] c ∧
      (Scanner.plain []).feed T = some s ∧ s.step x = none := by
  rcases feed_cases (.plain []) c.rest with ⟨T, y, rest, s, hc, hT, hy⟩ | ⟨s, hs⟩
  · rw [scanUntil_of_feed hc hT hy] at h
    obtain ⟨rfl, rfl⟩ : y = x ∧ bump^[T.length] c = d := by simpa using h
    exact ⟨T, rest, s, hc, rfl, hT, hy⟩
  · have hm := scanUntil_matches c
    rw [scanEnd_of_feed hs] at hm
    split at hm
    · rw [hm] at h
      simp at h
    · obtain ⟨err, herr⟩ := hm
      rw [herr] at h
      cases h

theorem settled_of_scanUntil {c d : Cursor} (h : scanUntil c = .ok (none, d)) :
    ∃ s, (Scanner.plain []).feed c.rest = some s ∧ s.settled = true ∧
      d = bump^[c.rest.length] c := by
  rcases feed_cases (.plain []) c.rest with ⟨T, y, rest, s, hc, hT, hy⟩ | ⟨s, hs⟩
  · rw [scanUntil_of_feed hc hT hy] at h
    simp at h
  · have hm := scanUntil_matches c
    rw [scanEnd_of_feed hs] at hm
    split at hm
    · next hset =>
      rw [hm] at h
      exact ⟨s, hs, hset, by simpa using h.symm⟩
    · obtain ⟨err, herr⟩ := hm
      rw [herr] at h
      cases h

/-! ## Characters outside every construct -/

namespace Scanner

/-- A character that no construct of the scan starts or ends with: not a backslash, quote,
slash, star, bracket or stop. Blanks and colons are such characters. -/
def isPlainChar (x : Char) : Bool :=
  !(x = '\\' || x = '"' || x = '\'' || x = '/' || x = '*' || x = '(' || x = ')' || x = '[' ||
    x = ']' || isStop x)

/-- Whether a string state waits for a real quote character: true of every state the scan
reaches from a plain one. -/
def quotesOk : Scanner → Bool
  | .quoted q _ | .quotedEscape q _ => q = '"' || q = '\''
  | _ => true

/-- The state after a plain character: an escape is done, a slash was an ordinary character,
and inside a string or a comment nothing changes. -/
def pass : Scanner → Scanner
  | .plain st | .escape st | .slash st => .plain st
  | .quoted q st | .quotedEscape q st => .quoted q st
  | .comment st | .commentStar st => .comment st

@[simp] theorem pass_pass (s : Scanner) : s.pass.pass = s.pass := by
  cases s <;> rfl

theorem quotesOk_step {s s' : Scanner} {x : Char} (hs : s.quotesOk = true) (h : s.step x = some s') :
    s'.quotesOk = true := by
  cases s with
  | plain st | slash st =>
    simp only [step, plainStep, afterPlain] at h
    split_ifs at h <;> cases h <;> simp_all [quotesOk]
  | escape st | quotedEscape q st =>
    cases h
    simp_all [quotesOk]
  | quoted q st | comment st | commentStar st =>
    cases h
    split_ifs <;> simp_all [quotesOk]

theorem quotesOk_feed {s s' : Scanner} {xs : List Char} (hs : s.quotesOk = true)
    (h : s.feed xs = some s') : s'.quotesOk = true := by
  induction xs generalizing s with
  | nil =>
    obtain rfl := Option.some.inj h
    exact hs
  | cons x xs ih =>
    simp only [feed_cons] at h
    rcases hx : s.step x with _ | t
    · simp [hx] at h
    · rw [hx, Option.bind_some] at h
      exact ih (quotesOk_step hs hx) h

theorem step_of_isPlainChar {s : Scanner} {x : Char} (hs : s.quotesOk = true)
    (hx : isPlainChar x = true) : s.step x = some s.pass := by
  simp only [isPlainChar, isStop, Bool.not_eq_true', Bool.or_eq_false_iff, decide_eq_false_iff_not]
    at hx
  obtain ⟨⟨⟨⟨⟨⟨⟨⟨⟨hesc, hdq⟩, hsq⟩, hsl⟩, hstar⟩, hop⟩, hcp⟩, hos⟩, hcs⟩, ⟨hb, hsemi⟩, hcb⟩ := hx
  cases s with
  | quoted q st | quotedEscape q st =>
    simp only [quotesOk, Bool.or_eq_true, decide_eq_true_eq] at hs
    have hq : x ≠ q := by rcases hs with rfl | rfl <;> assumption
    simp [step, pass, hesc, hq]
  | _ => simp [step, plainStep, afterPlain, pass, isStop, hesc, hdq, hsq, hsl, hstar, hop, hcp,
      hos, hcs, hb, hsemi, hcb]

theorem feed_of_isPlainChar {s : Scanner} {xs : List Char} (hs : s.quotesOk = true)
    (hxs : ∀ x ∈ xs, isPlainChar x = true) (hne : xs ≠ []) : s.feed xs = some s.pass := by
  induction xs generalizing s with
  | nil => exact absurd rfl hne
  | cons x xs ih =>
    rw [feed_cons, step_of_isPlainChar hs (hxs x (by simp)), Option.bind_some]
    cases xs with
    | nil => rfl
    | cons y ys =>
      have hpass : s.pass.quotesOk = true := quotesOk_step hs (step_of_isPlainChar hs (hxs x (by simp)))
      rw [ih hpass (fun z hz => hxs z (by simp [hz])) (by simp), pass_pass]

theorem isPlainChar_of_isBlank {x : Char} (h : isBlank x = true) : isPlainChar x = true := by
  by_cases hx : x ∈ ['\\', '"', '\'', '/', '*', '(', ')', '[', ']', '{', ';', '}']
  · simp only [List.mem_cons, List.not_mem_nil, or_false] at hx
    rcases hx with rfl | rfl | rfl | rfl | rfl | rfl | rfl | rfl | rfl | rfl | rfl | rfl <;>
      simp [isBlank] at h
  · simp only [List.mem_cons, List.not_mem_nil, or_false, not_or] at hx
    simp [isPlainChar, isStop, hx]

theorem feed_plain_of_isBlank {ws : List Char} (hws : ∀ x ∈ ws, isBlank x = true) (st : List Char) :
    (Scanner.plain st).feed ws = some (.plain st) := by
  cases ws with
  | nil => rfl
  | cons x xs =>
    exact feed_of_isPlainChar rfl (fun y hy => isPlainChar_of_isBlank (hws y hy)) (by simp)

theorem getLast?_of_feed_escape {st st' : List Char} {xs : List Char}
    (h : (Scanner.plain st).feed xs = some (.escape st')) : xs.getLast? = some '\\' := by
  rcases List.eq_nil_or_concat xs with rfl | ⟨ys, y, rfl⟩
  · cases h
  · rw [List.concat_eq_append, List.getLast?_concat]
    rw [List.concat_eq_append, feed_append] at h
    rcases hys : (Scanner.plain st).feed ys with _ | t
    · simp [hys] at h
    · simp only [hys, Option.bind_some, feed_cons, feed_nil] at h
      rcases hy : t.step y with _ | u
      · simp [hy] at h
      · simp only [hy, Option.bind_some, Option.some.injEq] at h
        subst h
        cases t with
        | plain stk | slash stk =>
          simp only [step, plainStep, afterPlain] at hy
          split_ifs at hy <;> simp_all
        | escape stk | quotedEscape q stk => simp [step] at hy
        | quoted q stk | comment stk | commentStar stk =>
          simp only [step] at hy
          split_ifs at hy <;> simp at hy

/-! ## Settled ends -/

theorem settled_pass (s : Scanner) : s.pass.settled = s.settled := by
  cases s with
  | plain st | escape st | slash st => cases st <;> rfl
  | quoted q st | quotedEscape q st | comment st | commentStar st => rfl

theorem pass_of_settled {s : Scanner} (hs : s.settled = true) : s.pass = .plain [] := by
  cases s with
  | plain st | escape st | slash st => cases st <;> simp_all [settled, pass]
  | quoted q st | quotedEscape q st | comment st | commentStar st => simp [settled] at hs

theorem settled_of_step_eq_none {s : Scanner} {x : Char} (h : s.step x = none) : s.settled = true := by
  cases s with
  | plain st | slash st =>
    cases st with
    | nil => rfl
    | cons y st =>
      simp only [step, plainStep] at h
      split_ifs at h <;> simp_all
  | escape st | quotedEscape q st => simp [step] at h
  | quoted q st | comment st | commentStar st => simp [step] at h

/-- Blanks at the end of a text keep a settled end settled: before them the machine was
settled too. -/
theorem settled_of_feed_blank {s s' : Scanner} {ws : List Char} (hq : s.quotesOk = true)
    (hws : ∀ x ∈ ws, isBlank x = true) (h : s.feed ws = some s') (hs' : s'.settled = true) :
    s.settled = true := by
  cases ws with
  | nil =>
    cases h
    exact hs'
  | cons w ws =>
    rw [feed_of_isPlainChar hq (fun x hx => isPlainChar_of_isBlank (hws x hx)) (by simp)] at h
    cases h
    rwa [settled_pass] at hs'

theorem step_eq_none_of_settled {s : Scanner} (hs : s.settled = true) (hne : ∀ st, s ≠ .escape st)
    {x : Char} (hx : isStop x = true) : s.step x = none := by
  have hstar : x ≠ '*' := by
    rintro rfl
    simp [isStop] at hx
  cases s with
  | plain st | slash st =>
    cases st with
    | nil => simp [step, plainStep, hx, hstar]
    | cons y st => simp [settled] at hs
  | escape st => exact absurd rfl (hne st)
  | quoted q st | quotedEscape q st | comment st | commentStar st => simp [settled] at hs

end Scanner

end CssBundle.Css
