import Mathlib
import CssBundle.Proofs.ReaderText
import CssBundle.Css.Compressed

/-!
# Collapsing blanks

The compressed printer passes every selector, prelude and value through `collapseChars`, which
reads the text once with its own notion of quotes and escapes, and writes each run of blanks
outside them as one space, or as nothing next to a tight character. Followed one character at
a time (`collapseStep`), it is a fold, and two facts about what it writes follow.

* The scanner reads the collapsed text as it reads the text itself (`feed_collapseChars`). The
  scanner notices a blank only right after a backslash, which the collapser copies with the
  character after it, and between a slash and a star, which are never tight and so keep a space
  between them. The invariant `CollapseSim` ties the scanner's state after the text written to
  its state after the text read.
* Collapsing twice is collapsing once (`collapseBlanks_collapseBlanks`): a second pass meets
  each space where the first wrote it, and writes it again.
-/

namespace CssBundle.Css

open Text Scanner

/-! ## One character at a time -/

/-- One character of `collapseChars`: the state after it, with the output so far, reversed. -/
def collapseStep (tight : List Char) (p : CollapseState × List Char) (c : Char) :
    CollapseState × List Char :=
  let st := p.1
  let out := p.2
  if st.quote.isSome || st.escaped then
    (if st.escaped then { st with escaped := false }
      else if c = '\\' then { st with escaped := true }
      else if some c = st.quote then { st with quote := none }
      else st, c :: out)
  else if isBlank c then ({ st with pending := true }, out)
  else
    let afterTight := match out with
      | last :: _ => tight.contains last
      | [] => false
    let out := if st.pending && !afterTight && !tight.contains c then ' ' :: out else out
    let st := { st with pending := false }
    (if c = '"' || c = '\'' then { st with quote := some c }
      else if c = '\\' then { st with escaped := true }
      else st, c :: out)

theorem collapseChars_eq_foldl (tight cs : List Char) (st : CollapseState) (out : List Char) :
    collapseChars tight cs st out = (cs.foldl (collapseStep tight) (st, out)).2.reverse := by
  induction cs generalizing st out with
  | nil => rfl
  | cons c cs ih =>
    rw [List.foldl_cons, ← ih]
    cases out <;> simp only [collapseChars, collapseStep] <;> split_ifs <;> rfl

theorem collapseStep_extends (tight : List Char) (p : CollapseState × List Char) (c : Char) :
    ∃ e, (collapseStep tight p c).2 = e ++ p.2 := by
  dsimp only [collapseStep]
  split_ifs <;> first | exact ⟨[], rfl⟩ | exact ⟨[c], rfl⟩ | exact ⟨[c, ' '], rfl⟩

theorem foldl_collapseStep_extends (tight cs : List Char) (p : CollapseState × List Char) :
    ∃ e, (cs.foldl (collapseStep tight) p).2 = e ++ p.2 := by
  induction cs generalizing p with
  | nil => exact ⟨[], rfl⟩
  | cons c cs ih =>
    obtain ⟨e₁, he₁⟩ := collapseStep_extends tight p c
    obtain ⟨e₂, he₂⟩ := ih (collapseStep tight p c)
    exact ⟨e₂ ++ e₁, by rw [List.foldl_cons, he₂, he₁, List.append_assoc]⟩

/-- A character that is not blank is written last, with at most a space before it; inside quotes
or after a backslash a blank is written too. -/
theorem head_collapseStep (tight : List Char) (p : CollapseState × List Char) {c : Char}
    (hc : isBlank c = false) : (collapseStep tight p c).2.head? = some c := by
  dsimp only [collapseStep]
  split_ifs <;> simp_all

/-! ## What the scanner notices of blanks -/

namespace Scanner

/-- Whether the scanner has just read a backslash that takes the next character with it. -/
def escaping : Scanner → Bool
  | .escape _ | .quotedEscape _ _ => true
  | _ => false

@[simp] theorem escaping_pass (s : Scanner) : s.pass.escaping = false := by
  cases s <;> rfl

theorem quotesOk_pass {s : Scanner} (h : s.quotesOk = true) : s.pass.quotesOk = true := by
  cases s <;> simp_all [pass, quotesOk]

theorem step_of_isBlank {s : Scanner} (hs : s.quotesOk = true) {x : Char} (hx : isBlank x = true) :
    s.step x = some s.pass :=
  step_of_isPlainChar hs (isPlainChar_of_isBlank hx)

theorem eq_backslash_of_escaping {s s' : Scanner} {x : Char} (h : s.step x = some s')
    (he : s'.escaping = true) : x = '\\' := by
  cases s with
  | plain st | slash st =>
    simp only [step, plainStep, afterPlain] at h
    split_ifs at h <;> (try cases h) <;> simp_all [escaping]
  | escape st | quotedEscape q st =>
    cases h
    simp [escaping] at he
  | quoted q st | comment st | commentStar st =>
    simp only [step] at h
    split_ifs at h <;> cases h <;> simp_all [escaping]

theorem step_backslash {s s' : Scanner} (hs : s.escaping = false) (h : s.step '\\' = some s') :
    s'.escaping = true ∨ ∃ st, s' = .comment st := by
  cases s with
  | plain st | slash st =>
    simp only [step, plainStep, afterPlain, isStop] at h
    simp at h
    simp [← h, escaping]
  | escape st | quotedEscape q st => simp [escaping] at hs
  | quoted q st =>
    simp only [step, if_pos, Option.some.injEq] at h
    simp [← h, escaping]
  | comment st | commentStar st =>
    simp only [step] at h
    simp at h
    simp [← h]

theorem escaping_step_of_taken {s s' : Scanner} {x : Char} (hs : s.escaping = true ∨ ∃ st, s = .comment st)
    (h : s.step x = some s') : s'.escaping = false := by
  rcases hs with hs | ⟨st, rfl⟩
  · cases s <;> simp [escaping] at hs <;> simp only [step, Option.some.injEq] at h <;> simp [← h, escaping]
  · simp only [step, Option.some.injEq] at h
    split_ifs at h <;> simp [← h, escaping]

theorem pass_step_of_tight {s s' : Scanner} (hs : s.quotesOk = true) {x : Char}
    (hx : x ∉ ['\\', '"', '\'', '/', '*']) (h : s.step x = some s') : s'.pass = s' := by
  simp only [List.mem_cons, List.not_mem_nil, or_false, not_or] at hx
  obtain ⟨hesc, hdq, hsq, hsl, hst⟩ := hx
  cases s with
  | plain st | slash st =>
    simp only [step, plainStep, afterPlain, hesc, hdq, hsq, hsl, hst, or_self, if_false] at h
    split_ifs at h <;> cases h <;> rfl
  | escape st | quotedEscape q st =>
    cases h
    rfl
  | quoted q st =>
    simp only [quotesOk, Bool.or_eq_true, decide_eq_true_eq] at hs
    have hq : x ≠ q := by rcases hs with rfl | rfl <;> assumption
    simp only [step, hesc, hq, if_false, Option.some.injEq] at h
    rw [← h]
    rfl
  | comment st | commentStar st =>
    simp only [step, hsl, hst, if_false, Option.some.injEq] at h
    rw [← h]
    rfl

/-- Away from an escape, a blank before a character other than a slash or a star changes
nothing of what the character does. -/
theorem step_pass {s : Scanner} (hs : s.escaping = false) {x : Char} (hsl : x ≠ '/') (hst : x ≠ '*') :
    s.pass.step x = s.step x := by
  cases s with
  | plain st | quoted q st | comment st => rfl
  | slash st => simp [pass, step, hst]
  | escape st | quotedEscape q st => simp [escaping] at hs
  | commentStar st => simp [pass, step, hsl, hst]

end Scanner

/-! ## The collapser's three kinds of step -/

section Steps

variable (tight : List Char) {st : CollapseState} (out : List Char) (c : Char)

theorem collapseStep_copy (h : (st.quote.isSome || st.escaped) = true) :
    ∃ st', collapseStep tight (st, out) c = (st', c :: out) ∧ st'.pending = st.pending ∧
      (st'.escaped = true ↔ st.escaped = false ∧ c = '\\') := by
  dsimp only [collapseStep]
  rw [if_pos h]
  refine ⟨_, rfl, ?_, ?_⟩ <;> split_ifs <;> simp_all

theorem collapseStep_blank (h : (st.quote.isSome || st.escaped) = false) (hc : isBlank c = true) :
    collapseStep tight (st, out) c = ({ st with pending := true }, out) := by
  simp [collapseStep, h, hc]

/-- Outside them, any other character is written, after a space when blanks were set aside and
neither it nor the character before it is tight. -/
theorem collapseStep_char (h : (st.quote.isSome || st.escaped) = false) (hc : isBlank c = false) :
    ∃ st', collapseStep tight (st, out) c =
        (st', c :: if st.pending && !(out.head?.any tight.contains) && !tight.contains c then ' ' :: out
          else out) ∧
      st'.pending = false ∧ (st'.escaped = true ↔ c = '\\') := by
  have hafter : (match out with
      | last :: _ => tight.contains last
      | [] => false) = out.head?.any tight.contains := by
    cases out <;> rfl
  have hq : st.escaped = false := by simp_all
  dsimp only [collapseStep]
  rw [if_neg (by simp [h]), if_neg (by simp [hc]), hafter]
  refine ⟨_, rfl, by split_ifs <;> rfl, ?_⟩
  split_ifs with hq1 hq2
  · have hb : c ≠ '\\' := by
      rintro rfl
      simp at hq1
    simp [hq, hb]
  · simp [hq2]
  · simp [hq, hq2]

end Steps

/-! ## The scanner reads the collapsed text as the text -/

/-- Characters next to which a space may be dropped: none is a backslash, a quote, a slash or a
star, the characters whose neighbours the scanner looks at. -/
def tightFits (tight : List Char) : Prop := ∀ t ∈ tight, t ∉ ['\\', '"', '\'', '/', '*']

theorem tightFits_selectorTight : tightFits selectorTight := by
  simp [tightFits, selectorTight]

theorem tightFits_comma : tightFits [','] := by
  simp [tightFits]

/-- How the scanner, started at `s₀`, stands after the text written so far (`sW`) and after the
text read so far (`sV`). -/
structure CollapseSim (tight : List Char) (s₀ : Scanner) (p : CollapseState × List Char)
    (sV sW : Scanner) : Prop where
  /-- The scanner reads the text written so far without stopping. -/
  feed : s₀.feed p.2.reverse = some sW
  quotesOk : sW.quotesOk = true
  /-- The two states agree, but for a run of blanks read and not written yet. -/
  read : sV = if p.1.pending then sW.pass else sW
  /-- The scanner is just after a backslash that escapes only when the collapser is. -/
  collapser_escaped : sW.escaping = true → p.1.escaped = true
  /-- The collapser is just after a backslash only when the scanner is, or is in a comment. -/
  scanner_escaping : p.1.escaped = true → sW.escaping = true ∨ ∃ st, sW = .comment st
  /-- Blanks wait only outside quotes and escapes. -/
  pending : (p.1.quote.isSome || p.1.escaped) = true → p.1.pending = false
  /-- After a tight character a blank changes nothing. -/
  afterTight : ∀ t ∈ p.2.head?, t ∈ tight → sW.pass = sW

variable {tight : List Char} {s₀ : Scanner}

theorem CollapseSim.feed_snoc {p : CollapseState × List Char} {sV sW sV' : Scanner} {c : Char}
    (h : CollapseSim tight s₀ p sV sW) (hc : sW.step c = some sV') :
    s₀.feed (c :: p.2).reverse = some sV' := by
  rw [List.reverse_cons, feed_append, h.feed, Option.bind_some, feed_cons, hc, Option.bind_some,
    feed_nil]

theorem afterTight_step (ht : tightFits tight) {s s' : Scanner} (hq : s.quotesOk = true) {c : Char}
    (hc : s.step c = some s') (out : List Char) : ∀ t ∈ (c :: out).head?, t ∈ tight → s'.pass = s' := by
  intro t ht' htight
  obtain rfl : c = t := by simpa using ht'
  exact pass_step_of_tight hq (ht c htight) hc

theorem CollapseSim.escaping_eq_false {p : CollapseState × List Char} {sV sW : Scanner}
    (h : CollapseSim tight s₀ p sV sW) (hst : p.1.escaped = false) : sW.escaping = false := by
  cases hs : sW.escaping
  · rfl
  · exact absurd (h.collapser_escaped hs) (by simp [hst])

theorem CollapseSim.quotesOk_read {p : CollapseState × List Char} {sV sW : Scanner}
    (h : CollapseSim tight s₀ p sV sW) : sV.quotesOk = true := by
  rw [h.read]
  split
  · exact quotesOk_pass h.quotesOk
  · exact h.quotesOk

section StepKinds

variable {st : CollapseState} {out : List Char} {sV sW sV' : Scanner} {c : Char}

/-- Copied as it is: inside quotes or after a backslash no blank waits, and both texts take the
character from the same state. -/
theorem CollapseSim.step_copy (ht : tightFits tight) (h : CollapseSim tight s₀ (st, out) sV sW)
    (hcopy : (st.quote.isSome || st.escaped) = true) (hc : sV.step c = some sV') :
    CollapseSim tight s₀ (collapseStep tight (st, out) c) sV' sV' := by
  have hp : st.pending = false := h.pending hcopy
  have hsame : sV = sW := by
    have hr := h.read
    simp only [hp] at hr
    exact hr
  subst hsame
  obtain ⟨st', hstep, hpend, hesc⟩ := collapseStep_copy tight out c hcopy
  rw [hstep]
  refine ⟨h.feed_snoc hc, quotesOk_step h.quotesOk hc, by simp [hpend, hp],
    fun he => ?_, fun he => ?_, fun _ => by rw [hpend]; exact hp,
    afterTight_step ht h.quotesOk hc out⟩
  · have hback := eq_backslash_of_escaping hc he
    cases hst : st.escaped
    · exact hesc.mpr ⟨hst, hback⟩
    · have := escaping_step_of_taken (h.scanner_escaping hst) hc
      simp_all
  · obtain ⟨hnot, rfl⟩ := hesc.mp he
    exact step_backslash (h.escaping_eq_false (by simpa using hnot)) hc

/-- A character that is not blank, outside quotes and escapes, is written, after a space when
blanks wait and neither it nor the character before it is tight. -/
theorem CollapseSim.step_char (ht : tightFits tight) (h : CollapseSim tight s₀ (st, out) sV sW)
    (hplain : (st.quote.isSome || st.escaped) = false) (hbl : isBlank c = false)
    (hc : sV.step c = some sV') :
    CollapseSim tight s₀ (collapseStep tight (st, out) c) sV' sV' := by
  have hWesc : sW.escaping = false := h.escaping_eq_false (by simp_all)
  have hqV := h.quotesOk_read
  obtain ⟨st', hstep, hpend, hesc⟩ := collapseStep_char tight out c hplain hbl
  rw [hstep]
  have hVesc : sV.escaping = false := by
    rw [h.read]
    split
    · exact escaping_pass sW
    · exact hWesc
  refine ⟨?_, quotesOk_step hqV hc, by simp [hpend], fun he => ?_, fun he => ?_,
    fun _ => hpend, afterTight_step ht hqV hc _⟩
  · split
    · next hsp =>
      have hpending : st.pending = true := by simp_all
      rw [List.reverse_cons, feed_append, (show s₀.feed (' ' :: out).reverse = some sW.pass from
        h.feed_snoc (step_of_isBlank h.quotesOk isBlank_space))]
      simp only [Option.bind_some, feed_cons, feed_nil]
      rw [show sW.pass = sV by simp [h.read, hpending], hc]
      rfl
    · next hsp =>
      apply h.feed_snoc
      rw [← hc, h.read]
      cases hpending : st.pending
      · rfl
      · cases hat : out.head?.any tight.contains
        · have hct : tight.contains c = true := by simpa [hpending, hat] using hsp
          have hfit := ht c (by simpa using hct)
          simp only [List.mem_cons, List.not_mem_nil, or_false, not_or] at hfit
          simp [step_pass hWesc hfit.2.2.2.1 hfit.2.2.2.2]
        · cases hh : out.head? with
          | none => simp [hh] at hat
          | some t =>
            have htt : t ∈ tight := by simpa [hh] using hat
            simp [h.afterTight t (by simp [hh]) htt]
  · exact hesc.mpr (eq_backslash_of_escaping hc he)
  · rw [hesc.mp he] at hc
    exact step_backslash hVesc hc

/-- A blank outside quotes and escapes is set aside; the scanner, reading it, moves to the `pass`
of the state it had after the text written. -/
theorem CollapseSim.step_blank (h : CollapseSim tight s₀ (st, out) sV sW)
    (hplain : (st.quote.isSome || st.escaped) = false) (hbl : isBlank c = true)
    (hc : sV.step c = some sV') :
    CollapseSim tight s₀ (collapseStep tight (st, out) c) sV' sW := by
  rw [collapseStep_blank _ _ _ hplain hbl]
  refine ⟨h.feed, h.quotesOk, ?_, h.collapser_escaped, h.scanner_escaping,
    fun hq => by simp_all, h.afterTight⟩
  rw [step_of_isBlank h.quotesOk_read hbl, Option.some.injEq] at hc
  rw [← hc, h.read]
  split <;> simp

end StepKinds

theorem CollapseSim.step (ht : tightFits tight) {p : CollapseState × List Char} {sV sW sV' : Scanner}
    {c : Char} (h : CollapseSim tight s₀ p sV sW) (hc : sV.step c = some sV') :
    ∃ sW', CollapseSim tight s₀ (collapseStep tight p c) sV' sW' := by
  obtain ⟨st, out⟩ := p
  by_cases hcopy : (st.quote.isSome || st.escaped) = true
  · exact ⟨sV', h.step_copy ht hcopy hc⟩
  · have hplain : (st.quote.isSome || st.escaped) = false := by simpa using hcopy
    cases hbl : isBlank c
    · exact ⟨sV', h.step_char ht hplain hbl hc⟩
    · exact ⟨sW, h.step_blank hplain hbl hc⟩

theorem CollapseSim.pending_step {p : CollapseState × List Char} {sV sW : Scanner} {c : Char}
    (h : CollapseSim tight s₀ p sV sW) (hc : isBlank c = false) :
    (collapseStep tight p c).1.pending = false := by
  obtain ⟨st, out⟩ := p
  by_cases hcopy : (st.quote.isSome || st.escaped) = true
  · obtain ⟨st', hstep, hpend, -⟩ := collapseStep_copy tight out c hcopy
    rw [hstep, hpend]
    exact h.pending hcopy
  · obtain ⟨st', hstep, hpend, -⟩ :=
      collapseStep_char tight out c (by simpa using hcopy) hc
    rw [hstep]
    exact hpend

theorem CollapseSim.foldl (ht : tightFits tight) (cs : List Char) {p : CollapseState × List Char}
    {sV sW sV' : Scanner} (h : CollapseSim tight s₀ p sV sW) (hV : sV.feed cs = some sV') :
    ∃ sW', CollapseSim tight s₀ (cs.foldl (collapseStep tight) p) sV' sW' := by
  induction cs generalizing p sV sW with
  | nil =>
    obtain rfl : sV = sV' := by simpa using hV
    exact ⟨sW, h⟩
  | cons c cs ih =>
    rw [feed_cons] at hV
    rcases hc : sV.step c with _ | sV₁
    · simp [hc] at hV
    · rw [hc, Option.bind_some] at hV
      obtain ⟨sW₁, h₁⟩ := h.step ht hc
      exact ih h₁ hV

theorem collapseSim_start (hq : s₀.quotesOk = true) (he : s₀.escaping = false) :
    CollapseSim tight s₀ ({}, []) s₀ s₀ :=
  ⟨rfl, hq, rfl, fun h => by simp [he] at h, fun h => by simp at h, fun _ => rfl,
    fun t ht => by simp at ht⟩

/-- The scanner, from any state but an escape, reads a text that ends in no blank and its
collapsed form alike. -/
theorem feed_collapseChars (ht : tightFits tight) {V : List Char}
    (hV : ∀ x ∈ V.getLast?, isBlank x = false) {s : Scanner} (hq : s₀.quotesOk = true)
    (he : s₀.escaping = false) (h : s₀.feed V = some s) :
    s₀.feed (collapseChars tight V {} []) = some s := by
  rw [collapseChars_eq_foldl]
  rcases List.eq_nil_or_concat V with rfl | ⟨V', x, rfl⟩
  · simpa using h
  · rw [List.concat_eq_append, feed_append] at h
    rcases h₁ : s₀.feed V' with _ | s₁
    · simp [h₁] at h
    rw [h₁, Option.bind_some] at h
    obtain ⟨sW₁, hsim₁⟩ := (collapseSim_start hq he : CollapseSim tight s₀ ({}, []) s₀ s₀).foldl ht V' h₁
    have hx : isBlank x = false := hV x (by simp)
    obtain ⟨sW, hsim⟩ := hsim₁.foldl ht [x] h
    have hpend := hsim₁.pending_step hx
    have hread := hsim.read
    rw [List.foldl_cons, List.foldl_nil] at hread
    rw [hpend] at hread
    rw [List.concat_eq_append, List.foldl_append, hread]
    exact hsim.feed

/-! ## Collapsing twice -/

def unpended (p : CollapseState × List Char) : CollapseState × List Char :=
  ({ p.1 with pending := false }, p.2)

/-- A second pass, from where the first stood with nothing waiting, writes what the first wrote
for one character again, and ends where the first did. -/
theorem collapseStep_rerun (tight : List Char) (p : CollapseState × List Char) (c : Char) :
    ∃ e, (collapseStep tight p c).2 = e ++ p.2 ∧
      e.reverse.foldl (collapseStep tight) (unpended p) = unpended (collapseStep tight p c) := by
  obtain ⟨st, out⟩ := p
  by_cases hcopy : (st.quote.isSome || st.escaped) = true
  · refine ⟨[c], by simp [collapseStep, hcopy], ?_⟩
    simp only [List.reverse_singleton, List.foldl_cons, List.foldl_nil, unpended, collapseStep, hcopy]
    simp only [if_true, Prod.mk.injEq, and_true]
    split_ifs <;> rfl
  · cases hbl : isBlank c
    · by_cases hsp : (st.pending && !(out.head?.any tight.contains) && !tight.contains c) = true
      · refine ⟨[c, ' '], ?_, ?_⟩
        · cases out <;> simp_all [collapseStep]
        · cases out <;> simp_all [collapseStep, unpended, isBlank_space] <;> split_ifs <;> rfl
      · refine ⟨[c], ?_, ?_⟩
        · cases out <;> simp_all [collapseStep]
        · cases out <;> simp_all [collapseStep, unpended] <;> split_ifs <;> rfl
    · exact ⟨[], by simp [collapseStep, hcopy, hbl], by simp [collapseStep, hcopy, hbl, unpended]⟩

/-- A second pass over everything the first wrote ends where the first ended, with nothing
waiting. -/
theorem foldl_rerun (tight V : List Char) :
    (V.foldl (collapseStep tight) ({}, [])).2.reverse.foldl (collapseStep tight) ({}, []) =
      unpended (V.foldl (collapseStep tight) ({}, [])) := by
  induction V using List.reverseRecOn with
  | nil => rfl
  | append_singleton V c ih =>
    obtain ⟨e, he, hrun⟩ := collapseStep_rerun tight (V.foldl (collapseStep tight) ({}, [])) c
    rw [List.foldl_append, List.foldl_cons, List.foldl_nil, he, List.reverse_append,
      List.foldl_append, ih, hrun]

theorem collapseChars_collapseChars (tight V : List Char) :
    collapseChars tight (collapseChars tight V {} []) {} [] = collapseChars tight V {} [] := by
  rw [collapseChars_eq_foldl tight V, collapseChars_eq_foldl, foldl_rerun]
  rfl

/-! ## The ends of a collapsed text -/

theorem head_collapseChars (tight : List Char) {V : List Char} {c : Char} (hV : V.head? = some c)
    (hc : isBlank c = false) : (collapseChars tight V {} []).head? = some c := by
  obtain ⟨V', rfl⟩ : ∃ V', V = c :: V' := by
    cases V with
    | nil => simp at hV
    | cons x V' => exact ⟨V', by simpa using hV⟩
  have hfirst : collapseStep tight ({}, []) c = ((collapseStep tight ({}, []) c).1, [c]) := by
    simp [collapseStep, hc]
  obtain ⟨e, he⟩ := foldl_collapseStep_extends tight V' (collapseStep tight ({}, []) c)
  rw [collapseChars_eq_foldl, List.foldl_cons, he, hfirst]
  simp

theorem getLast_collapseChars (tight : List Char) {V : List Char}
    (hV : ∀ x ∈ V.getLast?, isBlank x = false) :
    (collapseChars tight V {} []).getLast? = V.getLast? := by
  rw [collapseChars_eq_foldl]
  rcases List.eq_nil_or_concat V with rfl | ⟨V', x, rfl⟩
  · rfl
  · rw [List.concat_eq_append, List.foldl_append, List.foldl_cons, List.foldl_nil,
      List.getLast?_reverse, head_collapseStep tight _ (hV x (by simp)), List.getLast?_concat]

theorem isTrimmed_collapseChars (tight : List Char) {V : List Char} (hV : isTrimmed V = true) :
    isTrimmed (collapseChars tight V {} []) = true := by
  rw [isTrimmed_iff] at hV ⊢
  refine ⟨fun x hx => ?_, fun x hx => ?_⟩
  · cases hh : V.head? with
    | none =>
      obtain rfl : V = [] := List.head?_eq_none_iff.mp hh
      simp [collapseChars] at hx
    | some c =>
      rw [head_collapseChars tight hh (hV.1 c hh)] at hx
      obtain rfl := Option.some.inj hx
      exact hV.1 _ hh
  · rw [getLast_collapseChars tight hV.2] at hx
    exact hV.2 x hx

/-! ## Collapsed texts -/

theorem toList_collapseBlanks (text : String) (tight : List Char) :
    (collapseBlanks text tight).toList = collapseChars tight (trimChars text.toList) {} [] := by
  simp [collapseBlanks]

theorem isTrimmed_collapseBlanks (text : String) (tight : List Char) :
    isTrimmed (collapseBlanks text tight).toList = true := by
  rw [toList_collapseBlanks]
  exact isTrimmed_collapseChars tight (isTrimmed_trimChars _)

theorem toList_collapseBlanks_of_isTrimmed {text : String} (h : isTrimmed text.toList = true)
    (tight : List Char) : (collapseBlanks text tight).toList = collapseChars tight text.toList {} [] := by
  rw [toList_collapseBlanks]
  simpa using congrArg (collapseChars tight · {} []) (trimChars_of_isTrimmed h (l := []) (r := [])
    (by simp) (by simp))

theorem collapseBlanks_collapseBlanks (text : String) (tight : List Char) :
    collapseBlanks (collapseBlanks text tight) tight = collapseBlanks text tight := by
  rw [← String.toList_inj, toList_collapseBlanks_of_isTrimmed (isTrimmed_collapseBlanks text tight),
    toList_collapseBlanks, collapseChars_collapseChars]

theorem collapseChars_cons (tight : List Char) (c : Char) (cs : List Char) (st : CollapseState)
    (out : List Char) :
    collapseChars tight (c :: cs) st out =
      collapseChars tight cs (collapseStep tight (st, out) c).1 (collapseStep tight (st, out) c).2 := by
  rw [collapseChars_eq_foldl, collapseChars_eq_foldl, List.foldl_cons]

theorem collapseChars_extends (tight cs : List Char) (st : CollapseState) (out : List Char) :
    ∃ W, collapseChars tight cs st out = out.reverse ++ W := by
  obtain ⟨e, he⟩ := foldl_collapseStep_extends tight cs (st, out)
  exact ⟨e.reverse, by rw [collapseChars_eq_foldl, he, List.reverse_append]⟩

/-- After a slash written outside quotes and escapes, a star comes next only when one is read
next: blanks between the two are written as a space, since neither is tight. -/
theorem star_after_slash (ht : tightFits tight) :
    ∀ (cs : List Char) (st : CollapseState), st.quote = none → st.escaped = false →
      (st.pending = true ∨ cs.head? ≠ some '*') →
      ∃ W, collapseChars tight cs st ['/'] = '/' :: W ∧ W.head? ≠ some '*'
  | [], st, _, _, _ => ⟨[], rfl, by simp⟩
  | x :: cs, st, hq, he, hx => by
    have hplain : (st.quote.isSome || st.escaped) = false := by simp [hq, he]
    rw [collapseChars_cons]
    cases hbl : isBlank x
    · obtain ⟨st', hstep, -, -⟩ := collapseStep_char tight ['/'] x hplain hbl
      rw [hstep]
      split
      · obtain ⟨W, hW⟩ := collapseChars_extends tight cs st' (x :: ' ' :: ['/'])
        exact ⟨' ' :: x :: W, by rw [hW]; simp, by simp⟩
      · next hsp =>
        obtain ⟨W, hW⟩ := collapseChars_extends tight cs st' (x :: ['/'])
        refine ⟨x :: W, by rw [hW]; simp, ?_⟩
        rintro hxs
        obtain rfl : x = '*' := by simpa using hxs
        have hstar : '*' ∉ tight := fun hmem => by simpa using ht '*' hmem
        have hslash : '/' ∉ tight := fun hmem => by simpa using ht '/' hmem
        rcases hx with hp | hx
        · simp [hp, hstar, hslash] at hsp
        · simp at hx
    · rw [collapseStep_blank _ _ _ hplain hbl]
      exact star_after_slash ht cs _ hq he (.inl rfl)

theorem isPrefixOf_collapseChars (ht : tightFits tight) {V : List Char}
    (hfirst : ∀ x ∈ V.head?, isBlank x = false) (hV : ['/', '*'].isPrefixOf V = false) :
    ['/', '*'].isPrefixOf (collapseChars tight V {} []) = false := by
  cases V with
  | nil => rfl
  | cons x V =>
    have hbl : isBlank x = false := hfirst x rfl
    rw [collapseChars_cons]
    by_cases hx : x = '/'
    · subst hx
      have hhead : V.head? ≠ some '*' := by
        intro h
        cases V with
        | nil => simp at h
        | cons y V =>
          obtain rfl : y = '*' := by simpa using h
          simp at hV
      have hstep : collapseStep tight (({} : CollapseState), ([] : List Char)) '/' = ({}, ['/']) := by
        simp [collapseStep, hbl]
      obtain ⟨W, hW, hW'⟩ := star_after_slash ht V {} rfl rfl (.inr hhead)
      rw [hstep, hW]
      cases W with
      | nil => rfl
      | cons y W =>
        have hy : y ≠ '*' := fun h => hW' (by simp [h])
        simp [List.isPrefixOf, Ne.symm hy]
    · obtain ⟨W, hW⟩ := collapseChars_extends tight V (collapseStep tight ({}, []) x).1
        (collapseStep tight ({}, []) x).2
      rw [hW, show (collapseStep tight ({}, []) x).2 = [x] by simp [collapseStep, hbl]]
      simp [List.isPrefixOf, Ne.symm hx]

end CssBundle.Css
