import Mathlib
import CssBundle.Bundle.Plugin

/-!
# Stripping comments twice

The `strip-comments` plugin scans a text once, left to right, in one of two states: outside
strings, or inside a string opened by a quote (which the same quote or a line feed closes, and in
which a backslash takes the next character with it). Outside strings a `/*` opens a comment that
runs to the next `*/`; the comment is dropped, or kept whole when it starts with `/*!` and
`preserveImportant` is set. Everything else is kept.

`scanStep` is one step of that scan, and `Strips` the whole scan as a relation between a text and
what is kept of it; `removeComments` computes it (`removeComments_iff_strips`).

Scanning the result again keeps it as it is, with one exception. A dropped comment joins the text
on its two sides, so a `/` kept outside strings right before it and a `*` kept right after it
become a new `/*` (`Joins`): `//**/*x*/` strips to `/*x*/`, which strips to nothing. Without such a
join the second scan meets the kept text in the states the first scan kept it in, step for step.

Main statement: `removeComments_again`, that stripping again changes nothing when no comment was
dropped between a `/` and a `*`; such a drop needs the text `//*` (`JoinsFrom.slash_slash_star`).
-/

namespace CssBundle.Bundle.Plugin

/-! ## One step of the scan -/

/-- One step of the comment scan in quote state `quote`, with `c :: rest` in front of it: the
characters it keeps, the quote state after it, and the text after it; `none` when `c` opens a
comment that never closes. -/
def scanStep (keep : Bool) (quote : Option Char) (c : Char) (rest : List Char) :
    Option (List Char × Option Char × List Char) :=
  match quote with
  | some q =>
    if c == '\\' then
      match rest with
      | d :: rest' => some ([c, d], quote, rest')
      | [] => some ([c], quote, [])
    else some ([c], if c == q || c == '\n' then none else quote, rest)
  | none =>
    if c == '"' || c == '\'' then some ([c], some c, rest)
    else if c == '/' && rest.head? == some '*' then
      (splitAtClose (rest.drop 1)).map fun (body, after) =>
        (if keep && body.head? == some '!' then '/' :: '*' :: body ++ ['*', '/'] else [], none, after)
    else some ([c], none, rest)

theorem splitAtClose_eq {l body after : List Char} (h : splitAtClose l = some (body, after)) :
    l = body ++ '*' :: '/' :: after := by
  induction l using splitAtClose.induct generalizing body after with
  | case1 => cases h
  | case2 rest =>
    simp only [splitAtClose, Option.some.injEq, Prod.mk.injEq] at h
    obtain ⟨rfl, rfl⟩ := h
    rfl
  | case3 c rest hc ih =>
    rw [splitAtClose.eq_3 c rest hc] at h
    obtain ⟨⟨body', after'⟩, hrest, hb⟩ := Option.map_eq_some_iff.mp h
    simp only [Prod.mk.injEq] at hb
    obtain ⟨rfl, rfl⟩ := hb
    rw [ih hrest]
    rfl

/-- The end of a comment is found in its own text: whatever follows its `*/`, the same body
closes there. -/
theorem splitAtClose_append {l body after : List Char} (h : splitAtClose l = some (body, after))
    (x : List Char) : splitAtClose (body ++ '*' :: '/' :: x) = some (body, x) := by
  induction l using splitAtClose.induct generalizing body after with
  | case1 => cases h
  | case2 rest =>
    simp only [splitAtClose, Option.some.injEq, Prod.mk.injEq] at h
    obtain ⟨rfl, rfl⟩ := h
    rfl
  | case3 c rest hc ih =>
    rw [splitAtClose.eq_3 c rest hc] at h
    obtain ⟨⟨body', after'⟩, hrest, hb⟩ := Option.map_eq_some_iff.mp h
    simp only [Prod.mk.injEq] at hb
    obtain ⟨rfl, rfl⟩ := hb
    have hc' : ∀ more, c = '*' → body' ++ '*' :: '/' :: x = '/' :: more → False := by
      intro more h1 h2
      cases body' with
      | nil => cases h2
      | cons y ys =>
        obtain ⟨rfl, -⟩ := List.cons.inj h2
        exact hc (ys ++ '*' :: '/' :: after') h1 (by rw [splitAtClose_eq hrest]; rfl)
    rw [List.cons_append, splitAtClose.eq_3 c _ hc', ih hrest]
    rfl

/-- A step inside a string keeps what it reads: a backslash with the character after it, or one
character, which closes the string when it is the quote or a line feed. -/
theorem scanStep_some {keep : Bool} {q c : Char} {rest kept rest' : List Char} {q' : Option Char}
    (h : scanStep keep (some q) c rest = some (kept, q', rest')) :
    q' = (if c = '\\' then some q else if c = q ∨ c = '\n' then none else some q) ∧
      kept ++ rest' = c :: rest ∧ kept ≠ [] := by
  unfold scanStep at h
  by_cases hc : c = '\\'
  · subst hc
    cases rest with
    | nil =>
      simp only [beq_self_eq_true, ↓reduceIte, Option.some.injEq, Prod.mk.injEq] at h
      obtain ⟨rfl, rfl, rfl⟩ := h
      simp
    | cons d rest =>
      simp only [beq_self_eq_true, ↓reduceIte, Option.some.injEq, Prod.mk.injEq] at h
      obtain ⟨rfl, rfl, rfl⟩ := h
      simp
  · have hc' : (c == '\\') = false := by simpa using hc
    simp only [hc', Bool.false_eq_true, ↓reduceIte, Option.some.injEq, Prod.mk.injEq] at h
    obtain ⟨rfl, rfl, rfl⟩ := h
    simp [hc]

/-- A step outside strings opens a string at a quote, drops or keeps a comment that closes, or
keeps one character that does neither. -/
theorem scanStep_none {keep : Bool} {c : Char} {rest kept rest' : List Char} {q' : Option Char}
    (h : scanStep keep none c rest = some (kept, q', rest')) :
    ((c = '"' ∨ c = '\'') ∧ kept = [c] ∧ q' = some c ∧ rest' = rest) ∨
    (c = '/' ∧ ∃ body, rest = '*' :: body ++ '*' :: '/' :: rest' ∧
      splitAtClose (rest.drop 1) = some (body, rest') ∧ q' = none ∧
      kept = if keep && body.head? == some '!' then '/' :: '*' :: body ++ ['*', '/'] else []) ∨
    (c ≠ '"' ∧ c ≠ '\'' ∧ (c = '/' → rest.head? ≠ some '*') ∧ kept = [c] ∧ q' = none ∧
      rest' = rest) := by
  unfold scanStep at h
  by_cases hq : c = '"' ∨ c = '\''
  · have hq' : (c == '"' || c == '\'') = true := by simpa using hq
    simp only [hq', ↓reduceIte, Option.some.injEq, Prod.mk.injEq] at h
    obtain ⟨rfl, rfl, rfl⟩ := h
    exact .inl ⟨hq, rfl, rfl, rfl⟩
  have hq' : (c == '"' || c == '\'') = false := by simpa using hq
  simp only [hq', Bool.false_eq_true, ↓reduceIte] at h
  by_cases hcm : c = '/' ∧ rest.head? = some '*'
  · obtain ⟨rfl, hhead⟩ := hcm
    simp only [hhead, beq_self_eq_true, Bool.and_self, ↓reduceIte] at h
    obtain ⟨⟨body, after⟩, hsplit, hb⟩ := Option.map_eq_some_iff.mp h
    simp only [Prod.mk.injEq] at hb
    obtain ⟨rfl, rfl, rfl⟩ := hb
    refine .inr (.inl ⟨rfl, body, ?_, hsplit, rfl, rfl⟩)
    cases rest with
    | nil => cases hhead
    | cons y ys =>
      obtain rfl : y = '*' := by simpa using hhead
      simp only [List.drop_succ_cons, List.drop_zero] at hsplit
      rw [splitAtClose_eq hsplit]
      rfl
  · have hcm' : (c == '/' && rest.head? == some '*') = false := by
      simpa [Bool.and_eq_true] using hcm
    simp only [hcm', Bool.false_eq_true, ↓reduceIte, Option.some.injEq, Prod.mk.injEq] at h
    obtain ⟨rfl, rfl, rfl⟩ := h
    simp only [not_or] at hq
    exact .inr (.inr ⟨hq.1, hq.2, fun h1 h2 => hcm ⟨h1, h2⟩, rfl, rfl, rfl⟩)

/-- Every step moves on: what is left after it is a suffix of what followed its first
character. -/
theorem suffix_of_scanStep {keep : Bool} {q q' : Option Char} {c : Char} {rest kept rest' : List Char}
    (h : scanStep keep q c rest = some (kept, q', rest')) : rest' <:+ rest := by
  cases q with
  | some q =>
    obtain ⟨-, hcat, hne⟩ := scanStep_some h
    cases kept with
    | nil => exact absurd rfl hne
    | cons k ks =>
      simp only [List.cons_append, List.cons.injEq] at hcat
      exact ⟨ks, hcat.2⟩
  | none =>
    rcases scanStep_none h with ⟨-, -, -, rfl⟩ | ⟨-, body, hrest, -⟩ | ⟨-, -, -, -, -, rfl⟩
    · exact List.suffix_refl _
    · exact ⟨'*' :: body ++ ['*', '/'], by rw [hrest]; simp⟩
    · exact List.suffix_refl _

theorem length_le_of_scanStep {keep : Bool} {q q' : Option Char} {c : Char} {rest kept rest' : List Char}
    (h : scanStep keep q c rest = some (kept, q', rest')) : rest'.length ≤ rest.length :=
  (suffix_of_scanStep h).length_le

/-! ## The whole scan -/

/-- The comment scan from quote state `q` reads all of `text` and keeps `out`. -/
inductive Strips (keep : Bool) : Option Char → List Char → List Char → Prop
  | nil (q : Option Char) : Strips keep q [] []
  | step {q q' : Option Char} {c : Char} {rest kept rest' out : List Char} :
      scanStep keep q c rest = some (kept, q', rest') → Strips keep q' rest' out →
      Strips keep q (c :: rest) (kept ++ out)

theorem removeComments_go_step {keep : Bool} (css : String) (fuel offset : Nat) (acc : List Char)
    {c : Char} {rest kept rest' : List Char} {q q' : Option Char}
    (h : scanStep keep q c rest = some (kept, q', rest')) :
    ∃ offset', removeComments.go keep css (fuel + 1) (c :: rest) offset q acc =
      removeComments.go keep css fuel rest' offset' q' (kept.reverse ++ acc) := by
  cases q with
  | some q =>
    unfold scanStep at h
    by_cases hc : c = '\\'
    · subst hc
      cases rest with
      | nil =>
        simp only [beq_self_eq_true, ↓reduceIte, Option.some.injEq, Prod.mk.injEq] at h
        obtain ⟨rfl, rfl, rfl⟩ := h
        exact ⟨offset + 1, by simp [removeComments.go]⟩
      | cons d rest =>
        simp only [beq_self_eq_true, ↓reduceIte, Option.some.injEq, Prod.mk.injEq] at h
        obtain ⟨rfl, rfl, rfl⟩ := h
        exact ⟨offset + 1 + d.utf8Size, by simp [removeComments.go]⟩
    · have hc' : (c == '\\') = false := by simpa using hc
      simp only [hc', Bool.false_eq_true, ↓reduceIte, Option.some.injEq, Prod.mk.injEq] at h
      obtain ⟨rfl, rfl, rfl⟩ := h
      exact ⟨offset + c.utf8Size, by simp [removeComments.go, hc']⟩
  | none =>
    unfold scanStep at h
    by_cases hq : (c == '"' || c == '\'') = true
    · simp only [hq, ↓reduceIte, Option.some.injEq, Prod.mk.injEq] at h
      obtain ⟨rfl, rfl, rfl⟩ := h
      exact ⟨offset + 1, by simp [removeComments.go, hq]⟩
    rw [Bool.not_eq_true] at hq
    simp only [hq, Bool.false_eq_true, ↓reduceIte] at h
    by_cases hcm : (c == '/' && rest.head? == some '*') = true
    · simp only [hcm, ↓reduceIte] at h
      obtain ⟨⟨body, after⟩, hsplit, hb⟩ := Option.map_eq_some_iff.mp h
      simp only [Prod.mk.injEq] at hb
      obtain ⟨rfl, rfl, rfl⟩ := hb
      refine ⟨offset + Text.byteLength ('/' :: '*' :: body ++ ['*', '/']), ?_⟩
      simp only [removeComments.go, hq, hcm, hsplit, Bool.false_eq_true, ↓reduceIte]
      split <;> simp
    · rw [Bool.not_eq_true] at hcm
      simp only [hcm, Bool.false_eq_true, ↓reduceIte, Option.some.injEq, Prod.mk.injEq] at h
      obtain ⟨rfl, rfl, rfl⟩ := h
      exact ⟨offset + c.utf8Size, by simp [removeComments.go, hq, hcm]⟩

theorem removeComments_go_unclosed {keep : Bool} (css : String) (fuel offset : Nat) (acc : List Char)
    {c : Char} {rest : List Char} {q : Option Char} (h : scanStep keep q c rest = none) :
    ∃ e, removeComments.go keep css (fuel + 1) (c :: rest) offset q acc = .error e := by
  cases q with
  | some q =>
    cases rest <;> by_cases hc : c = '\\' <;> simp [scanStep, hc] at h
  | none =>
    unfold scanStep at h
    by_cases hq : (c == '"' || c == '\'') = true
    · simp [hq] at h
    rw [Bool.not_eq_true] at hq
    by_cases hcm : (c == '/' && rest.head? == some '*') = true
    · simp only [hq, hcm, Bool.false_eq_true, ↓reduceIte, Option.map_eq_none_iff,
        List.drop_one] at h
      simp [removeComments.go, hq, hcm, h]
    · rw [Bool.not_eq_true] at hcm
      simp [hq, hcm] at h

/-- With more steps than characters, the scan succeeds exactly when it reads the whole text, and
then it gives what it kept. -/
theorem removeComments_go_ok {keep : Bool} {css : String} :
    ∀ {fuel offset : Nat} {text acc r : List Char} {q : Option Char}, text.length < fuel →
      removeComments.go keep css fuel text offset q acc = .ok r →
        ∃ out, r = acc.reverse ++ out ∧ Strips keep q text out
  | 0, _, _, _, _, _, hf, _ => absurd hf (Nat.not_lt_zero _)
  | fuel + 1, offset, [], acc, r, q, _, h => by
    simp only [removeComments.go, Except.ok.injEq] at h
    exact ⟨[], by simp [h], .nil q⟩
  | fuel + 1, offset, c :: rest, acc, r, q, hf, h => by
    rcases hs : scanStep keep q c rest with _ | ⟨kept, q', rest'⟩
    · obtain ⟨e, he⟩ := removeComments_go_unclosed css fuel offset acc hs
      rw [he] at h
      cases h
    · obtain ⟨offset', hgo⟩ := removeComments_go_step css fuel offset acc hs
      have hlen := length_le_of_scanStep hs
      rw [hgo] at h
      obtain ⟨out, rfl, hout⟩ := removeComments_go_ok (by simp at hf; omega) h
      exact ⟨kept ++ out, by simp, .step hs hout⟩

theorem Strips.removeComments_go {keep : Bool} {css : String} {q : Option Char}
    {text out : List Char} (h : Strips keep q text out) :
    ∀ {fuel offset : Nat} {acc : List Char}, text.length < fuel →
      removeComments.go keep css fuel text offset q acc = .ok (acc.reverse ++ out) := by
  induction h with
  | nil q =>
    intro fuel offset acc hf
    obtain ⟨f, rfl⟩ := Nat.exists_eq_add_of_lt hf
    simp [removeComments.go]
  | @step q q' c rest kept rest' out hs _ ih =>
    intro fuel offset acc hf
    cases fuel with
    | zero => exact absurd hf (Nat.not_lt_zero _)
    | succ fuel =>
      obtain ⟨offset', hgo⟩ := removeComments_go_step css fuel offset acc hs
      have hlen := length_le_of_scanStep hs
      rw [hgo, ih (by simp at hf; omega)]
      simp

/-- Stripping comments succeeds with `out` exactly when the scan reads the whole text and keeps
`out`. -/
theorem removeComments_iff_strips {keep : Bool} {css out : String} :
    removeComments keep css = .ok out ↔ Strips keep none css.toList out.toList := by
  unfold removeComments
  constructor
  · intro h
    rcases hgo : removeComments.go keep css (css.length + 1) css.toList 0 none [] with e | r <;>
      rw [hgo] at h <;> simp only [Except.map, Except.ok.injEq, reduceCtorEq] at h
    obtain ⟨o, rfl, ho⟩ := removeComments_go_ok (by rw [String.length_toList]; omega) hgo
    subst h
    simpa using ho
  · intro h
    rw [h.removeComments_go (by rw [String.length_toList]; omega)]
    simp [Except.map, String.ofList_toList]

/-! ## Scanning what was kept -/

/-- The scan from quote state `q` over `text` reaches a `/` outside strings that opens no comment,
and what it keeps of the text after that `/` starts with `*`: a dropped comment stood between
them, and the two meet in the result. -/
inductive JoinsFrom (keep : Bool) : Option Char → List Char → Prop
  | here {post out : List Char} : post.head? ≠ some '*' → Strips keep none post out →
      out.head? = some '*' → JoinsFrom keep none ('/' :: post)
  | later {q q' : Option Char} {c : Char} {rest kept rest' : List Char} :
      scanStep keep q c rest = some (kept, q', rest') → JoinsFrom keep q' rest' →
      JoinsFrom keep q (c :: rest)

/-- Stripping the comments of `css` drops a comment between a `/` it keeps outside strings and a
`*` it keeps next. -/
def Joins (keep : Bool) (css : String) : Prop := JoinsFrom keep none css.toList

theorem comment_of_strips_star {keep : Bool} {post out : List Char} (h : Strips keep none post out)
    (hpost : post.head? ≠ some '*') (hout : out.head? = some '*') :
    ∃ more, post = '/' :: '*' :: more := by
  cases h with
  | nil => cases hout
  | @step _ q' c rest kept rest' out' hs _ =>
    rcases scanStep_none hs with ⟨hq, rfl, -, -⟩ | ⟨rfl, body, hrest, -⟩ | ⟨-, -, -, rfl, -, -⟩
    · simp only [List.cons_append, List.head?_cons, Option.some.injEq] at hout
      rcases hq with rfl | rfl <;> cases hout
    · exact ⟨_, by rw [hrest]; rfl⟩
    · exact absurd hout (by simpa using hpost)

theorem JoinsFrom.slash_slash_star {keep : Bool} {q : Option Char} {text : List Char}
    (h : JoinsFrom keep q text) : ['/', '/', '*'] <:+: text := by
  induction h with
  | @here post out hpost hs hout =>
    obtain ⟨more, rfl⟩ := comment_of_strips_star hs hpost hout
    exact ⟨[], more, rfl⟩
  | @later q q' c rest kept rest' hs _ ih =>
    exact ih.trans (((suffix_of_scanStep hs).trans (List.suffix_cons c rest)).isInfix)

/-- A step keeps characters that the same step takes again when they stand in front of the scan,
followed by any text: the scan is in the same state, and a kept comment closes at the same `*/`.
Two steps depend on what follows: a kept `/` outside strings needs a text after it that does not
start with `*`, and a backslash that ended the text needs nothing after it. -/
theorem scanStep_reread {keep : Bool} {q q' : Option Char} {c : Char} {rest kept rest' : List Char}
    (h : scanStep keep q c rest = some (kept, q', rest')) (hne : kept ≠ []) {after : List Char}
    (hslash : q = none → kept = ['/'] → after.head? ≠ some '*')
    (hlast : rest' = [] → after = []) :
    ∃ x xs, kept = x :: xs ∧ scanStep keep q x (xs ++ after) = some (kept, q', after) := by
  cases q with
  | some q =>
    obtain ⟨hq', -, -⟩ := scanStep_some h
    subst hq'
    by_cases hc : c = '\\'
    · subst hc
      unfold scanStep at h
      cases rest with
      | nil =>
        simp only [beq_self_eq_true, ↓reduceIte, Option.some.injEq, Prod.mk.injEq] at h
        obtain ⟨rfl, -, rfl⟩ := h
        obtain rfl := hlast rfl
        exact ⟨_, _, rfl, by simp [scanStep]⟩
      | cons d rest =>
        simp only [beq_self_eq_true, ↓reduceIte, Option.some.injEq, Prod.mk.injEq] at h
        obtain ⟨rfl, -, rfl⟩ := h
        exact ⟨_, _, rfl, by simp [scanStep]⟩
    · unfold scanStep at h
      have hc' : (c == '\\') = false := by simpa using hc
      simp only [hc', Bool.false_eq_true, ↓reduceIte, Option.some.injEq, Prod.mk.injEq] at h
      obtain ⟨rfl, -, rfl⟩ := h
      exact ⟨_, _, rfl, by simp [scanStep, hc, hc']⟩
  | none =>
    rcases scanStep_none h with ⟨hq, rfl, rfl, rfl⟩ | ⟨rfl, body, hrest, hsplit, rfl, rfl⟩ |
      ⟨hq1, hq2, hcm, rfl, rfl, rfl⟩
    · refine ⟨c, [], rfl, ?_⟩
      have hq' : (c == '"' || c == '\'') = true := by simpa using hq
      simp [scanStep, hq']
    · by_cases hkeep : (keep && body.head? == some '!') = true
      · rw [if_pos hkeep]
        refine ⟨'/', '*' :: body ++ ['*', '/'], rfl, ?_⟩
        have hsplit' : splitAtClose (body ++ '*' :: '/' :: after) = some (body, after) := by
          rw [hrest] at hsplit
          exact splitAtClose_append hsplit after
        have hkeep' : keep = true ∧ body.head? = some '!' := by simpa using hkeep
        simp [scanStep, hsplit', hkeep']
      · rw [if_neg hkeep] at hne
        exact absurd rfl hne
    · refine ⟨c, [], rfl, ?_⟩
      have hq' : (c == '"' || c == '\'') = false := by simpa using ⟨hq1, hq2⟩
      have hcm' : (c == '/' && after.head? == some '*') = false := by
        by_cases hc : c = '/'
        · simpa [hc] using hslash rfl (by rw [hc])
        · simp [hc]
      simp [scanStep, hq', hcm']

/-- What the scan keeps, scanned again from the same state, is kept whole, unless a dropped
comment joined a kept `/` to a kept `*`. -/
theorem Strips.again {keep : Bool} {q : Option Char} {text out : List Char}
    (h : Strips keep q text out) (hj : ¬ JoinsFrom keep q text) : Strips keep q out out := by
  induction h with
  | nil q => exact .nil q
  | @step q q' c rest kept rest' out hs hout ih =>
    have hrest : Strips keep q' out out := ih fun hj' => hj (.later hs hj')
    by_cases hne : kept = []
    · subst hne
      cases q with
      | some q => exact absurd rfl (scanStep_some hs).2.2
      | none =>
        rcases scanStep_none hs with ⟨-, h1, -⟩ | ⟨-, -, -, -, rfl, -⟩ | ⟨-, -, -, h1, -⟩
        · cases h1
        · exact hrest
        · cases h1
    · have hslash : q = none → kept = ['/'] → out.head? ≠ some '*' := by
        rintro rfl rfl hstar
        rcases scanStep_none hs with ⟨hq, h1, -⟩ | ⟨-, body, -, -, -, h1⟩ |
          ⟨-, -, hcm, h1, rfl, rfl⟩
        · have hc := (List.cons.inj h1).1
          subst hc
          simp at hq
        · split at h1 <;> simp at h1
        · have hc := (List.cons.inj h1).1
          subst hc
          exact hj (.here (hcm rfl) hout hstar)
      have hlast : rest' = [] → out = [] := by
        rintro rfl
        cases hout
        rfl
      obtain ⟨x, xs, hkept, hstep⟩ := scanStep_reread hs hne hslash hlast
      have hnext := Strips.step hstep hrest
      rwa [← List.cons_append, ← hkept] at hnext

/-! ## Stripping twice -/

/-- Stripping comments from what stripping comments gave keeps it as it is, for either setting of
`preserveImportant`, unless the first stripping dropped a comment between a `/` it kept outside
strings and a `*` it kept next. -/
theorem removeComments_again {keep : Bool} {css out : String} (h : removeComments keep css = .ok out)
    (hj : ¬ Joins keep css) : removeComments keep out = .ok out :=
  removeComments_iff_strips.mpr ((removeComments_iff_strips.mp h).again hj)

/-- A `/` kept before a dropped comment and a `*` kept after it meet as a new comment. -/
example :
    removeComments false "//**/*x*/" = .ok "/*x*/" ∧ removeComments false "/*x*/" = .ok "" := by
  constructor <;> rfl

/-- `a/*!k*/b/*x*/c` has no `//*`, so no join: with `preserveImportant` it strips to `a/*!k*/bc`,
which stays as it is. -/
theorem removeComments_again_sample :
    removeComments true "a/*!k*/b/*x*/c" = .ok "a/*!k*/bc" ∧ ¬ Joins true "a/*!k*/b/*x*/c" ∧
      removeComments true "a/*!k*/bc" = .ok "a/*!k*/bc" := by
  have h : removeComments true "a/*!k*/b/*x*/c" = .ok "a/*!k*/bc" := by rfl
  have hj : ¬ Joins true "a/*!k*/b/*x*/c" := fun hj =>
    absurd (JoinsFrom.slash_slash_star hj) (by decide)
  exact ⟨h, hj, removeComments_again h hj⟩

end CssBundle.Bundle.Plugin
