import Mathlib
import CssBundle.Bundle.Output

/-!
# Spreading rules over files by a selector budget

With a selector budget `b`, the minifier spreads the rules it reads over several files. This
module says what the spread is (`SelectorSplit`): every rule lands in exactly one file, each file
keeps the rules in their order, imports and charsets all stay in the first file, the other rules
come in their order across the files, no file after the first is empty, a file passes the budget
only when a single rule that counts selectors does, and a file is closed only when it counts
selectors and the next file's first rule would take it past the budget.

The splitter folds the rules into a state (`SplitState`) whose view `SplitState.parts` lists the
files. One step appends a rule to the first file (an import or a charset), to the last file, or
to a new last file; each keeps the spread and the count of the last file (`Inv.step`), so the
whole fold does (`selectorSplit_splitBySelectors`). When no import or charset comes after any
other rule, the files put together are the rules themselves.

Main statement: `minify_selector_split`.
-/

namespace CssBundle.Bundle

open Css

/-- The selectors a file counts against the budget: those of its rules that are neither imports
nor charsets. -/
def countedSelectors (P : List Rule) : Nat :=
  ((P.filter fun r => !isPinned r).map Rule.selectorCount).sum

def countingRules (P : List Rule) : List Rule :=
  P.filter fun r => !isPinned r && 0 < r.selectorCount

/-- Rules spread over files by a selector budget `b`, as the minifier promises it. -/
structure SelectorSplit (b : Nat) (rules : List Rule) (parts : List (List Rule)) : Prop where
  /-- There is a first file. -/
  nonempty : parts ≠ []
  /-- Files after the first are not empty and hold no import or charset. -/
  later : ∀ P ∈ parts.tail, P ≠ [] ∧ ∀ r ∈ P, isPinned r = false
  /-- Every rule is in exactly one file. -/
  perm : parts.flatten.Perm rules
  /-- Each file keeps its rules in their order. -/
  sublist : ∀ P ∈ parts, P.Sublist rules
  /-- The rules other than imports and charsets come in their order across the files. -/
  order : parts.flatten.filter (fun r => !isPinned r) = rules.filter fun r => !isPinned r
  /-- A file passes the budget only with a single rule that counts selectors. -/
  budget : ∀ P ∈ parts, countedSelectors P ≤ b ∨ (countingRules P).length = 1
  /-- A file is closed only when it counts selectors and the next file's first rule would take
  it past the budget. -/
  full : parts.IsChain fun Q R => 0 < countedSelectors Q ∧ ∀ r ∈ R.head?, b < countedSelectors Q + r.selectorCount

@[simp] theorem countedSelectors_nil : countedSelectors [] = 0 := rfl

theorem countedSelectors_append (P Q : List Rule) :
    countedSelectors (P ++ Q) = countedSelectors P + countedSelectors Q := by
  simp [countedSelectors, List.filter_append]

theorem countedSelectors_perm {P Q : List Rule} (h : P.Perm Q) :
    countedSelectors P = countedSelectors Q :=
  ((h.filter _).map _).sum_eq

theorem countedSelectors_pinned {r : Rule} (h : isPinned r = true) : countedSelectors [r] = 0 := by
  simp [countedSelectors, h]

theorem countedSelectors_counted {r : Rule} (h : isPinned r = false) :
    countedSelectors [r] = r.selectorCount := by
  simp [countedSelectors, h]

theorem countingRules_counted {r : Rule} (h : isPinned r = false) (hpos : 0 < r.selectorCount) :
    countingRules [r] = [r] := by
  simp [countingRules, h, hpos]

theorem countingRules_append (P Q : List Rule) :
    countingRules (P ++ Q) = countingRules P ++ countingRules Q := List.filter_append ..

theorem countingRules_eq_nil {P : List Rule} (h : countedSelectors P = 0) : countingRules P = [] := by
  rw [countingRules, List.filter_eq_nil_iff]
  intro r hr hcount
  simp only [Bool.and_eq_true, Bool.not_eq_true', decide_eq_true_eq] at hcount
  have hmem : r.selectorCount ∈ (P.filter fun r => !isPinned r).map Rule.selectorCount :=
    List.mem_map.mpr ⟨r, List.mem_filter.mpr ⟨hr, by simp [hcount.1]⟩, rfl⟩
  have := List.sum_eq_zero_iff.mp h _ hmem
  omega

/-! ## The files of a split state -/

namespace SplitState

def parts (st : SplitState) : List (List Rule) := st.first.reverse :: st.later.reverse.map List.reverse

theorem parts_ne_nil (st : SplitState) : st.parts ≠ [] := List.cons_ne_nil _ _

theorem parts_step_pinned (b : Nat) (st : SplitState) {r : Rule} (h : isPinned r = true) :
    (st.step b r).parts = (st.first.reverse ++ [r]) :: st.parts.tail ∧ (st.step b r).count = st.count := by
  simp [step, parts, h]

theorem parts_step_open (b : Nat) (st : SplitState) {r : Rule} (h : isPinned r = false)
    (hopen : 0 < st.count ∧ b < st.count + r.selectorCount) :
    (st.step b r).parts = st.parts ++ [[r]] ∧ (st.step b r).count = r.selectorCount := by
  simp [step, parts, h, hopen]

theorem parts_step_last (b : Nat) (st : SplitState) {r : Rule} (h : isPinned r = false)
    (hstay : ¬(0 < st.count ∧ b < st.count + r.selectorCount)) :
    ∃ init last, st.parts = init ++ [last] ∧ (st.step b r).parts = init ++ [last ++ [r]] ∧
      (st.step b r).count = st.count + r.selectorCount := by
  have hstep : st.step b r = { st.addToLast r with count := st.count + r.selectorCount } := by
    simp only [step, h, Bool.false_eq_true, if_false]
    rw [if_neg (by simpa using hstay)]
  rw [hstep]
  unfold addToLast
  cases hl : st.later with
  | nil => exact ⟨[], st.first.reverse, by simp [parts, hl], by simp [parts], rfl⟩
  | cons f fs =>
    refine ⟨st.first.reverse :: fs.reverse.map List.reverse, f.reverse, ?_, ?_, rfl⟩
    · simp [parts, hl]
    · simp [parts]

end SplitState

/-! ## One step keeps the spread -/

/-- What the fold keeps: the files spread the rules taken so far, and the count is the count of
the last file. -/
structure Inv (b : Nat) (rules : List Rule) (st : SplitState) : Prop where
  split : SelectorSplit b rules st.parts
  count : ∀ L ∈ st.parts.getLast?, st.count = countedSelectors L

section Steps

variable {b : Nat} {rules : List Rule} {r : Rule}

theorem SelectorSplit.append_first {P₀ : List Rule} {later : List (List Rule)}
    (h : SelectorSplit b rules (P₀ :: later)) (hr : isPinned r = true) :
    SelectorSplit b (rules ++ [r]) ((P₀ ++ [r]) :: later) := by
  have hsame : countedSelectors (P₀ ++ [r]) = countedSelectors P₀ := by
    rw [countedSelectors_append, countedSelectors_pinned hr, Nat.add_zero]
  have hrest : ∀ P ∈ later, P.Sublist rules := fun P hP => h.sublist P (List.mem_cons_of_mem _ hP)
  refine ⟨List.cons_ne_nil _ _, h.later, ?_, ?_, ?_, ?_, ?_⟩
  · have hp := h.perm
    simp only [List.flatten_cons] at hp ⊢
    rw [List.append_assoc]
    exact (List.perm_middle.trans (hp.cons r)).trans (List.perm_append_singleton r rules).symm
  · intro P hP
    rcases List.mem_cons.mp hP with rfl | hP
    · exact (h.sublist P₀ (by simp)).append (List.Sublist.refl [r])
    · exact (hrest P hP).trans (List.sublist_append_left rules [r])
  · have ho := h.order
    rw [List.flatten_cons, List.filter_append] at ho
    rw [List.flatten_cons, List.filter_append, List.filter_append, List.filter_append, ← ho]
    simp [hr]
  · intro P hP
    rcases List.mem_cons.mp hP with rfl | hP
    · rw [hsame, countingRules_append]
      simpa [countingRules, hr] using h.budget P₀ (by simp)
    · exact h.budget P (List.mem_cons_of_mem _ hP)
  · have hc := h.full
    rw [← List.singleton_append] at hc ⊢
    rw [List.isChain_append] at hc ⊢
    refine ⟨List.isChain_singleton _, hc.2.1, fun x hx y hy => ?_⟩
    obtain rfl : P₀ ++ [r] = x := by simpa using hx
    rw [hsame]
    exact hc.2.2 P₀ (by simp) y hy

/-- Opening a new file with a rule that would take the last file past the budget keeps the
spread. -/
theorem SelectorSplit.append_new {parts : List (List Rule)} (h : SelectorSplit b rules parts)
    (hr : isPinned r = false)
    (hfull : ∀ L ∈ parts.getLast?, 0 < countedSelectors L ∧ b < countedSelectors L + r.selectorCount) :
    SelectorSplit b (rules ++ [r]) (parts ++ [[r]]) := by
  obtain ⟨P₀, later, rfl⟩ := List.exists_cons_of_ne_nil h.nonempty
  refine ⟨by simp, ?_, ?_, ?_, ?_, ?_, ?_⟩
  · intro P hP
    rw [List.cons_append, List.tail_cons, List.mem_append, List.mem_singleton] at hP
    rcases hP with hP | rfl
    · exact h.later P hP
    · exact ⟨List.cons_ne_nil _ _, by simpa using hr⟩
  · rw [List.flatten_append, List.flatten_singleton]
    exact h.perm.append_right [r]
  · intro P hP
    rcases List.mem_append.mp hP with hP | hP
    · exact (h.sublist P hP).trans (List.sublist_append_left rules [r])
    · rw [List.mem_singleton.mp hP]
      exact List.singleton_sublist.mpr (by simp)
  · rw [List.flatten_append, List.filter_append, List.filter_append, h.order]
    simp
  · intro P hP
    rcases List.mem_append.mp hP with hP | hP
    · exact h.budget P hP
    · rw [List.mem_singleton.mp hP, countedSelectors_counted hr]
      by_cases hb : r.selectorCount ≤ b
      · exact .inl hb
      · right
        rw [countingRules_counted hr (by omega)]
        rfl
  · exact h.full.append (List.isChain_singleton _) fun x hx y hy => by
      obtain rfl : [r] = y := by simpa using hy
      exact ⟨(hfull x hx).1, by simpa using (hfull x hx).2⟩

/-- Appending a rule to the last file, when the file counted nothing or stays within the budget,
keeps the spread. -/
theorem SelectorSplit.append_last {init : List (List Rule)} {last : List Rule}
    (h : SelectorSplit b rules (init ++ [last])) (hr : isPinned r = false)
    (hstay : ¬(0 < countedSelectors last ∧ b < countedSelectors last + r.selectorCount)) :
    SelectorSplit b (rules ++ [r]) (init ++ [last ++ [r]]) := by
  have hcount : countedSelectors (last ++ [r]) = countedSelectors last + r.selectorCount := by
    rw [countedSelectors_append, countedSelectors_counted hr]
  have hhead : init ≠ [] → (last ++ [r]).head? = last.head? := by
    intro hinit
    obtain ⟨P₀, init', rfl⟩ := List.exists_cons_of_ne_nil hinit
    have hne := (h.later last (by simp)).1
    obtain ⟨x, xs, rfl⟩ := List.exists_cons_of_ne_nil hne
    rfl
  refine ⟨by simp, ?_, ?_, ?_, ?_, ?_, ?_⟩
  · intro P hP
    cases init with
    | nil => simp at hP
    | cons P₀ init' =>
      rw [List.cons_append, List.tail_cons, List.mem_append, List.mem_singleton] at hP
      rcases hP with hP | rfl
      · exact h.later P (by simp [hP])
      · obtain ⟨hne, hpin⟩ := h.later last (by simp)
        refine ⟨by simp, fun x hx => ?_⟩
        rcases List.mem_append.mp hx with hx | hx
        · exact hpin x hx
        · rw [List.mem_singleton.mp hx]
          exact hr
  · have hp := h.perm
    simp only [List.flatten_append, List.flatten_singleton] at hp ⊢
    rw [← List.append_assoc]
    exact hp.append_right [r]
  · intro P hP
    rcases List.mem_append.mp hP with hP | hP
    · exact (h.sublist P (by simp [hP])).trans (List.sublist_append_left rules [r])
    · rw [List.mem_singleton.mp hP]
      exact (h.sublist last (by simp)).append (List.Sublist.refl [r])
  · have ho := h.order
    simp only [List.flatten_append, List.flatten_singleton, List.filter_append] at ho ⊢
    rw [← List.append_assoc, ho]
  · intro P hP
    rcases List.mem_append.mp hP with hP | hP
    · exact h.budget P (by simp [hP])
    · rw [List.mem_singleton.mp hP, hcount]
      by_cases hb : countedSelectors last + r.selectorCount ≤ b
      · exact .inl hb
      · right
        have hzero : countedSelectors last = 0 := by omega
        rw [countingRules_append, countingRules_eq_nil hzero, countingRules_counted hr (by omega)]
        rfl
  · have hc := h.full
    rw [List.isChain_append] at hc ⊢
    refine ⟨hc.1, List.isChain_singleton _, fun x hx y hy => ?_⟩
    obtain rfl : last ++ [r] = y := by simpa using hy
    have hinit : init ≠ [] := by rintro rfl; simp at hx
    obtain ⟨h1, h2⟩ := hc.2.2 x hx last (by simp)
    exact ⟨h1, fun z hz => h2 z (by rw [← hhead hinit]; exact hz)⟩

end Steps

theorem Inv.step {b : Nat} {rules : List Rule} {st : SplitState} (h : Inv b rules st) (r : Rule) :
    Inv b (rules ++ [r]) (st.step b r) := by
  cases hr : isPinned r with
  | true =>
    obtain ⟨hparts, hcount⟩ := SplitState.parts_step_pinned b st hr
    have hsplit := h.split
    rw [SplitState.parts] at hsplit
    refine ⟨?_, ?_⟩
    · rw [hparts]
      exact hsplit.append_first hr
    · intro L hL
      rw [hcount]
      rw [hparts] at hL
      cases hl : st.later with
      | nil =>
        simp only [SplitState.parts, hl, List.reverse_nil, List.map_nil, List.tail_cons,
          List.getLast?_singleton, Option.mem_def, Option.some.injEq] at hL
        subst hL
        rw [countedSelectors_append, countedSelectors_pinned hr, Nat.add_zero]
        exact h.count _ (by simp [SplitState.parts, hl])
      | cons f fs =>
        apply h.count
        simpa [SplitState.parts, hl, List.getLast?_cons] using hL
  | false =>
    obtain ⟨L, hL⟩ : ∃ L, st.parts.getLast? = some L :=
      Option.isSome_iff_exists.mp (by simp [SplitState.parts])
    have hcountL := h.count L hL
    by_cases hopen : 0 < st.count ∧ b < st.count + r.selectorCount
    · obtain ⟨hparts, hcount⟩ := SplitState.parts_step_open b st hr hopen
      refine ⟨?_, ?_⟩
      · rw [hparts]
        exact h.split.append_new hr fun L' hL' => by
          obtain rfl : L = L' := by simpa [hL] using hL'
          rw [← hcountL]
          exact hopen
      · intro L' hL'
        rw [hparts] at hL'
        obtain rfl : [r] = L' := by simpa using hL'
        rw [hcount, countedSelectors_counted hr]
    · obtain ⟨init, last, hparts, hparts', hcount⟩ := SplitState.parts_step_last b st hr hopen
      obtain rfl : last = L := by simpa [hparts] using hL
      refine ⟨?_, ?_⟩
      · rw [hparts']
        have hsplit := h.split
        rw [hparts] at hsplit
        exact hsplit.append_last hr (by rwa [← hcountL])
      · intro L' hL'
        rw [hparts'] at hL'
        obtain rfl : last ++ [r] = L' := by simpa using hL'
        rw [hcount, hcountL, countedSelectors_append, countedSelectors_counted hr]

theorem Inv.foldl {b : Nat} {rules : List Rule} {st : SplitState} (h : Inv b rules st)
    (rest : List Rule) : Inv b (rules ++ rest) (rest.foldl (SplitState.step b) st) := by
  induction rest generalizing rules st with
  | nil => simpa using h
  | cons r rest ih =>
    rw [List.foldl_cons, List.append_cons]
    exact ih (h.step r)

theorem inv_empty (b : Nat) : Inv b [] {} := by
  refine ⟨⟨by simp [SplitState.parts], by simp [SplitState.parts], by simp [SplitState.parts],
    by simp [SplitState.parts], by simp [SplitState.parts], ?_, ?_⟩, ?_⟩
  · intro P hP
    simp only [SplitState.parts, List.reverse_nil, List.map_nil, List.mem_singleton] at hP
    subst hP
    exact .inl (by simp)
  · simp [SplitState.parts]
  · intro L hL
    simp only [SplitState.parts, List.reverse_nil, List.map_nil, List.getLast?_singleton,
      Option.mem_def, Option.some.injEq] at hL
    subst hL
    rfl

theorem selectorSplit_splitBySelectors (b : Nat) (rules : List Rule) :
    SelectorSplit b rules (splitBySelectors b rules) := by
  have h := (inv_empty b).foldl rules
  rw [List.nil_append] at h
  exact h.split

theorem SelectorSplit.mem_head_of_pinned {b : Nat} {rules : List Rule} {parts : List (List Rule)}
    (h : SelectorSplit b rules parts) {r : Rule} (hr : r ∈ rules) (hpin : isPinned r = true) :
    r ∈ parts.head h.nonempty := by
  obtain ⟨P₀, later, rfl⟩ := List.exists_cons_of_ne_nil h.nonempty
  obtain ⟨P, hP, hrP⟩ := List.mem_flatten.mp (h.perm.mem_iff.mpr hr)
  rcases List.mem_cons.mp hP with rfl | hP
  · exact hrP
  · have := (h.later P hP).2 r hrP
    simp [hpin] at this

/-! ## Files put together -/

theorem foldl_step_pinned (b : Nat) {pins : List Rule} (hpins : ∀ r ∈ pins, isPinned r = true)
    (st : SplitState) :
    pins.foldl (SplitState.step b) st = { st with first := pins.reverse ++ st.first } := by
  induction pins generalizing st with
  | nil => rfl
  | cons r pins ih =>
    rw [List.foldl_cons, ih (fun q hq => hpins q (List.mem_cons_of_mem r hq))]
    simp [SplitState.step, hpins r List.mem_cons_self]

theorem flatten_parts_step {b : Nat} (st : SplitState) {r : Rule} (hr : isPinned r = false) :
    (st.step b r).parts.flatten = st.parts.flatten ++ [r] := by
  by_cases hopen : 0 < st.count ∧ b < st.count + r.selectorCount
  · rw [(SplitState.parts_step_open b st hr hopen).1, List.flatten_append, List.flatten_singleton]
  · obtain ⟨init, last, hparts, hparts', -⟩ := SplitState.parts_step_last b st hr hopen
    rw [hparts, hparts']
    simp

theorem flatten_parts_foldl {b : Nat} {rest : List Rule} (hrest : ∀ r ∈ rest, isPinned r = false)
    (st : SplitState) : (rest.foldl (SplitState.step b) st).parts.flatten = st.parts.flatten ++ rest := by
  induction rest generalizing st with
  | nil => simp
  | cons r rest ih =>
    rw [List.foldl_cons, ih (fun q hq => hrest q (List.mem_cons_of_mem r hq)),
      flatten_parts_step st (hrest r List.mem_cons_self), List.append_assoc, List.singleton_append]

theorem flatten_splitBySelectors (b : Nat) {pins rest : List Rule}
    (hpins : ∀ r ∈ pins, isPinned r = true) (hrest : ∀ r ∈ rest, isPinned r = false) :
    (splitBySelectors b (pins ++ rest)).flatten = pins ++ rest := by
  show (((pins ++ rest).foldl (SplitState.step b) {}).parts).flatten = _
  rw [List.foldl_append, flatten_parts_foldl hrest, foldl_step_pinned b hpins]
  simp [SplitState.parts]

/-! ## The minifier under a selector budget -/

theorem minify_some {code : String} {n : Nat} {s : Stylesheet} (h : parse code mergedPath = .ok s) :
    minify code (some n) =
      .ok ((splitBySelectors (max n 1) s.rules).map fun P => String.join (P.map Rule.compressed)) := by
  simp [minify, h]

theorem join_compressed_parts (parts : List (List Rule)) :
    String.join (parts.map fun P => String.join (P.map Rule.compressed)) =
      String.join (parts.flatten.map Rule.compressed) := by
  induction parts with
  | nil => rfl
  | cons P parts ih => simp [ih, String.join_append]

/-- Under a selector budget `n`, the minifier writes one compressed text per file of a spread of
the rules by the budget `max n 1`; when imports and charsets all come first, the texts put
together are the compressed stylesheet. -/
theorem minify_selector_split (code : String) (n : Nat) {s : Stylesheet}
    (h : parse code mergedPath = .ok s) :
    ∃ parts, minify code (some n) = .ok (parts.map fun P => String.join (P.map Rule.compressed)) ∧
      SelectorSplit (max n 1) s.rules parts ∧
      ((∃ pins rest, s.rules = pins ++ rest ∧ (∀ r ∈ pins, isPinned r = true) ∧
          ∀ r ∈ rest, isPinned r = false) →
        String.join (parts.map fun P => String.join (P.map Rule.compressed)) = s.compressed) := by
  refine ⟨splitBySelectors (max n 1) s.rules, minify_some h, selectorSplit_splitBySelectors _ _, ?_⟩
  rintro ⟨pins, rest, hrules, hpins, hrest⟩
  rw [join_compressed_parts, Stylesheet.compressed, hrules, flatten_splitBySelectors _ hpins hrest]

/-- With a budget of one selector, `@import x;.a{}.b{}` is written as the two files
`@import x;.a{}` and `.b{}`. -/
theorem minify_selector_split_sample :
    let sp : Nat → Nat → Span := fun a b => ⟨mergedPath, ⟨⟨a, 0, a⟩, ⟨b, 0, b⟩⟩⟩
    let s : Stylesheet := ⟨mergedPath,
      [.atRule "import" "x" none (sp 0 10), .style ".a" [] (sp 10 14), .style ".b" [] (sp 14 18)]⟩
    parse "@import x;.a\x7b\x7d.b\x7b\x7d" mergedPath = .ok s ∧
      minify "@import x;.a\x7b\x7d.b\x7b\x7d" (some 1) = .ok ["@import x;.a\x7b\x7d", ".b\x7b\x7d"] ∧
      ∃ parts, minify "@import x;.a\x7b\x7d.b\x7b\x7d" (some 1) =
          .ok (parts.map fun P => String.join (P.map Rule.compressed)) ∧
        SelectorSplit (max 1 1) s.rules parts ∧
        ((∃ pins rest, s.rules = pins ++ rest ∧ (∀ r ∈ pins, isPinned r = true) ∧
            ∀ r ∈ rest, isPinned r = false) →
          String.join (parts.map fun P => String.join (P.map Rule.compressed)) = s.compressed) := by
  intro sp s
  have hparse : parse "@import x;.a\x7b\x7d.b\x7b\x7d" mergedPath = .ok s := by
    cbv
  exact ⟨hparse, by cbv, minify_selector_split _ 1 hparse⟩

/-- An import or a charset whose block holds selectors does not count against the budget, but it
is a rule with selectors: with a budget of one selector, the rules of `@import x{.a{}}.b,.c{}`
cannot be spread so that each file stays within the budget or has a single rule with selectors. -/
theorem minify_pinned_selectors_over_budget :
    let sp : Nat → Nat → Span := fun a b => ⟨mergedPath, ⟨⟨a, 0, a⟩, ⟨b, 0, b⟩⟩⟩
    let s : Stylesheet := ⟨mergedPath,
      [.atRule "import" "x" (some [.rule (.style ".a" [] (sp 10 14))]) (sp 0 15),
        .style ".b,.c" [] (sp 15 22)]⟩
    parse "@import x\x7b.a\x7b\x7d\x7d.b,.c\x7b\x7d" mergedPath = .ok s ∧
      minify "@import x\x7b.a\x7b\x7d\x7d.b,.c\x7b\x7d" (some 1) = .ok [s.compressed] ∧
      ¬∃ parts : List (List Rule),
        minify "@import x\x7b.a\x7b\x7d\x7d.b,.c\x7b\x7d" (some 1) =
          .ok (parts.map fun P => String.join (P.map Rule.compressed)) ∧
        parts.flatten.Perm s.rules ∧
        ∀ P ∈ parts, countedSelectors P ≤ max 1 1 ∨ (P.filter fun r => 0 < r.selectorCount).length = 1 := by
  intro sp s
  have hparse : parse "@import x\x7b.a\x7b\x7d\x7d.b,.c\x7b\x7d" mergedPath = .ok s := by
    cbv
  have hsplit : splitBySelectors (max 1 1) s.rules = [s.rules] := by
    cbv
  have hmin := minify_some (n := 1) hparse
  rw [hsplit] at hmin
  refine ⟨hparse, hmin, ?_⟩
  rintro ⟨parts, hparts, hperm, hbudget⟩
  obtain ⟨P, rfl⟩ : ∃ P, parts = [P] := by
    rw [hmin, Except.ok.injEq] at hparts
    have hlen := congrArg List.length hparts
    simp only [List.length_map, List.length_singleton] at hlen
    exact List.length_eq_one_iff.mp hlen.symm
  rw [List.flatten_singleton] at hperm
  have hcount : countedSelectors P = 2 := by
    rw [countedSelectors_perm hperm]
    cbv
  have hwith : (P.filter fun r => 0 < r.selectorCount).length = 2 := by
    rw [(hperm.filter _).length_eq]
    cbv
  rcases hbudget P List.mem_cons_self with h | h <;> omega

end CssBundle.Bundle
