import Mathlib
import CssBundle.Proofs.ParsedReadable

/-!
# Reading printed rules through

The printed text of readable rules is read again without an error, even where it is not read
back as the same rules. A declaration value, or the prelude of an at-rule without a block, that
ends in a backslash takes the printer's `;` after it; the scan then goes on into the entries or
rules printed after it, and stops where one of them ends: at the `;` after one of their texts, at
the `{` of a printed block, at the closing brace of the enclosing block, or at the end of the
text. What is read there is a declaration, a nested style rule or an at-rule made of several
printed entries, and the reader goes on after it as it would have.

The scanner's way through printed text is `ScanOutcome`: through the printed entries of a block
(`EntriesText`) and through printed top-level rules (`SheetText`) it ends in one of those places,
with text of the same kind after it (`Continues`). The readers are then followed by fuel, as in
`CssBundle.Css.reads_back`, each one reading on into text of the kind it was given.

Main statement: `parse_render_ok`, the rendering of readable rules that does not begin with a byte
order mark is read without an error.
-/

namespace CssBundle.Css

open Text Cursor Scanner Rule

/-! ## The machine through printed rules -/

theorem isPlainChar_of_isNameChar {x : Char} (h : isNameChar x = true) : isPlainChar x = true := by
  by_contra hx
  have hmem : x ∈ ['\\', '"', '\'', '/', '*', '(', ')', '[', ']', '{', ';', '}'] := by
    simp only [isPlainChar, isStop, Bool.not_eq_true, Bool.not_eq_false', Bool.or_eq_true,
      decide_eq_true_eq] at hx
    simp only [List.mem_cons, List.not_mem_nil, or_false]
    tauto
  have hspecial : ∀ y ∈ ['\\', '"', '\'', '/', '*', '(', ')', '[', ']', '{', ';', '}'],
      isNameChar y = false := by simp [isNameChar, Text.isAlphanumeric]
  rw [hspecial x hmem] at h
  exact Bool.false_ne_true h

/-- Inside a comment, a text holding no `*/` and the closing `*/` after it leave the machine
between constructs again. -/
theorem feed_inComment {st : List Char} :
    ∀ {text : List Char} {s : Scanner}, ¬ ['*', '/'] <:+: text → InComment s st (text ++ ['*', '/']) →
      s.feed (text ++ ['*', '/']) = some (.plain st)
  | [], s, _, hs => by
    rcases hs with rfl | ⟨rfl, -⟩ <;> simp [step]
  | y :: text, s, ht, hs => by
    have ht' : ¬ ['*', '/'] <:+: text := fun h => ht (h.trans (List.suffix_cons y text).isInfix)
    have hnext : y = '*' → (text ++ ['*', '/']).head? ≠ some '/' := by
      rintro rfl hhead
      cases text with
      | nil => simp at hhead
      | cons z text =>
        simp only [List.cons_append, List.head?_cons, Option.some.injEq] at hhead
        exact ht ⟨[], text, by simp [hhead]⟩
    have hstep : s.step y = some (if y = '*' then .commentStar st else .comment st) := by
      rcases hs with rfl | ⟨rfl, hslash⟩
      · rfl
      · have hy : y ≠ '/' := fun h => hslash (by simp [h])
        simp [step, hy]
    rw [List.cons_append, feed_cons, hstep, Option.bind_some]
    refine feed_inComment ht' ?_
    by_cases hy : y = '*'
    · exact .inr ⟨by simp [hy], hnext hy⟩
    · exact .inl (by simp [hy])

theorem feed_comment {st : List Char} {text : List Char} (ht : ¬ ['*', '/'] <:+: text) :
    (Scanner.plain st).feed ('/' :: '*' :: text ++ ['*', '/']) = some (.plain st) := by
  have hslash : (Scanner.plain st).step '/' = some (.slash st) := by
    simp [step, plainStep, isStop, afterPlain]
  rw [List.cons_append, feed_cons, hslash, Option.bind_some, List.cons_append, feed_cons]
  exact feed_inComment ht (.inl rfl)

theorem step_escape_of_settled {st : List Char} (hs : (Scanner.escape st).settled = true) (x : Char) :
    (Scanner.escape st).step x = some (.plain []) := by
  cases st with
  | nil => rfl
  | cons _ _ => simp [settled] at hs

/-- After a text scanned to a settled end, the printer's `;` stops the machine, or a backslash
before it takes it and leaves the machine between constructs. -/
theorem semicolon_of_settledAfter {X : List Char} (hX : settledAfter X = true) :
    (∃ s, (Scanner.plain []).feed X = some s ∧ s.step ';' = none) ∨
      (Scanner.plain []).feed (X ++ [';']) = some (.plain []) := by
  obtain ⟨s, hs, hset⟩ := settledAfter_iff.mp hX
  by_cases hesc : ∃ st, s = .escape st
  · obtain ⟨st, rfl⟩ := hesc
    refine .inr ?_
    rw [feed_append, hs, Option.bind_some, feed_cons, step_escape_of_settled hset]
    rfl
  · exact .inl ⟨s, hs, step_eq_none_of_settled hset (fun st h => hesc ⟨st, h⟩) rfl⟩

/-- The head of a printed at-rule, its `@`, name and the blanks before its prelude, leaves the
machine between constructs. -/
theorem feed_atHead {N ws : List Char} (hN : ∀ x ∈ N, isNameChar x = true)
    (hws : ∀ x ∈ ws, isBlank x = true) : (Scanner.plain []).feed ('@' :: N ++ ws) = some (.plain []) := by
  have hplain : ∀ x ∈ '@' :: N ++ ws, isPlainChar x = true := by
    intro x hx
    rcases List.mem_append.mp hx with hx | hx
    · rcases List.mem_cons.mp hx with rfl | hx
      · decide
      · exact isPlainChar_of_isNameChar (hN x hx)
    · exact isPlainChar_of_isBlank (hws x hx)
  rw [feed_of_isPlainChar rfl hplain (by simp)]
  rfl

/-! ## Where a scan through printed text ends -/

/-- Where a scan stops that started from between constructs, with what is left of the text from
the stop on: at the end of the text, at a `;` with text of kind `K` after it, at a `}` that
starts text of kind `K`, or at the `{` of a printed block of readable entries with text of kind
`K` after that block. -/
def Stopped (K : List Char → Prop) (stop : Option Char) (rest : List Char) : Prop :=
  (stop = none ∧ rest = [] ∧ K []) ∨ (stop = some ';' ∧ ∃ R, rest = ';' :: R ∧ K R) ∨
    (stop = some '}' ∧ (∃ R, rest = '}' :: R) ∧ K rest) ∨
    (stop = some '{' ∧ ∃ depth body R, readable.readableItems body = true ∧
      rest = braced depth (chars.itemsChars depth body) ++ R ∧ K R)

/-- How the machine, from between constructs, goes through a text: to a settled end, or to a
stop the text continues from as `Stopped` says. -/
def ScanOutcome (K : List Char → Prop) (T : List Char) : Prop :=
  (∃ s, (Scanner.plain []).feed T = some s ∧ s.settled = true ∧ Stopped K none []) ∨
    ∃ U x R s, T = U ++ x :: R ∧ (Scanner.plain []).feed U = some s ∧ s.step x = none ∧
      Stopped K (some x) (x :: R)

def Continues (K : List Char → Prop) : Prop := ∀ T, K T → ScanOutcome K T

theorem ScanOutcome.prepend {K : List Char → Prop} {X T : List Char}
    (hX : (Scanner.plain []).feed X = some (.plain [])) (h : ScanOutcome K T) : ScanOutcome K (X ++ T) := by
  rcases h with ⟨s, hs, hset, hstop⟩ | ⟨U, x, R, s, rfl, hU, hx, hstop⟩
  · exact .inl ⟨s, by rw [feed_append, hX, Option.bind_some, hs], hset, hstop⟩
  · exact .inr ⟨X ++ U, x, R, s, by simp, by rw [feed_append, hX, Option.bind_some, hU], hx, hstop⟩

/-- A text the machine stops after at `{`, then a printed block of readable entries and text of
kind `K`: the machine stops at that `{`. -/
theorem ScanOutcome.block {K : List Char → Prop} {X R : List Char} {depth : Nat} {body : List Item}
    (hX : stopsAfter X '{' = true) (hbody : readable.readableItems body = true) (hR : K R) :
    ScanOutcome K (X ++ braced depth (chars.itemsChars depth body) ++ R) := by
  obtain ⟨s, hs, hstop⟩ := stopsAfter_iff.mp hX
  obtain ⟨B, hB⟩ := braced_eq_cons depth (chars.itemsChars depth body)
  exact .inr ⟨X, '{', B ++ R, s, by rw [hB]; simp, hs, hstop,
    .inr (.inr (.inr ⟨rfl, depth, body, R, hbody, by rw [hB]; simp, hR⟩))⟩

/-- A text scanned to a settled end, then the printer's `;` and text of kind `K`: the machine
stops at that `;`, or a backslash takes it and the machine goes on into the text after it. -/
theorem ScanOutcome.semicolon {K : List Char → Prop} {X R : List Char} (hX : settledAfter X = true)
    (hR : K R) (hnext : ScanOutcome K R) : ScanOutcome K (X ++ ';' :: R) := by
  rcases semicolon_of_settledAfter hX with ⟨s, hs, hx⟩ | hXs
  · exact .inr ⟨X, ';', R, s, rfl, hs, hx, .inr (.inl ⟨rfl, R, rfl, hR⟩)⟩
  · simpa using hnext.prepend hXs

/-- The machine through the printed text of a readable rule, then text of kind `K`: it stops at
the `{` of the rule's block or at the `;` that ends it, or it goes through the rule, a comment or
an at-rule whose `;` a backslash took, and on into the text after it. -/
theorem ScanOutcome.rule {K : List Char → Prop} {r : Rule} (hr : r.readable = true) (depth : Nat)
    {R : List Char} (hR : K R) (hnext : ScanOutcome K R) : ScanOutcome K (r.chars depth ++ R) := by
  cases r with
  | style selector body span =>
    simp only [Rule.readable, Bool.and_eq_true] at hr
    have h : ScanOutcome K ((selector.toList ++ [' ']) ++ braced depth (chars.itemsChars depth body) ++ R) :=
      ScanOutcome.block hr.1.2 hr.2 hR
    simpa [Rule.chars] using h
  | atRule name prelude body span =>
    obtain ⟨ws, hws, -, hchars⟩ := chars_atRule name prelude body span depth
    have hN : ∀ x ∈ name.toList, isNameChar x = true := by
      cases body <;> simp only [Rule.readable, Bool.and_eq_true, List.all_eq_true] at hr
      · exact hr.1.1.2
      · exact hr.1.1.1.2
    rw [hchars]
    cases body with
    | some items =>
      simp only [Rule.readable, Bool.and_eq_true] at hr
      have h : ScanOutcome K ((prelude.toList ++ [' ']) ++ braced depth (chars.itemsChars depth items) ++ R) :=
        ScanOutcome.block hr.1.2 hr.2 hR
      simpa using h.prepend (feed_atHead hN hws)
    | none =>
      simp only [Rule.readable, Bool.and_eq_true] at hr
      simpa using (ScanOutcome.semicolon hr.2 hR hnext).prepend (feed_atHead hN hws)
  | comment text span =>
    have ht : ¬ ['*', '/'] <:+: text.toList := by simpa [Rule.readable] using hr
    simpa [Rule.chars] using hnext.prepend (feed_comment ht)

/-- The printed entries of a block whose rule stands at `depth`, from one of them on: blanks,
readable entries, blanks and the block's closing brace, then `more`. -/
def EntriesText (depth : Nat) (more T : List Char) : Prop :=
  ∃ ws items ws', (∀ x ∈ ws, isBlank x = true) ∧ readable.readableItems items = true ∧
    (∀ x ∈ ws', isBlank x = true) ∧ T = ws ++ chars.itemsChars depth items ++ ws' ++ '}' :: more

def SheetText (T : List Char) : Prop :=
  ∃ ws rules, (∀ x ∈ ws, isBlank x = true) ∧ (∀ r ∈ rules, r.readable = true) ∧ T = ws ++ sheetChars rules

theorem entriesText_closing (depth : Nat) (more : List Char) : EntriesText depth more ('}' :: more) :=
  ⟨[], [], [], by simp, rfl, by simp, by simp [chars.itemsChars]⟩

theorem entriesText_next {depth : Nat} {more ws' : List Char} {items : List Item}
    (hp : readable.readableItems items = true) (hws' : ∀ x ∈ ws', isBlank x = true) :
    EntriesText depth more ('\n' :: chars.itemsChars depth items ++ ws' ++ '}' :: more) :=
  ⟨['\n'], items, ws', by simp [isBlank_newline], hp, hws', by simp⟩

theorem feed_blank_append {ws T : List Char} (hws : ∀ x ∈ ws, isBlank x = true) :
    (Scanner.plain []).feed (ws ++ T) = (Scanner.plain []).feed T := by
  rw [feed_append, feed_plain_of_isBlank hws, Option.bind_some]

/-- The machine goes through the printed entries of a block, from between constructs, to the `;`
after one of their texts, to the `{` of a printed block, or to the block's closing brace. -/
theorem continues_entries (depth : Nat) (more : List Char) : Continues (EntriesText depth more) := by
  rintro T ⟨ws, items, ws', hws, hp, hws', rfl⟩
  induction items generalizing ws with
  | nil =>
    refine .inr ⟨ws ++ ws', '}', more, .plain [], by simp [chars.itemsChars], ?_, rfl,
      .inr (.inr (.inl ⟨rfl, ⟨more, rfl⟩, entriesText_closing depth more⟩))⟩
    rw [feed_blank_append hws, feed_plain_of_isBlank hws']
  | cons i items ih =>
    rw [readableItems_cons, Bool.and_eq_true] at hp
    have hind := feed_plain_of_isBlank (blank_append_indent hws (depth + 1)) []
    have hK : EntriesText depth more ('\n' :: chars.itemsChars depth items ++ ws' ++ '}' :: more) :=
      entriesText_next hp.2 hws'
    have hnext := ih ['\n'] (by simp [isBlank_newline]) hp.2
    cases i with
    | decl property value span =>
      have hi : settledAfter (property.toList ++ ':' :: ' ' :: value.toList) = true := by
        simp only [readable.readableItems, Bool.and_eq_true] at hp
        exact hp.1.1.2
      simpa [chars.itemsChars] using (ScanOutcome.semicolon hi hK hnext).prepend hind
    | rule r =>
      have hr : r.readable = true := by simpa [readableItems_rule] using hp.1
      simpa [chars.itemsChars] using (ScanOutcome.rule hr (depth + 1) hK hnext).prepend hind

theorem sheetText_rest {rules : List Rule} (hr : ∀ r ∈ rules, r.readable = true) {sep : List Char}
    (hsep : ∀ x ∈ sep, isBlank x = true) : SheetText (sep ++ sheetChars rules) :=
  ⟨sep, rules, hsep, hr, rfl⟩

/-- The machine goes through printed top-level rules, from between constructs, to the `;` that
ends a statement, to the `{` of a printed block, or to the end of the text with nothing open. -/
theorem continues_sheet : Continues SheetText := by
  rintro T ⟨ws, rules, hws, hr, rfl⟩
  induction rules generalizing ws with
  | nil =>
    refine .inl ⟨.plain [], ?_, rfl, .inl ⟨rfl, rfl, [], [], by simp, by simp, rfl⟩⟩
    simp [sheetChars, feed_plain_of_isBlank hws]
  | cons r rules ih =>
    obtain ⟨sep, hsep, hsheet⟩ := sheetChars_cons r rules
    have hrest : ∀ r' ∈ rules, r'.readable = true := fun r' h => hr r' (by simp [h])
    have h := (ScanOutcome.rule (hr r (by simp)) 0 (sheetText_rest hrest hsep) (ih sep hsep hrest)).prepend
      (feed_plain_of_isBlank hws [])
    rw [hsheet]
    simpa using h

/-! ## The scan at a cursor -/

/-- After a text the machine goes through back to where it started, a scan goes on as
`ScanOutcome` says; it reads that text, and leaves what `Stopped` says. -/
theorem scanUntil_after {K : List Char → Prop} {c : Cursor} {X T : List Char}
    (hX : (Scanner.plain []).feed X = some (.plain [])) (h : ScanOutcome K T) (hc : c.rest = X ++ T) :
    ∃ stop d, scanUntil c = .ok (stop, d) ∧ X <+: textTo c d ∧ c.rest = textTo c d ++ d.rest ∧
      Stopped K stop d.rest := by
  rcases h with ⟨s, hs, hset, hstop⟩ | ⟨U, x, R, s, rfl, hU, hx, hstop⟩
  · have hfeed : (Scanner.plain []).feed c.rest = some s := by rw [hc, feed_append, hX, Option.bind_some, hs]
    refine ⟨none, _, scanUntil_of_settled hfeed hset, ?_, ?_, ?_⟩
    · rw [textTo_iterate_bump c le_rfl, List.take_length, hc]
      exact List.prefix_append X T
    · rw [textTo_iterate_bump c le_rfl, rest_iterate_bump, List.take_append_drop]
    · rw [rest_iterate_bump, List.drop_length]
      exact hstop
  · have hc' : c.rest = (X ++ U) ++ x :: R := by rw [hc, List.append_assoc]
    have hfeed : (Scanner.plain []).feed (X ++ U) = some s := by rw [feed_append, hX, Option.bind_some, hU]
    have hlen : (X ++ U).length ≤ c.rest.length := by simp [hc']
    refine ⟨some x, _, scanUntil_of_feed hc' hfeed hx, ?_, ?_, ?_⟩
    · rw [textTo_iterate_bump c hlen, hc', List.take_left' rfl]
      exact List.prefix_append X U
    · rw [textTo_iterate_bump c hlen, rest_iterate_bump, List.take_append_drop]
    · rw [rest_iterate_bump, hc', List.drop_left' rfl]
      exact hstop

/-- A text scanned to a settled end, the printer's `;` after it, then text of kind `K`: the scan
stops at that `;`, or, when a backslash took it, goes on as `K` says. Either way it reads the text
whole. -/
theorem scanUntil_semicolon {K : List Char → Prop} (hK : Continues K) {c : Cursor} {X R : List Char}
    (hX : settledAfter X = true) (hR : K R) (hc : c.rest = X ++ ';' :: R) :
    ∃ stop d, scanUntil c = .ok (stop, d) ∧ X <+: textTo c d ∧ c.rest = textTo c d ++ d.rest ∧
      Stopped K stop d.rest := by
  rcases semicolon_of_settledAfter hX with ⟨s, hs, hx⟩ | hXs
  · have hlen : X.length ≤ c.rest.length := by simp [hc]
    refine ⟨some ';', _, scanUntil_of_feed hc hs hx, ?_, ?_, ?_⟩
    · rw [textTo_iterate_bump c hlen, hc, List.take_left' rfl]
    · rw [textTo_iterate_bump c hlen, rest_iterate_bump, List.take_append_drop]
    · rw [rest_iterate_bump, hc, List.drop_left' rfl]
      exact .inr (.inl ⟨rfl, R, rfl, hR⟩)
  · obtain ⟨stop, d, hscan, hpre, htext, hstop⟩ :=
      scanUntil_after hXs (hK R hR) (by rw [hc]; simp)
    exact ⟨stop, d, hscan, (List.prefix_append X [';']).trans hpre, htext, hstop⟩

theorem splitDeclaration_isSome {P W : List Char} (hP : P ≠ []) (hPt : isTrimmed P = true)
    (hcolon : ':' ∉ P) : (splitDeclaration (P ++ ':' :: W)).isSome = true := by
  have hP' : P.takeWhile (fun x => decide (x ≠ ':')) = P :=
    List.takeWhile_eq_self_iff.mpr fun x hx => by
      simp only [ne_eq, decide_eq_true_eq]
      rintro rfl
      exact hcolon hx
  have hbefore : (P ++ ':' :: W).takeWhile (fun x => decide (x ≠ ':')) = P := by
    rw [List.takeWhile_append, hP', if_pos rfl]
    simp
  have htrimP : trimChars ([] ++ P ++ []) = P := trimChars_of_isTrimmed hPt (by simp) (by simp)
  simp only [List.nil_append, List.append_nil] at htrimP
  simp only [splitDeclaration, hbefore, htrimP]
  rw [if_neg (show ¬P.length = (P ++ ':' :: W).length by simp)]
  simp [hP]

/-! ## The readers, by fuel -/

section Fuel

variable (source : String)

/-- With `f` fuel, `readBlock` reads a printed block of readable entries up to and with its
closing brace. -/
def BlocksOk (f : Nat) : Prop :=
  ∀ (c : Cursor) (depth : Nat) (items : List Item) (more : List Char),
    readable.readableItems items = true →
    c.rest = braced depth (chars.itemsChars depth items) ++ more → 3 * c.rest.length ≤ f + 1 →
    ∃ items' e, readBlock source f c = .ok (items', e) ∧ e.rest = more

/-- With `f` fuel, `readItems` reads printed entries up to and with the closing brace of their
block. -/
def EntriesOk (f : Nat) : Prop :=
  ∀ (o : Location) (c : Cursor) (depth : Nat) (acc : List Item) (more : List Char),
    EntriesText depth more c.rest → 3 * c.rest.length + 1 ≤ f →
    ∃ items e, readItems source f o c acc = .ok (items, e) ∧ e.rest = more

/-- With `f` fuel, `readAtRule` reads a printed readable at-rule, and stops where text of the kind
after it goes on. -/
def AtRulesOk (f : Nat) : Prop :=
  ∀ (K : List Char → Prop), Continues K → ∀ (c : Cursor) (depth : Nat) (name prelude : String)
    (body : Option (List Item)) (span : Span) (R : List Char),
    (Rule.atRule name prelude body span).readable = true → K R →
    c.rest = (Rule.atRule name prelude body span).chars depth ++ R → 3 * c.rest.length ≤ f →
    ∃ r e, readAtRule source f c = .ok (r, e) ∧ K e.rest ∧ e.rest.length < c.rest.length

/-- With `f` fuel, `readItem` reads a printed declaration, and stops where text of the kind after
it goes on. -/
def DeclsOk (f : Nat) : Prop :=
  ∀ (K : List Char → Prop), Continues K → ∀ (c : Cursor) (P V R : List Char),
    P ≠ [] → isTrimmed P = true → ':' ∉ P → settledAfter (P ++ ':' :: ' ' :: V) = true → K R →
    c.rest = P ++ ':' :: ' ' :: V ++ ';' :: R → 3 * c.rest.length ≤ f →
    ∃ i e, readItem source f c = .ok (i, e) ∧ K e.rest ∧ e.rest.length < c.rest.length

/-- With `f` fuel, `readItem` reads a printed readable style rule nested in a block. -/
def NestedOk (f : Nat) : Prop :=
  ∀ (c : Cursor) (depth : Nat) (selector : String) (body : List Item) (span : Span)
    (R : List Char), (Rule.style selector body span).readable = true →
    c.rest = dropBlank (selector.toList ++ [' ']) ++ braced depth (chars.itemsChars depth body) ++ R →
    3 * c.rest.length ≤ f →
    ∃ i e, readItem source f c = .ok (i, e) ∧ e.rest = R

theorem readBlock_of_stopped {f : Nat} (hbl : BlocksOk source f) {K : List Char → Prop} {d : Cursor}
    (hs : Stopped K (some '{') d.rest) (hf : 3 * d.rest.length ≤ f + 1) :
    ∃ body e, readBlock source f d = .ok (body, e) ∧ K e.rest ∧ e.rest.length < d.rest.length := by
  obtain ⟨depth, body, R, hbody, hd, hR⟩ : ∃ depth body R, readable.readableItems body = true ∧
      d.rest = braced depth (chars.itemsChars depth body) ++ R ∧ K R := by
    rcases hs with ⟨h, -⟩ | ⟨h, -⟩ | ⟨h, -⟩ | ⟨-, h⟩ <;> first | exact h | simp at h
  obtain ⟨items', e, hread, he⟩ := hbl d depth body R hbody hd hf
  obtain ⟨B, hB⟩ := braced_eq_cons depth (chars.itemsChars depth body)
  exact ⟨items', e, hread, he ▸ hR, by rw [he, hd, hB]; simp⟩

theorem BlocksOk.succ {f : Nat} (hit : EntriesOk source f) : BlocksOk source (f + 1) := by
  intro c depth items more hp hc hf
  obtain ⟨B, hB⟩ := braced_eq_cons depth (chars.itemsChars depth items)
  have hlen : c.bump.rest.length + 1 = c.rest.length := by simp [rest_bump, hc, hB]
  rw [readBlock]
  by_cases hnil : items = []
  · subst hnil
    have hrest : c.bump.rest = '}' :: more := by simp [rest_bump, hc, braced, chars.itemsChars]
    exact hit c.here c.bump depth [] more (hrest ▸ entriesText_closing depth more) (by omega)
  · have hinner : chars.itemsChars depth items ≠ [] := fun h => hnil (itemsChars_eq_nil.mp h)
    have hrest : c.bump.rest = ['\n'] ++ chars.itemsChars depth items ++ indentChars depth ++ '}' :: more := by
      simp [rest_bump, hc, braced, hinner]
    exact hit c.here c.bump depth [] more ⟨['\n'], items, indentChars depth, by simp [isBlank_newline], hp,
      by simp [indentChars, isBlank_space], hrest⟩ (by omega)

theorem EntriesOk.succ {f : Nat} (hat : AtRulesOk source f) (hdecl : DeclsOk source f)
    (hst : NestedOk source f) (hit : EntriesOk source f) : EntriesOk source (f + 1) := by
  intro o c depth acc more hT hf
  have hnext : ∀ (i : Item) (e : Cursor), EntriesText depth more e.rest → e.rest.length < c.rest.length →
      ∃ items e', readItems source f o e (i :: acc) = .ok (items, e') ∧ e'.rest = more :=
    fun i e he hlt => hit o e depth (i :: acc) more he (by omega)
  have hskip := length_skipBlank_le c
  obtain ⟨ws, items, ws', hws, hp, hws', hc⟩ := hT
  cases items with
  | nil =>
    have hrest : c.skipBlank.rest = '}' :: more := by
      rw [rest_skipBlank, hc, chars.itemsChars, List.append_nil, dropBlank_append_cons (by decide),
        dropBlank_eq_nil fun x hx => (List.mem_append.mp hx).elim (hws x) (hws' x)]
      rfl
    rw [readItems_close source hrest]
    exact ⟨_, _, rfl, by simp [rest_bump, hrest]⟩
  | cons it items =>
    rw [readableItems_cons, Bool.and_eq_true] at hp
    set more' := '\n' :: chars.itemsChars depth items ++ ws' ++ '}' :: more with hmore'
    have hK : EntriesText depth more more' := entriesText_next hp.2 hws'
    have hsub : 3 * c.skipBlank.rest.length ≤ f := by omega
    cases it with
    | decl property value span =>
      have hP : property.toList ≠ [] ∧ isTrimmed property.toList = true ∧
          opensPlain property.toList = true ∧ ':' ∉ property.toList ∧
          settledAfter (property.toList ++ ':' :: ' ' :: value.toList) = true := by
        simp_all [readable.readableItems]
      obtain ⟨x, P, hx⟩ := List.exists_cons_of_ne_nil hP.1
      have hrest : c.skipBlank.rest = property.toList ++ ':' :: ' ' :: value.toList ++ ';' :: more' :=
        skipBlank_entries_decl hws hP.1 hP.2.1 hc
      obtain ⟨hclose, hsemi, hat', hcm⟩ := first_of_opensPlain
        (show c.skipBlank.rest = (x :: P) ++ (':' :: ' ' :: value.toList ++ ';' :: more') by
          rw [hrest, hx]; simp)
        (by rw [← hx]; exact hP.2.2.1) (by simp)
        (isStop_head_of_settledAfter (show settledAfter (x :: (P ++ ':' :: ' ' :: value.toList)) = true by
          rw [← List.cons_append, ← hx]; exact hP.2.2.2.2))
      obtain ⟨i, e, hread, he, hlt⟩ := hdecl _ (continues_entries depth more) c.skipBlank
        property.toList value.toList more' hP.1 hP.2.1 hP.2.2.2.1 hP.2.2.2.2 hK hrest hsub
      rw [readItems_plain source (by rw [hrest, hx]; rfl) hclose hsemi hat' hcm, hread]
      exact hnext i e he (by omega)
    | rule r =>
      have hr : r.readable = true := by simpa [readableItems_rule] using hp.1
      have hrest : c.skipBlank.rest = dropBlank (r.chars (depth + 1)) ++ more' := skipBlank_entries_rule hws hc
      have hlen' : more'.length < c.rest.length := by
        have := List.length_pos_of_ne_nil (dropBlank_chars_ne_nil r (depth + 1))
        have hlen : c.skipBlank.rest.length = (dropBlank (r.chars (depth + 1))).length + more'.length := by
          rw [hrest, List.length_append]
        omega
      cases r with
      | style selector body span =>
        have hp' := hr
        simp only [Rule.readable, Bool.and_eq_true] at hp'
        obtain ⟨⟨⟨hS, hop⟩, hstop⟩, -⟩ := hp'
        obtain ⟨B, hB⟩ := braced_eq_cons (depth + 1) (chars.itemsChars (depth + 1) body)
        have hsel : c.skipBlank.rest = dropBlank (selector.toList ++ [' ']) ++
            braced (depth + 1) (chars.itemsChars (depth + 1) body) ++ more' := by
          rw [hrest, dropBlank_chars_style]
        obtain ⟨x, rest, hx, hclose, hsemi, hatx, hcm⟩ := first_of_selector hS hop hstop
          (show c.skipBlank.rest = dropBlank (selector.toList ++ [' ']) ++ '{' :: (B ++ more') by
            rw [hsel, hB]; simp)
        obtain ⟨i, e, hread, he⟩ := hst c.skipBlank (depth + 1) selector body span more' hr hsel hsub
        rw [readItems_plain source hx hclose hsemi hatx hcm, hread]
        exact hnext i e (he ▸ hK) (he ▸ hlen')
      | atRule name prelude body span =>
        obtain ⟨R, hR⟩ := chars_atRule_cons name prelude body span (depth + 1)
        have hrest' : c.skipBlank.rest = (Rule.atRule name prelude body span).chars (depth + 1) ++ more' := by
          rw [hrest, dropBlank_of_head (by rw [hR]; exact fun x hx => by cases hx; decide)]
        obtain ⟨r', e, hread, he, hlt⟩ := hat _ (continues_entries depth more) c.skipBlank (depth + 1)
          name prelude body span more' hr hK hrest' hsub
        rw [readItems_at source (show c.skipBlank.rest = '@' :: (R ++ more') by rw [hrest', hR]; rfl),
          hread]
        exact hnext _ e he (by omega)
      | comment text span =>
        have hrest' : c.skipBlank.rest = '/' :: '*' :: text.toList ++ '*' :: '/' :: more' := by
          rw [hrest, dropBlank_of_head (by simp [Rule.chars]; decide)]
          simp [Rule.chars]
        obtain ⟨span', e, hread, he⟩ :=
          readComment_of_closed source (by simpa [Rule.readable] using hr) hrest'
        rw [readItems_comment source hrest', hread]
        exact hnext _ e (he ▸ hK) (he ▸ hlen')

theorem NestedOk.succ {f : Nat} (hbl : BlocksOk source f) : NestedOk source (f + 1) := by
  intro c depth selector body span R hr hc hf
  simp only [Rule.readable, Bool.and_eq_true] at hr
  obtain ⟨⟨⟨hS, -⟩, hstop⟩, hbody⟩ := hr
  obtain ⟨B, hB⟩ := braced_eq_cons depth (chars.itemsChars depth body)
  obtain ⟨d, hscan, hd, -⟩ := scanUntil_selector hS hstop
    (show c.rest = dropBlank (selector.toList ++ [' ']) ++ '{' :: (B ++ R) by rw [hc, hB]; simp)
  have hdlen : d.rest.length ≤ c.rest.length := by simp [hc, hd, hB]
  obtain ⟨body', e, hread, he⟩ := hbl d depth body R hbody (by rw [hd, hB]; rfl) (by omega)
  rw [readItem]
  simp only [hscan, if_true, hread]
  exact ⟨_, e, rfl, he⟩

theorem DeclsOk.succ {f : Nat} (hbl : BlocksOk source f) : DeclsOk source (f + 1) := by
  intro K hK c P V R hP hPt hcolon hset hR hc hf
  obtain ⟨stop, d, hscan, ⟨W, hW⟩, htext, hstop⟩ := scanUntil_semicolon hK hset hR
    hc
  obtain ⟨⟨p, v⟩, hpv⟩ : ∃ pv, splitDeclaration (textTo c d) = some pv := by
    refine Option.isSome_iff_exists.mp ?_
    rw [← hW, List.append_assoc, List.cons_append]
    exact splitDeclaration_isSome hP hPt hcolon
  have hdlen : d.rest.length < c.rest.length := by
    rw [htext, ← hW]
    simp only [List.length_append, List.length_cons]
    omega
  obtain ⟨rfl, hd, hK'⟩ | ⟨rfl, R', hd, hK'⟩ | ⟨rfl, -, hK'⟩ | ⟨rfl, -⟩ := id hstop
  · refine ⟨.decl p v (spanFrom source c.here d), d, ?_, hd ▸ hK', hdlen⟩
    rw [readItem]
    simp [hscan, hpv]
  · refine ⟨.decl p v (spanFrom source c.here d), d.bump, ?_, by rw [rest_bump, hd]; exact hK', ?_⟩
    · rw [readItem]
      simp [hscan, hpv]
    · rw [hd, List.length_cons] at hdlen
      rw [rest_bump, hd, List.tail_cons]
      omega
  · refine ⟨.decl p v (spanFrom source c.here d), d, ?_, hK', hdlen⟩
    rw [readItem]
    simp [hscan, hpv]
  · obtain ⟨body, e, hread, he, hlt⟩ := readBlock_of_stopped source hbl hstop (by omega)
    refine ⟨.rule (.style (String.ofList (trimChars (textTo c d))) body (spanFrom source c.here e)), e, ?_,
      he, by omega⟩
    rw [readItem]
    simp [hscan, hread]

theorem AtRulesOk.succ {f : Nat} (hbl : BlocksOk source f) : AtRulesOk source (f + 1) := by
  intro K hK c depth name prelude body span R hr hR hc hf
  obtain ⟨hN, hNc, hQ⟩ : name.toList ≠ [] ∧ (∀ x ∈ name.toList, isNameChar x = true) ∧
      isTrimmed prelude.toList = true := by
    cases body <;> simp_all [Rule.readable]
  obtain ⟨ws, hws, htake, hname, hafterName, hlen⟩ := atRule_name_read hNc hc
  rw [readAtRule]
  simp only [htake, foldl_range_bump, hname]
  rw [if_neg (by simpa using hN)]
  cases body with
  | none =>
    have hset : settledAfter (ws ++ prelude.toList) = true := by
      have h : settledAfter prelude.toList = true := by simp_all [Rule.readable]
      rw [settledAfter, feed_blank_append hws]
      exact h
    obtain ⟨stop, d, hscan, -, htext, hstop⟩ := scanUntil_semicolon hK hset hR
      (show (bump^[name.toList.length] c.bump).rest = (ws ++ prelude.toList) ++ ';' :: R by
        rw [hafterName]; simp)
    have hdlen : d.rest.length < c.rest.length := by
      have : d.rest.length ≤ (bump^[name.toList.length] c.bump).rest.length := by
        rw [htext, List.length_append]
        omega
      omega
    rw [hscan]
    obtain ⟨rfl, hd, hK'⟩ | ⟨rfl, R', hd, hK'⟩ | ⟨rfl, -, hK'⟩ | ⟨rfl, -⟩ := id hstop
    · exact ⟨_, d, rfl, hd ▸ hK', hdlen⟩
    · refine ⟨_, d.bump, rfl, by rw [rest_bump, hd]; exact hK', ?_⟩
      rw [hd, List.length_cons] at hdlen
      rw [rest_bump, hd, List.tail_cons]
      omega
    · exact ⟨_, d, rfl, hK', hdlen⟩
    · obtain ⟨body', e, hread, he, hlt⟩ := readBlock_of_stopped source hbl hstop (by omega)
      exact ⟨_, e, by simp [hread]; rfl, he, by omega⟩
  | some items =>
    have hp' : stopsAfter (prelude.toList ++ [' ']) '{' = true ∧ readable.readableItems items = true := by
      simp_all [Rule.readable]
    have hstop : stopsAfter (ws ++ (prelude.toList ++ [' '])) '{' = true := by
      rw [stopsAfter_blank_append hws]
      exact hp'.1
    obtain ⟨B, hB⟩ := braced_eq_cons depth (chars.itemsChars depth items)
    obtain ⟨d, hscan, hd, -⟩ :=
      scanUntil_of_stopsAfter hstop
        (show (bump^[name.toList.length] c.bump).rest = ws ++ (prelude.toList ++ [' ']) ++ '{' :: (B ++ R) by
          rw [hafterName]; simp [hB])
    have hdlen : d.rest.length < c.rest.length := by
      have : d.rest.length ≤ (bump^[name.toList.length] c.bump).rest.length := by
        rw [hd, hafterName]
        simp [hB]
        omega
      omega
    obtain ⟨body', e, hread, he⟩ := hbl d depth items R hp'.2 (by rw [hd, hB]; rfl) (by omega)
    have helen : e.rest.length < c.rest.length := by
      have : e.rest.length < d.rest.length := by simp [he, hd]
      omega
    rw [hscan]
    exact ⟨_, e, by simp [hread]; rfl, he ▸ hR, helen⟩

theorem readers_ok (f : Nat) :
    AtRulesOk source f ∧ BlocksOk source f ∧ EntriesOk source f ∧ DeclsOk source f ∧
      NestedOk source f := by
  induction f with
  | zero =>
    refine ⟨fun K _ c depth name prelude body span R _ _ hc hf => ?_,
      fun c depth items more _ hc hf => ?_, fun _ _ _ _ _ _ hf => absurd hf (by omega),
      fun K _ c P V R _ _ _ _ _ hc hf => ?_, fun c depth selector body span R _ hc hf => ?_⟩
    · obtain ⟨R', hR'⟩ := chars_atRule_cons name prelude body span depth
      simp [hc, hR'] at hf
    · obtain ⟨B, hB⟩ := braced_eq_cons depth (chars.itemsChars depth items)
      simp [hc, hB] at hf
      omega
    · simp [hc] at hf
    · obtain ⟨B, hB⟩ := braced_eq_cons depth (chars.itemsChars depth body)
      simp [hc, hB] at hf
  | succ f ih =>
    obtain ⟨hat, hbl, hit, hdecl, hst⟩ := ih
    exact ⟨AtRulesOk.succ source hbl, BlocksOk.succ source hit, EntriesOk.succ source hat hdecl hst hit,
      DeclsOk.succ source hbl, NestedOk.succ source hbl⟩

end Fuel

/-! ## Top-level rules -/

section TopLevel

variable (source : String)

/-- The first character of a printed readable rule, blanks dropped, is no closing brace or
semicolon. -/
theorem first_of_readable {c : Cursor} {r : Rule} {depth : Nat} {more : List Char}
    (hr : r.readable = true) (hc : c.rest = dropBlank (r.chars depth) ++ more) :
    ∃ x rest, c.rest = x :: rest ∧ x ≠ '}' ∧ x ≠ ';' := by
  cases r with
  | style selector body span =>
    simp only [Rule.readable, Bool.and_eq_true] at hr
    obtain ⟨B, hB⟩ := braced_eq_cons depth (chars.itemsChars depth body)
    obtain ⟨x, rest, hx, hclose, hsemi, -⟩ := first_of_selector hr.1.1.1 hr.1.1.2 hr.1.2
      (show c.rest = dropBlank (selector.toList ++ [' ']) ++ '{' :: (B ++ more) by
        rw [hc, dropBlank_chars_style, hB]
        simp)
    exact ⟨x, rest, hx, hclose, hsemi⟩
  | atRule name prelude body span =>
    obtain ⟨R, hR⟩ := chars_atRule_cons name prelude body span depth
    exact ⟨'@', R ++ more, by rw [hc, hR, dropBlank_of_head (fun x hx => by cases hx; decide)]; rfl,
      by decide, by decide⟩
  | comment text span =>
    exact ⟨'/', _, by rw [hc, Rule.chars, dropBlank_of_head (fun x hx => by cases hx; decide)]; rfl,
      by decide, by decide⟩

/-- A readable rule printed at the top level is read by `readRule`, which stops where the printed
rules after it go on. -/
theorem readRule_readable {f : Nat} {c : Cursor} {r : Rule} {R : List Char}
    (hr : r.readable = true) (hR : SheetText R) (hc : c.rest = dropBlank (r.chars 0) ++ R)
    (hf : 3 * c.rest.length + 2 ≤ f) :
    ∃ r' e, readRule source f c = .ok (r', e) ∧ SheetText e.rest ∧ e.rest.length < c.rest.length := by
  obtain ⟨f, rfl⟩ : ∃ f', f = f' + 1 := ⟨f - 1, by omega⟩
  obtain ⟨hat, hbl, -, -, -⟩ := readers_ok source f
  cases r with
  | style selector body span =>
    have hp := hr
    simp only [Rule.readable, Bool.and_eq_true] at hp
    obtain ⟨⟨⟨hS, hop⟩, hstop⟩, hbody⟩ := hp
    obtain ⟨B, hB⟩ := braced_eq_cons 0 (chars.itemsChars 0 body)
    have hsel : c.rest = dropBlank (selector.toList ++ [' ']) ++ '{' :: (B ++ R) := by
      rw [hc, dropBlank_chars_style, hB]
      simp
    obtain ⟨x, rest, hx, -, -, hatx, hcm⟩ := first_of_selector hS hop hstop hsel
    obtain ⟨d, hscan, hd, -⟩ := scanUntil_selector hS hstop hsel
    have hdlen : d.rest.length ≤ c.rest.length := by simp [hsel, hd]
    obtain ⟨body', e, hread, he⟩ := hbl d 0 body R hbody (by rw [hd, hB]; rfl) (by omega)
    have hcall : readRule source (f + 1) c =
        .ok (.style (String.ofList (trimChars (textTo c d))) body' (spanFrom source c.here e), e) := by
      rw [readRule, if_neg (by simp [hcm]), if_neg (by simp [peek, hx, hatx]), hscan]
      simp [hread]
    refine ⟨_, e, hcall, he ▸ hR, ?_⟩
    rw [he, hsel]
    simp only [List.length_append, List.length_cons]
    omega
  | atRule name prelude body span =>
    obtain ⟨R', hR'⟩ := chars_atRule_cons name prelude body span 0
    have hc' : c.rest = (Rule.atRule name prelude body span).chars 0 ++ R := by
      rw [hc, dropBlank_of_head (by rw [hR']; exact fun x hx => by cases hx; decide)]
    have hat' : c.rest = '@' :: (R' ++ R) := by rw [hc', hR']; rfl
    rw [readRule, if_neg (by simp [startsWith2_of_ne hat' (by decide : '@' ≠ '/')]),
      if_pos (by simp [peek, hat'])]
    exact hat SheetText continues_sheet c 0 name prelude body span R hr hR hc' (by omega)
  | comment text span =>
    have hc' : c.rest = '/' :: '*' :: text.toList ++ '*' :: '/' :: R := by
      rw [hc, Rule.chars, dropBlank_of_head (fun x hx => by cases hx; decide)]
      simp
    obtain ⟨span', e, hread, he⟩ := readComment_of_closed source (by simpa [Rule.readable] using hr) hc'
    refine ⟨.comment (String.ofList text.toList) span', e, ?_, he ▸ hR, ?_⟩
    · rw [readRule, if_pos (by simp [startsWith2, hc']), hread]
    · rw [he, hc']
      simp only [List.length_append, List.length_cons]
      omega

theorem readRules_sheetText (f : Nat) :
    ∀ (c : Cursor) (acc : List Rule), SheetText c.rest → 3 * c.rest.length + 3 ≤ f →
      ∃ rules, readRules source f c acc = .ok rules := by
  induction f with
  | zero => exact fun _ _ _ hf => absurd hf (by omega)
  | succ f ih =>
    intro c acc hT hf
    obtain ⟨ws, rules, hws, hr, hc⟩ := hT
    have hlen := length_skipBlank_le c
    cases rules with
    | nil =>
      have hrest : c.skipBlank.rest = [] := by
        rw [rest_skipBlank, hc, sheetChars, List.append_nil, dropBlank_eq_nil hws]
      refine ⟨acc.reverse, ?_⟩
      rw [readRules]
      simp [hrest]
    | cons r rules =>
      obtain ⟨sep, hsep, hsheet⟩ := sheetChars_cons r rules
      have hrest : c.skipBlank.rest = dropBlank (r.chars 0) ++ (sep ++ sheetChars rules) := by
        rw [rest_skipBlank, hc, hsheet, dropBlank_blank_append hws, List.append_assoc,
          dropBlank_append_of_exists (exists_not_blank_chars r 0)]
      obtain ⟨x, rest, hx, hclose, hsemi⟩ := first_of_readable (hr r (by simp)) hrest
      obtain ⟨r', e, hread, he, helen⟩ := readRule_readable source (hr r (by simp))
        (sheetText_rest (fun r' h => hr r' (by simp [h])) hsep) hrest
        (show 3 * c.skipBlank.rest.length + 2 ≤ f by omega)
      obtain ⟨rules', hrules'⟩ := ih e (r' :: acc) he (by omega)
      refine ⟨rules', ?_⟩
      rw [readRules]
      simp [hx, hclose, hsemi, hread, hrules']

end TopLevel

/-- The rendering of readable rules is read without an error, when it does not begin with a
byte order mark. -/
theorem parse_render_ok {s : Stylesheet} (hr : ∀ r ∈ s.rules, r.readable = true)
    (hbom : s.render.toList.head? ≠ some '\uFEFF') (filename : String) :
    ∃ s', parse s.render filename = .ok s' := by
  have hstart : SheetText (Cursor.start s.render).rest :=
    ⟨[], s.rules, by simp, hr, by rw [rest_start hbom, render_toList]; rfl⟩
  obtain ⟨rules, hread⟩ := readRules_sheetText filename _ _ [] hstart le_rfl
  exact ⟨⟨filename, rules⟩, by simp [parse, hread, Except.map]⟩

end CssBundle.Css
