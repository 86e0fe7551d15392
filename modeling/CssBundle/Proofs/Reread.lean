import Mathlib
import CssBundle.Proofs.ReaderText
import CssBundle.Proofs.PrintedText

/-!
# Reading printed rules back

The printer writes a rule's texts between separators of its own: a space and `{` after a
selector or a prelude, `: ` and `;` around a value, `;` after a statement at-rule, `/*` and `*/`
around a comment. The reader takes the rule back when each text ends the scan where the printer
put the separator after it, and trims back to itself (`Rule.printable`); spans aside
(`Rule.unspanned`), it then gives the same rule.

The readers call each other with one unit of fuel less per call; the statements `AtRulesRead`,
`BlocksRead`, `EntriesRead` and `NestedRulesRead` say, for one amount of fuel, that each reader
takes a printed construct back when the fuel is three times the length of the text left. Each
is kept from one amount of fuel to the next (the `succ` lemmas), so all hold at every amount
(`reads_back`). A stylesheet is then read back rule by rule (`readRules_sheetChars`).

Main statement: `parse_render_of_printable`, a stylesheet of printable rules whose printed text
does not begin with a byte order mark is read back from its rendering, spans aside.
-/

namespace CssBundle.Css

open Text Cursor Scanner Rule

/-! ## What is read back -/

/-- The same rule with every span in it set to the default one: what is left is what its text
says. -/
def Rule.unspanned : Rule → Rule
  | .style selector body _ => .style selector (unspannedItems body) default
  | .atRule name prelude none _ => .atRule name prelude none default
  | .atRule name prelude (some body) _ => .atRule name prelude (some (unspannedItems body)) default
  | .comment text _ => .comment text default
where
  unspannedItems : List Item → List Item
    | [] => []
    | .decl property value _ :: rest => .decl property value default :: unspannedItems rest
    | .rule r :: rest => .rule (unspanned r) :: unspannedItems rest

theorem unspannedItems_append (l l' : List Item) :
    unspanned.unspannedItems (l ++ l') = unspanned.unspannedItems l ++ unspanned.unspannedItems l' := by
  induction l with
  | nil => rfl
  | cons i l ih => cases i <;> simp [unspanned.unspannedItems, ih]

/-- An entry read back, put before the entries still to come, gives the same entries as the one it
stands for when the two differ only in their spans. -/
theorem unspannedItems_reverse_cons {it it' : Item}
    (hnorm : unspanned.unspannedItems [it'] = unspanned.unspannedItems [it]) (acc items : List Item) :
    unspanned.unspannedItems ((it' :: acc).reverse ++ items) =
      unspanned.unspannedItems (acc.reverse ++ it :: items) := by
  rw [List.reverse_cons, List.append_assoc, List.singleton_append,
    show it' :: items = [it'] ++ items from rfl, show it :: items = [it] ++ items from rfl,
    unspannedItems_append, unspannedItems_append, unspannedItems_append, unspannedItems_append, hnorm]

/-- Whether a text may open an entry without being taken for an at-rule or a comment. -/
def opensPlain (T : List Char) : Bool :=
  T.head? != some '@' && !(['/', '*'].isPrefixOf T)

/-- Whether the reader takes a rule's printed text back as the same rule. Every text is trimmed,
as the reader leaves it; the scanner, reading a selector, prelude or declaration as printed,
stops where the printer put the `{` or `;` after it; an at-rule name is a run of name
characters, a property holds no colon, and a comment's text holds no `*/`. -/
def Rule.printable : Rule → Bool
  | .style selector body _ =>
    isTrimmed selector.toList && opensPlain selector.toList &&
      stopsAfter (selector.toList ++ [' ']) '{' && printableItems body
  | .atRule name prelude none _ =>
    !name.toList.isEmpty && name.toList.all isNameChar && isTrimmed prelude.toList &&
      stopsAfter prelude.toList ';'
  | .atRule name prelude (some body) _ =>
    !name.toList.isEmpty && name.toList.all isNameChar && isTrimmed prelude.toList &&
      stopsAfter (prelude.toList ++ [' ']) '{' && printableItems body
  | .comment text _ => !decide (['*', '/'] <:+: text.toList)
where
  printableItems : List Item → Bool
    | [] => true
    | .decl property value _ :: rest =>
      !property.toList.isEmpty && isTrimmed property.toList && opensPlain property.toList &&
        !property.toList.contains ':' && isTrimmed value.toList &&
        stopsAfter (property.toList ++ ':' :: ' ' :: value.toList) ';' && printableItems rest
    | .rule r :: rest => printable r && printableItems rest

/-- A reader result that gives back `a`, as `norm` sees it, and stops where `more` begins. -/
def ReadsAs {α β : Type} (norm : α → β) (a : α) (more : List Char) : Step α → Prop
  | .ok (a', e) => norm a' = norm a ∧ e.rest = more
  | .error _ => False

theorem readsAs_iff {α β : Type} {norm : α → β} {a : α} {more : List Char} {r : Step α} :
    ReadsAs norm a more r ↔ ∃ a' e, r = .ok (a', e) ∧ norm a' = norm a ∧ e.rest = more := by
  rcases r with e | ⟨a', e⟩ <;> simp [ReadsAs]


theorem ReadsAs.congr {α β : Type} {norm : α → β} {a b : α} {more : List Char} {r : Step α}
    (h : norm a = norm b) (hr : ReadsAs norm a more r) : ReadsAs norm b more r := by
  rcases r with e | ⟨a', e⟩
  · exact hr
  · exact ⟨hr.1.trans h, hr.2⟩

/-- A printed at-rule: `@`, the name, the prelude after a space if there is one, and the block
after a space or the closing `;`. -/
theorem chars_atRule (name prelude : String) (body : Option (List Item)) (span : Span) (depth : Nat) :
    ∃ ws, (∀ x ∈ ws, isBlank x = true) ∧
      (∀ y ∈ (ws ++ prelude.toList ++ body.elim [';'] fun items =>
        ' ' :: braced depth (chars.itemsChars depth items)).head?, isNameChar y = false) ∧
      (Rule.atRule name prelude body span).chars depth =
        '@' :: name.toList ++ ws ++ prelude.toList ++
          body.elim [';'] fun items => ' ' :: braced depth (chars.itemsChars depth items) := by
  by_cases hp : prelude.isEmpty = true
  · refine ⟨[], by simp, ?_, ?_⟩
    · cases body <;> simp [String.isEmpty_iff.mp hp, isNameChar, Text.isAlphanumeric]
    · cases body <;> simp [Rule.chars, atHead, String.isEmpty_iff.mp hp]
  · refine ⟨[' '], by simp [isBlank_space], ?_, ?_⟩
    · simp [isNameChar, Text.isAlphanumeric]
    · cases body <;> simp [Rule.chars, atHead, hp]

theorem braced_eq_cons (depth : Nat) (inner : List Char) : ∃ B, braced depth inner = '{' :: B := by
  unfold braced
  split <;> exact ⟨_, rfl⟩

theorem chars_atRule_cons (name prelude : String) (body : Option (List Item)) (span : Span)
    (depth : Nat) : ∃ R, (Rule.atRule name prelude body span).chars depth = '@' :: R := by
  cases body <;> exact ⟨_, rfl⟩

/-- A printed style rule, blanks dropped, is its selector and the printer's space, blanks
dropped, then its block. -/
theorem dropBlank_chars_style (selector : String) (body : List Item) (span : Span) (depth : Nat) :
    dropBlank ((Rule.style selector body span).chars depth) =
      dropBlank (selector.toList ++ [' ']) ++ braced depth (chars.itemsChars depth body) := by
  obtain ⟨B, hB⟩ := braced_eq_cons depth (chars.itemsChars depth body)
  rw [Rule.chars, hB, show selector.toList ++ ' ' :: '{' :: B = (selector.toList ++ [' ']) ++ '{' :: B by simp,
    dropBlank_append_cons (by decide)]

/-! ## The first character of a printed entry -/

theorem isStop_head_of_stopsAfter {x : Char} {T : List Char} {y : Char}
    (h : stopsAfter (x :: T) y = true) : isStop x = false := by
  by_contra hx
  simp only [Bool.not_eq_false] at hx
  obtain ⟨s, hs, -⟩ := stopsAfter_iff.mp h
  simp [feed_cons, step, plainStep, hx] at hs

theorem startsWith2_of_opensPlain {c : Cursor} {T V : List Char} (hc : c.rest = T ++ V)
    (hT : T ≠ []) (hop : opensPlain T = true) (hV : V.head? ≠ some '*') :
    c.startsWith2 '/' '*' = false := by
  simp only [opensPlain, bne_iff_ne, ne_eq, Bool.and_eq_true, Bool.not_eq_true'] at hop
  rcases T with _ | ⟨x, _ | ⟨y, T⟩⟩
  · exact absurd rfl hT
  · cases V with
    | nil => simp [startsWith2, hc]
    | cons v V => simp_all [startsWith2]
  · have : ¬(x = '/' ∧ y = '*') := by
      rintro ⟨rfl, rfl⟩
      simp [List.isPrefixOf] at hop
    simpa [startsWith2, hc] using this

theorem startsWith2_of_ne {c : Cursor} {x : Char} {rest : List Char} (hc : c.rest = x :: rest)
    {a b : Char} (hx : x ≠ a) : c.startsWith2 a b = false := by
  cases rest <;> simp [startsWith2, hc, hx]

/-- A text that opens plain, on a character that does not stop the scanner, opens an entry that
is not a closing brace, a semicolon, an at-rule or a comment, when no star follows it. -/
theorem first_of_opensPlain {c : Cursor} {x : Char} {T U : List Char}
    (hc : c.rest = (x :: T) ++ U) (hop : opensPlain (x :: T) = true) (hU : U.head? ≠ some '*')
    (hstops : isStop x = false) :
    x ≠ '}' ∧ x ≠ ';' ∧ x ≠ '@' ∧ c.startsWith2 '/' '*' = false := by
  have hat : x ≠ '@' := by
    simp only [opensPlain, List.head?_cons, bne_iff_ne, ne_eq, Option.some.injEq,
      Bool.and_eq_true] at hop
    exact hop.1
  refine ⟨?_, ?_, hat, startsWith2_of_opensPlain hc (by simp) hop hU⟩
  · rintro rfl
    simp [isStop] at hstops
  · rintro rfl
    simp [isStop] at hstops

/-- A printed selector, or the block's brace when there is none, opens an entry that is not a
closing brace, a semicolon, an at-rule or a comment. -/
theorem first_of_selector {c : Cursor} {S B : List Char} (hS : isTrimmed S = true)
    (hop : opensPlain S = true) (hstop : stopsAfter (S ++ [' ']) '{' = true)
    (hc : c.rest = dropBlank (S ++ [' ']) ++ '{' :: B) :
    ∃ x rest, c.rest = x :: rest ∧ x ≠ '}' ∧ x ≠ ';' ∧ x ≠ '@' ∧ c.startsWith2 '/' '*' = false := by
  cases S with
  | nil =>
    have hc' : c.rest = '{' :: B := by
      rw [hc, List.nil_append, dropBlank, List.dropWhile_cons_of_pos isBlank_space]
      rfl
    exact ⟨'{', B, hc', by decide, by decide, by decide, startsWith2_of_ne hc' (by decide)⟩
  | cons s S =>
    have hc' : c.rest = s :: (S ++ ' ' :: '{' :: B) := by
      rw [hc, dropBlank_of_head (by simpa using isBlank_head_of_isTrimmed hS)]
      simp
    obtain ⟨hclose, hsemi, hat, hcm⟩ := first_of_opensPlain
      (show c.rest = (s :: S) ++ ' ' :: '{' :: B by rw [hc']; rfl) hop (by simp)
      (isStop_head_of_stopsAfter hstop)
    exact ⟨s, _, hc', hclose, hsemi, hat, hcm⟩

theorem exists_not_blank_chars (r : Rule) (depth : Nat) : ∃ x ∈ r.chars depth, isBlank x = false := by
  cases r with
  | style selector body span =>
    obtain ⟨B, hB⟩ := braced_eq_cons depth (chars.itemsChars depth body)
    exact ⟨'{', by simp [Rule.chars, hB], by decide⟩
  | atRule name prelude body span => exact ⟨'@', by cases body <;> simp [Rule.chars, atHead], by decide⟩
  | comment text span => exact ⟨'/', by simp [Rule.chars], by decide⟩

/-! ## One step of the readers -/

section Steps

variable (source : String)

theorem readItems_close {f : Nat} {o : Location} {c : Cursor} {acc : List Item} {rest : List Char}
    (hc : c.skipBlank.rest = '}' :: rest) :
    readItems source (f + 1) o c acc = .ok (acc.reverse, c.skipBlank.bump) := by
  rw [readItems]
  simp [hc]

theorem readItems_semicolon {f : Nat} {o : Location} {c : Cursor} {acc : List Item} {rest : List Char}
    (hc : c.skipBlank.rest = ';' :: rest) :
    readItems source (f + 1) o c acc = readItems source f o c.skipBlank.bump acc := by
  rw [readItems]
  simp [hc]

theorem readItems_at {f : Nat} {o : Location} {c : Cursor} {acc : List Item} {rest : List Char}
    (hc : c.skipBlank.rest = '@' :: rest) :
    readItems source (f + 1) o c acc =
      match readAtRule source f c.skipBlank with
      | .error e => .error e
      | .ok (r, d) => readItems source f o d (.rule r :: acc) := by
  rw [readItems]
  rcases readAtRule source f c.skipBlank with e | ⟨r, d⟩ <;> simp [hc]

theorem readItems_comment {f : Nat} {o : Location} {c : Cursor} {acc : List Item} {rest : List Char}
    (hc : c.skipBlank.rest = '/' :: '*' :: rest) :
    readItems source (f + 1) o c acc =
      match readComment source c.skipBlank with
      | .error e => .error e
      | .ok (r, d) => readItems source f o d (.rule r :: acc) := by
  rw [readItems]
  rcases readComment source c.skipBlank with e | ⟨r, d⟩ <;> simp [hc, startsWith2]

theorem readItems_plain {f : Nat} {o : Location} {c : Cursor} {acc : List Item} {x : Char}
    {rest : List Char} (hc : c.skipBlank.rest = x :: rest) (hclose : x ≠ '}') (hsemi : x ≠ ';')
    (hat : x ≠ '@') (hcm : c.skipBlank.startsWith2 '/' '*' = false) :
    readItems source (f + 1) o c acc =
      match readItem source f c.skipBlank with
      | .error e => .error e
      | .ok (i, d) => readItems source f o d (i :: acc) := by
  rw [readItems]
  rcases readItem source f c.skipBlank with e | ⟨i, d⟩ <;> simp [hc, hclose, hsemi, hat, hcm]

end Steps

theorem blank_append_indent {ws : List Char} (hws : ∀ x ∈ ws, isBlank x = true) (depth : Nat) :
    ∀ x ∈ ws ++ indentChars depth, isBlank x = true := by
  simp only [List.mem_append, indentChars, List.mem_replicate]
  rintro x (hx | ⟨-, rfl⟩)
  · exact hws x hx
  · exact isBlank_space

/-- Blanks, then printed entries that open with a declaration: with the blanks skipped, the loop
stands at its property. -/
theorem skipBlank_entries_decl {c : Cursor} {ws ws' more : List Char} {depth : Nat}
    {property value : String} {span : Span} {items : List Item}
    (hws : ∀ x ∈ ws, isBlank x = true) (hP : property.toList ≠ []) (hPt : isTrimmed property.toList = true)
    (hc : c.rest = ws ++ chars.itemsChars depth (.decl property value span :: items) ++ ws' ++ '}' :: more) :
    c.skipBlank.rest = property.toList ++ ':' :: ' ' :: value.toList ++ ';' ::
      ('\n' :: chars.itemsChars depth items ++ ws' ++ '}' :: more) := by
  obtain ⟨x, P, hx⟩ := List.exists_cons_of_ne_nil hP
  have hhead : isBlank x = false := isBlank_head_of_isTrimmed (by rw [← hx]; exact hPt)
  have hc' : c.rest = (ws ++ indentChars (depth + 1)) ++ (property.toList ++ ':' :: ' ' :: value.toList ++
      ';' :: ('\n' :: chars.itemsChars depth items ++ ws' ++ '}' :: more)) := by
    rw [hc]
    simp [chars.itemsChars]
  rw [rest_skipBlank, hc', dropBlank_blank_append (blank_append_indent hws _),
    dropBlank_of_head (by simp [hx, hhead])]

/-- Blanks, then printed entries that open with a rule: with the blanks skipped, the loop stands
at the rule's printed text, its blanks dropped. -/
theorem skipBlank_entries_rule {c : Cursor} {ws ws' more : List Char} {depth : Nat} {r : Rule}
    {items : List Item} (hws : ∀ x ∈ ws, isBlank x = true)
    (hc : c.rest = ws ++ chars.itemsChars depth (.rule r :: items) ++ ws' ++ '}' :: more) :
    c.skipBlank.rest = dropBlank (r.chars (depth + 1)) ++
      ('\n' :: chars.itemsChars depth items ++ ws' ++ '}' :: more) := by
  have hc' : c.rest = (ws ++ indentChars (depth + 1)) ++
      (r.chars (depth + 1) ++ ('\n' :: chars.itemsChars depth items ++ ws' ++ '}' :: more)) := by
    rw [hc]
    simp [chars.itemsChars]
  rw [rest_skipBlank, hc', dropBlank_blank_append (blank_append_indent hws _),
    dropBlank_append_of_exists (exists_not_blank_chars r _)]

theorem dropBlank_chars_ne_nil (r : Rule) (depth : Nat) : dropBlank (r.chars depth) ≠ [] := by
  obtain ⟨x, hx, hblank⟩ := exists_not_blank_chars r depth
  rw [dropBlank, Ne, List.dropWhile_eq_nil_iff]
  exact fun h => absurd (h x hx) (by simp [hblank])

/-! ## The readers, by fuel -/

section Fuel

variable (source : String)

/-- With `f` fuel, `readAtRule` takes back every printable at-rule from its printed text. -/
def AtRulesRead (f : Nat) : Prop :=
  ∀ (c : Cursor) (depth : Nat) (name prelude : String) (body : Option (List Item)) (span : Span)
    (more : List Char), (Rule.atRule name prelude body span).printable = true →
    c.rest = (Rule.atRule name prelude body span).chars depth ++ more → 3 * c.rest.length ≤ f →
    ReadsAs Rule.unspanned (.atRule name prelude body span) more (readAtRule source f c)

/-- With `f` fuel, `readBlock` takes back the printed block of printable entries. -/
def BlocksRead (f : Nat) : Prop :=
  ∀ (c : Cursor) (depth : Nat) (items : List Item) (more : List Char),
    printable.printableItems items = true →
    c.rest = braced depth (chars.itemsChars depth items) ++ more → 3 * c.rest.length ≤ f + 1 →
    ReadsAs unspanned.unspannedItems items more (readBlock source f c)

/-- With `f` fuel, `readItems` takes back printed entries up to the closing brace, after the
entries already read. -/
def EntriesRead (f : Nat) : Prop :=
  ∀ (o : Location) (c : Cursor) (depth : Nat) (items acc : List Item) (ws ws' more : List Char),
    printable.printableItems items = true → (∀ x ∈ ws, isBlank x = true) →
    (∀ x ∈ ws', isBlank x = true) →
    c.rest = ws ++ chars.itemsChars depth items ++ ws' ++ '}' :: more → 3 * c.rest.length + 1 ≤ f →
    ReadsAs unspanned.unspannedItems (acc.reverse ++ items) more (readItems source f o c acc)

/-- With `f` fuel, `readItem` takes back a printable style rule nested in a block. -/
def NestedRulesRead (f : Nat) : Prop :=
  ∀ (c : Cursor) (depth : Nat) (selector : String) (body : List Item) (span : Span)
    (more : List Char), (Rule.style selector body span).printable = true →
    c.rest = dropBlank (selector.toList ++ [' ']) ++ braced depth (chars.itemsChars depth body) ++ more →
    3 * c.rest.length ≤ f →
    ReadsAs (fun i => unspanned.unspannedItems [i]) (.rule (.style selector body span)) more
      (readItem source f c)

theorem scanUntil_selector {c : Cursor} {S more : List Char} (hS : isTrimmed S = true)
    (hstop : stopsAfter (S ++ [' ']) '{' = true) (hc : c.rest = dropBlank (S ++ [' ']) ++ '{' :: more) :
    ∃ d, scanUntil c = .ok (some '{', d) ∧ d.rest = '{' :: more ∧ trimChars (textTo c d) = S := by
  obtain ⟨d, hscan, hd, htext⟩ :=
    scanUntil_of_stopsAfter (by rwa [stopsAfter_dropBlank]) hc
  refine ⟨d, hscan, hd, ?_⟩
  have htrim : trimChars ([] ++ S ++ [' ']) = S := trimChars_of_isTrimmed hS (by simp) (by simp [isBlank_space])
  rw [htext, trimChars, dropBlank, dropBlank, List.dropWhile_idempotent]
  simpa [trimChars, dropBlank] using htrim

theorem NestedRulesRead.succ {f : Nat} (hbl : BlocksRead source f) :
    NestedRulesRead source (f + 1) := by
  intro c depth selector body span more hp hc hf
  simp only [Rule.printable, Bool.and_eq_true] at hp
  obtain ⟨⟨⟨hS, -⟩, hstop⟩, hbody⟩ := hp
  obtain ⟨B, hB⟩ := braced_eq_cons depth (chars.itemsChars depth body)
  obtain ⟨d, hscan, hd, htext⟩ := scanUntil_selector hS hstop
    (show c.rest = dropBlank (selector.toList ++ [' ']) ++ '{' :: (B ++ more) by rw [hc, hB]; simp)
  have hdlen : d.rest.length ≤ c.rest.length := by simp [hc, hd, hB]
  obtain ⟨body', e, hread, hnorm, he⟩ :=
    readsAs_iff.mp (hbl d depth body more hbody (by rw [hd, hB]; rfl) (by omega))
  rw [readItem]
  simp only [hscan, htext, if_true, hread, String.ofList_toList]
  exact ⟨by simp [unspanned.unspannedItems, unspanned, hnorm], he⟩

theorem BlocksRead.succ {f : Nat} (hit : EntriesRead source f) : BlocksRead source (f + 1) := by
  intro c depth items more hp hc hf
  obtain ⟨B, hB⟩ := braced_eq_cons depth (chars.itemsChars depth items)
  have hlen : c.bump.rest.length + 1 = c.rest.length := by simp [rest_bump, hc, hB]
  rw [readBlock]
  by_cases hnil : items = []
  · subst hnil
    have hrest : c.bump.rest = [] ++ chars.itemsChars depth [] ++ [] ++ '}' :: more := by
      simp [rest_bump, hc, braced, chars.itemsChars]
    simpa using hit c.here c.bump depth [] [] [] [] more hp (by simp) (by simp) hrest (by omega)
  · have hinner : chars.itemsChars depth items ≠ [] := fun h => hnil (itemsChars_eq_nil.mp h)
    have hrest : c.bump.rest = ['\n'] ++ chars.itemsChars depth items ++ indentChars depth ++ '}' :: more := by
      simp [rest_bump, hc, braced, hinner]
    simpa using hit c.here c.bump depth items [] ['\n'] (indentChars depth) more hp
      (by simp [isBlank_newline]) (by simp [indentChars, isBlank_space]) hrest (by omega)

/-- The name of a printed at-rule is read whole, since the printer put a space or a `;` after it;
the blanks, the prelude and the rest of the rule's text come after it. -/
theorem atRule_name_read {c : Cursor} {name prelude : String} {body : Option (List Item)}
    {span : Span} {depth : Nat} {more : List Char} (hNc : ∀ x ∈ name.toList, isNameChar x = true)
    (hc : c.rest = (Rule.atRule name prelude body span).chars depth ++ more) :
    ∃ ws, (∀ x ∈ ws, isBlank x = true) ∧ c.bump.rest.takeWhile isNameChar = name.toList ∧
      String.ofList (c.bump.rest.take name.toList.length) = name ∧
      (bump^[name.toList.length] c.bump).rest = ws ++ prelude.toList ++
        (body.elim [';'] fun items => ' ' :: braced depth (chars.itemsChars depth items)) ++ more ∧
      (bump^[name.toList.length] c.bump).rest.length < c.rest.length := by
  obtain ⟨ws, hws, hhead, hchars⟩ := chars_atRule name prelude body span depth
  set tail := body.elim [';'] fun items => ' ' :: braced depth (chars.itemsChars depth items)
  have hafterAt : c.bump.rest = name.toList ++ (ws ++ prelude.toList ++ tail ++ more) := by
    simp [rest_bump, hc, hchars]
  have htake : c.bump.rest.takeWhile isNameChar = name.toList := by
    rw [hafterAt]
    refine takeWhile_isNameChar hNc fun y hy => hhead y ?_
    have hne : ws ++ prelude.toList ++ tail ≠ [] := by cases body <;> simp [tail]
    obtain ⟨z, zs, hz⟩ := List.exists_cons_of_ne_nil hne
    rw [hz] at hy ⊢
    simpa using hy
  have hafterName : (bump^[name.toList.length] c.bump).rest = ws ++ prelude.toList ++ tail ++ more := by
    rw [rest_iterate_bump, hafterAt, List.drop_left' rfl]
  refine ⟨ws, hws, htake, by rw [hafterAt, List.take_left' rfl, String.ofList_toList], hafterName, ?_⟩
  rw [hafterName, hc, hchars]
  simp

theorem AtRulesRead.succ {f : Nat} (hbl : BlocksRead source f) : AtRulesRead source (f + 1) := by
  intro c depth name prelude body span more hp hc hf
  obtain ⟨hN, hNc, hQ⟩ : name.toList ≠ [] ∧ (∀ x ∈ name.toList, isNameChar x = true) ∧
      isTrimmed prelude.toList = true := by
    cases body <;> simp_all [Rule.printable]
  obtain ⟨ws, hws, htake, hname, hafterName, hlen⟩ := atRule_name_read hNc hc
  rw [readAtRule]
  simp only [htake, foldl_range_bump, hname]
  rw [if_neg (by simpa using hN)]
  cases body with
  | none =>
    have hstop : stopsAfter (ws ++ prelude.toList) ';' = true := by
      rw [stopsAfter_blank_append hws]
      simp_all [Rule.printable]
    obtain ⟨d, hscan, hd, htext⟩ :=
      scanUntil_of_stopsAfter hstop
        (show (bump^[name.toList.length] c.bump).rest = ws ++ prelude.toList ++ ';' :: more by
          rw [hafterName]; simp)
    have htrim : trimChars (ws ++ prelude.toList ++ []) = prelude.toList :=
      trimChars_of_isTrimmed hQ hws (by simp)
    simp only [List.append_nil] at htrim
    rw [hscan]
    simp [htext, htrim, ReadsAs, Rule.unspanned, rest_bump, hd]
  | some items =>
    have hp' : stopsAfter (prelude.toList ++ [' ']) '{' = true ∧ printable.printableItems items = true := by
      simp_all [Rule.printable]
    have hstop : stopsAfter (ws ++ (prelude.toList ++ [' '])) '{' = true := by
      rw [stopsAfter_blank_append hws]
      exact hp'.1
    obtain ⟨B, hB⟩ := braced_eq_cons depth (chars.itemsChars depth items)
    obtain ⟨d, hscan, hd, htext⟩ :=
      scanUntil_of_stopsAfter hstop
        (show (bump^[name.toList.length] c.bump).rest = ws ++ (prelude.toList ++ [' ']) ++ '{' :: (B ++ more) by
          rw [hafterName]; simp [hB])
    have htrim : trimChars (ws ++ prelude.toList ++ [' ']) = prelude.toList :=
      trimChars_of_isTrimmed hQ hws (by simp [isBlank_space])
    have hdlen : d.rest.length < c.rest.length := by
      have : d.rest.length ≤ (bump^[name.toList.length] c.bump).rest.length := by
        rw [hd, hafterName]
        simp [hB]
        omega
      omega
    obtain ⟨body', e, hread, hnorm, he⟩ :=
      readsAs_iff.mp (hbl d depth items more hp'.2 (by rw [hd, hB]; rfl) (by omega))
    rw [hscan]
    simp only [List.append_assoc] at htext htrim
    simp [htext, htrim, hread, ReadsAs, Rule.unspanned, hnorm, he]


theorem readItem_declaration {f : Nat} {c : Cursor} {property value : String} {span : Span}
    {rest : List Item} {more : List Char}
    (hp : printable.printableItems (.decl property value span :: rest) = true)
    (hc : c.rest = property.toList ++ ':' :: ' ' :: value.toList ++ ';' :: more) :
    ReadsAs (fun i => unspanned.unspannedItems [i]) (.decl property value span) more
      (readItem source (f + 1) c) := by
  simp only [printable.printableItems, Bool.and_eq_true, Bool.not_eq_true'] at hp
  obtain ⟨⟨⟨⟨⟨⟨hP, hPt⟩, -⟩, hcolon⟩, hVt⟩, hstop⟩, -⟩ := hp
  obtain ⟨d, hscan, hd, htext⟩ := scanUntil_of_stopsAfter hstop
    (show c.rest = property.toList ++ ':' :: ' ' :: value.toList ++ ';' :: more by rw [hc])
  have hsplit := splitDeclaration_of_trimmed (by simpa using hP) hPt (by simpa using hcolon) hVt
  rw [readItem]
  simp [hscan, htext, hsplit, ReadsAs, unspanned.unspannedItems, rest_bump, hd]

theorem readComment_printed {c : Cursor} {text : String} {span : Span} {more : List Char}
    (hp : (Rule.comment text span).printable = true)
    (hc : c.rest = '/' :: '*' :: text.toList ++ '*' :: '/' :: more) :
    ReadsAs Rule.unspanned (.comment text span) more (readComment source c) := by
  obtain ⟨span', d, hread, hd⟩ := readComment_of_closed source (by simpa [Rule.printable] using hp) hc
  rw [hread]
  simp [ReadsAs, Rule.unspanned, hd]

theorem EntriesRead.next {f : Nat} (hit : EntriesRead source f) {o : Location} {depth : Nat}
    {it it' : Item} {items acc : List Item} {ws' more : List Char} {e : Cursor}
    (hp : printable.printableItems items = true) (hws' : ∀ x ∈ ws', isBlank x = true)
    (hnorm : unspanned.unspannedItems [it'] = unspanned.unspannedItems [it])
    (he : e.rest = '\n' :: chars.itemsChars depth items ++ ws' ++ '}' :: more)
    (hf : 3 * e.rest.length + 1 ≤ f) :
    ReadsAs unspanned.unspannedItems (acc.reverse ++ it :: items) more
      (readItems source f o e (it' :: acc)) := by
  refine (hit o e depth items (it' :: acc) ['\n'] ws' more hp (by simp [isBlank_newline]) hws'
    (by rw [he]; rfl) hf).congr (unspannedItems_reverse_cons hnorm acc items)

theorem EntriesRead.succ {f : Nat} (hat : AtRulesRead source f) (hst : NestedRulesRead source f)
    (hit : EntriesRead source f) : EntriesRead source (f + 1) := by
  intro o c depth items acc ws ws' more hp hws hws' hc hf
  cases items with
  | nil =>
    have hrest : c.skipBlank.rest = '}' :: more := by
      rw [rest_skipBlank, hc, chars.itemsChars, List.append_nil, dropBlank_append_cons (by decide),
        dropBlank_eq_nil fun x hx => (List.mem_append.mp hx).elim (hws x) (hws' x)]
      rfl
    rw [readItems_close source hrest]
    simp [ReadsAs, rest_bump, hrest]
  | cons it items =>
    set more' := '\n' :: chars.itemsChars depth items ++ ws' ++ '}' :: more with hmore'
    obtain ⟨f, rfl⟩ : ∃ f', f = f' + 1 := ⟨f - 1, by simp [hc] at hf; omega⟩
    have hskip := length_skipBlank_le c
    cases it with
    | decl property value span =>
      have hP : property.toList ≠ [] ∧ isTrimmed property.toList = true ∧
          opensPlain property.toList = true ∧
          stopsAfter (property.toList ++ ':' :: ' ' :: value.toList) ';' = true ∧
          printable.printableItems items = true := by
        simp_all [printable.printableItems]
      obtain ⟨x, P, hx⟩ := List.exists_cons_of_ne_nil hP.1
      have hrest : c.skipBlank.rest = property.toList ++ ':' :: ' ' :: value.toList ++ ';' :: more' :=
        skipBlank_entries_decl hws hP.1 hP.2.1 hc
      obtain ⟨hclose, hsemi, hat', hcm⟩ := first_of_opensPlain
        (show c.skipBlank.rest = (x :: P) ++ (':' :: ' ' :: value.toList ++ ';' :: more') by
          rw [hrest, hx]; simp)
        (by rw [← hx]; exact hP.2.2.1) (by simp)
        (isStop_head_of_stopsAfter (show stopsAfter (x :: (P ++ ':' :: ' ' :: value.toList)) ';' = true by
          rw [← List.cons_append, ← hx]; exact hP.2.2.2.1))
      obtain ⟨it', e, hread, hnorm, he⟩ := readsAs_iff.mp
        (readItem_declaration source hp hrest : ReadsAs _ _ _ (readItem source (f + 1) c.skipBlank))
      rw [readItems_plain source (by rw [hrest, hx]; rfl) hclose hsemi hat' hcm, hread]
      have hlen : more'.length < c.skipBlank.rest.length := by
        rw [hrest]
        simp only [List.length_append, List.length_cons]
        omega
      exact EntriesRead.next source hit hP.2.2.2.2 hws' hnorm he (by rw [he]; omega)
    | rule r =>
      have hr : r.printable = true ∧ printable.printableItems items = true := by
        simpa [printable.printableItems] using hp
      have hrest : c.skipBlank.rest = dropBlank (r.chars (depth + 1)) ++ more' := skipBlank_entries_rule hws hc
      have hsub : 3 * c.skipBlank.rest.length ≤ f + 1 := by omega
      have hnext : 3 * more'.length + 1 ≤ f + 1 := by
        have := List.length_pos_of_ne_nil (dropBlank_chars_ne_nil r (depth + 1))
        have hlen : c.skipBlank.rest.length = (dropBlank (r.chars (depth + 1))).length + more'.length := by
          rw [hrest, List.length_append]
        omega
      cases r with
      | style selector body span =>
        have hp' := hr.1
        simp only [Rule.printable, Bool.and_eq_true] at hp'
        obtain ⟨⟨⟨hS, hop⟩, hstop⟩, -⟩ := hp'
        obtain ⟨B, hB⟩ := braced_eq_cons (depth + 1) (chars.itemsChars (depth + 1) body)
        have hsel : c.skipBlank.rest = dropBlank (selector.toList ++ [' ']) ++
            braced (depth + 1) (chars.itemsChars (depth + 1) body) ++ more' := by
          rw [hrest, dropBlank_chars_style]
        obtain ⟨x, rest, hx, hclose, hsemi, hatx, hcm⟩ := first_of_selector hS hop hstop
          (show c.skipBlank.rest = dropBlank (selector.toList ++ [' ']) ++ '{' :: (B ++ more') by
            rw [hsel, hB]; simp)
        obtain ⟨it', e, hread, hnorm, he⟩ :=
          readsAs_iff.mp (hst c.skipBlank (depth + 1) selector body span more' hr.1 hsel hsub)
        rw [readItems_plain source hx hclose hsemi hatx hcm, hread]
        exact EntriesRead.next source hit hr.2 hws' hnorm he (by rw [he]; exact hnext)
      | atRule name prelude body span =>
        obtain ⟨R, hR⟩ := chars_atRule_cons name prelude body span (depth + 1)
        have hrest' : c.skipBlank.rest = (Rule.atRule name prelude body span).chars (depth + 1) ++ more' := by
          rw [hrest, dropBlank_of_head (by rw [hR]; exact fun x hx => by cases hx; decide)]
        obtain ⟨r', e, hread, hnorm, he⟩ :=
          readsAs_iff.mp (hat c.skipBlank (depth + 1) name prelude body span more' hr.1 hrest' hsub)
        rw [readItems_at source (show c.skipBlank.rest = '@' :: (R ++ more') by rw [hrest', hR]; rfl),
          hread]
        exact EntriesRead.next source hit hr.2 hws' (by simp [unspanned.unspannedItems, hnorm]) he
          (by rw [he]; exact hnext)
      | comment text span =>
        have hrest' : c.skipBlank.rest = '/' :: '*' :: text.toList ++ '*' :: '/' :: more' := by
          rw [hrest, dropBlank_of_head (by simp [Rule.chars]; decide)]
          simp [Rule.chars]
        obtain ⟨r', e, hread, hnorm, he⟩ := readsAs_iff.mp (readComment_printed source hr.1 hrest')
        rw [readItems_comment source hrest', hread]
        exact EntriesRead.next source hit hr.2 hws' (by simp [unspanned.unspannedItems, hnorm]) he
          (by rw [he]; exact hnext)

theorem reads_back (f : Nat) :
    AtRulesRead source f ∧ BlocksRead source f ∧ EntriesRead source f ∧ NestedRulesRead source f := by
  induction f with
  | zero =>
    refine ⟨fun c depth name prelude body span more _ hc hf => ?_,
      fun c depth items more _ hc hf => ?_, fun _ _ _ _ _ _ _ _ _ _ _ _ hf => absurd hf (by omega),
      fun c depth selector body span more _ hc hf => ?_⟩
    · obtain ⟨R, hR⟩ := chars_atRule_cons name prelude body span depth
      simp [hc, hR] at hf
    · obtain ⟨B, hB⟩ := braced_eq_cons depth (chars.itemsChars depth items)
      simp [hc, hB] at hf
      omega
    · obtain ⟨B, hB⟩ := braced_eq_cons depth (chars.itemsChars depth body)
      simp [hc, hB] at hf
  | succ f ih =>
    obtain ⟨hat, hbl, hit, hst⟩ := ih
    exact ⟨AtRulesRead.succ source hbl, BlocksRead.succ source hit, EntriesRead.succ source hat hst hit,
      NestedRulesRead.succ source hbl⟩

end Fuel

/-! ## Top-level rules -/

section TopLevel

variable (source : String)

theorem first_of_printable {c : Cursor} {r : Rule} {depth : Nat} {more : List Char}
    (hr : r.printable = true) (hc : c.rest = dropBlank (r.chars depth) ++ more) :
    ∃ x rest, c.rest = x :: rest ∧ x ≠ '}' ∧ x ≠ ';' := by
  cases r with
  | style selector body span =>
    simp only [Rule.printable, Bool.and_eq_true] at hr
    obtain ⟨B, hB⟩ := braced_eq_cons depth (chars.itemsChars depth body)
    obtain ⟨x, rest, hx, hclose, hsemi, -⟩ := first_of_selector hr.1.1.1 hr.1.1.2 hr.1.2
      (show c.rest = dropBlank (selector.toList ++ [' ']) ++ '{' :: (B ++ more) by
        rw [hc, dropBlank_chars_style, hB]
        simp)
    exact ⟨x, rest, hx, hclose, hsemi⟩
  | atRule name prelude body span =>
    obtain ⟨R, hR⟩ := chars_atRule_cons name prelude body span depth
    exact ⟨'@', R ++ more, by rw [hc, hR, dropBlank_of_head (fun x hx => by cases hx; decide)]; rfl,
      by decide, by decide⟩
  | comment text span =>
    exact ⟨'/', _, by rw [hc, Rule.chars, dropBlank_of_head (fun x hx => by cases hx; decide)]; rfl,
      by decide, by decide⟩

theorem readRule_printed {f : Nat} {c : Cursor} {r : Rule} {more : List Char}
    (hr : r.printable = true) (hc : c.rest = dropBlank (r.chars 0) ++ more)
    (hf : 3 * c.rest.length + 2 ≤ f) : ReadsAs Rule.unspanned r more (readRule source f c) := by
  obtain ⟨f, rfl⟩ : ∃ f', f = f' + 1 := ⟨f - 1, by omega⟩
  obtain ⟨hat, hbl, -, -⟩ := reads_back source f
  cases r with
  | style selector body span =>
    have hp := hr
    simp only [Rule.printable, Bool.and_eq_true] at hp
    obtain ⟨⟨⟨hS, hop⟩, hstop⟩, hbody⟩ := hp
    obtain ⟨B, hB⟩ := braced_eq_cons 0 (chars.itemsChars 0 body)
    have hsel : c.rest = dropBlank (selector.toList ++ [' ']) ++ '{' :: (B ++ more) := by
      rw [hc, dropBlank_chars_style, hB]
      simp
    obtain ⟨x, rest, hx, -, -, hatx, hcm⟩ := first_of_selector hS hop hstop hsel
    obtain ⟨d, hscan, hd, htext⟩ := scanUntil_selector hS hstop hsel
    have hdlen : d.rest.length ≤ c.rest.length := by simp [hsel, hd]
    obtain ⟨body', e, hread, hnorm, he⟩ :=
      readsAs_iff.mp (hbl d 0 body more hbody (by rw [hd, hB]; rfl) (by omega))
    rw [readRule, if_neg (by simp [hcm]), if_neg (by simp [peek, hx, hatx]), hscan]
    simp [htext, hread, ReadsAs, Rule.unspanned, hnorm, he]
  | atRule name prelude body span =>
    obtain ⟨R, hR⟩ := chars_atRule_cons name prelude body span 0
    have hc' : c.rest = (Rule.atRule name prelude body span).chars 0 ++ more := by
      rw [hc, dropBlank_of_head (by rw [hR]; exact fun x hx => by cases hx; decide)]
    have hat' : c.rest = '@' :: (R ++ more) := by rw [hc', hR]; rfl
    rw [readRule, if_neg (by simp [startsWith2_of_ne hat' (by decide : '@' ≠ '/')]),
      if_pos (by simp [peek, hat'])]
    exact hat c 0 name prelude body span more hr hc' (by omega)
  | comment text span =>
    have hc' : c.rest = '/' :: '*' :: text.toList ++ '*' :: '/' :: more := by
      rw [hc, Rule.chars, dropBlank_of_head (fun x hx => by cases hx; decide)]
      simp
    rw [readRule, if_pos (by simp [startsWith2, hc'])]
    exact readComment_printed source hr hc'

theorem sheetChars_cons (r : Rule) (rules : List Rule) :
    ∃ sep, (∀ x ∈ sep, isBlank x = true) ∧ sheetChars (r :: rules) = r.chars 0 ++ sep ++ sheetChars rules := by
  cases rules with
  | nil => exact ⟨['\n'], by simp [isBlank_newline], by simp [sheetChars]⟩
  | cons r' rules => exact ⟨['\n', '\n'], by simp [isBlank_newline], by simp [sheetChars]⟩

theorem readRules_sheetChars {rules : List Rule} (hp : ∀ r ∈ rules, r.printable = true) :
    ∀ (f : Nat) (c : Cursor) (acc : List Rule) (ws : List Char), (∀ x ∈ ws, isBlank x = true) →
      c.rest = ws ++ sheetChars rules → 3 * c.rest.length + 3 ≤ f →
      ∃ rules', readRules source f c acc = .ok (acc.reverse ++ rules') ∧
        rules'.map Rule.unspanned = rules.map Rule.unspanned := by
  induction rules with
  | nil =>
    intro f c acc ws hws hc hf
    obtain ⟨f, rfl⟩ : ∃ f', f = f' + 1 := ⟨f - 1, by omega⟩
    have hrest : c.skipBlank.rest = [] := by
      rw [rest_skipBlank, hc, sheetChars, List.append_nil, dropBlank_eq_nil hws]
    refine ⟨[], ?_, rfl⟩
    rw [readRules]
    simp [hrest]
  | cons r rules ih =>
    intro f c acc ws hws hc hf
    obtain ⟨f, rfl⟩ : ∃ f', f = f' + 1 := ⟨f - 1, by omega⟩
    obtain ⟨sep, hsep, hsheet⟩ := sheetChars_cons r rules
    have hrest : c.skipBlank.rest = dropBlank (r.chars 0) ++ (sep ++ sheetChars rules) := by
      rw [rest_skipBlank, hc, hsheet, dropBlank_blank_append hws, List.append_assoc,
        dropBlank_append_of_exists (exists_not_blank_chars r 0)]
    have hlen := length_skipBlank_le c
    obtain ⟨x, rest, hx, hclose, hsemi⟩ := first_of_printable (hp r (by simp)) hrest
    obtain ⟨r', e, hread, hnorm, he⟩ := readsAs_iff.mp
      (readRule_printed source (hp r (by simp)) hrest (by omega) :
        ReadsAs _ _ _ (readRule source f c.skipBlank))
    have hstep : readRules source (f + 1) c acc = readRules source f e (r' :: acc) := by
      rw [readRules]
      simp [hx, hclose, hsemi, hread]
    have helen : e.rest.length < c.rest.length := by
      obtain ⟨y, hy, -⟩ := exists_not_blank_chars r 0
      have := List.length_pos_of_mem hy
      rw [he, hc, hsheet]
      simp
      omega
    obtain ⟨rules', hrules', hmap⟩ :=
      ih (fun r hr => hp r (by simp [hr])) f e (r' :: acc) sep hsep (by rw [he]) (by omega)
    exact ⟨r' :: rules', by rw [hstep, hrules']; simp, by simp [hnorm, hmap]⟩

end TopLevel

theorem rest_start {text : String} (h : text.toList.head? ≠ some '\uFEFF') :
    (Cursor.start text).rest = text.toList := by
  unfold Cursor.start
  split
  · next rest hrest => simp [hrest] at h
  · rfl

/-- A stylesheet of printable rules, whose printed text does not begin with a byte order mark,
is read back from its rendering: the same rules, spans aside. -/
theorem parse_render_of_printable {s : Stylesheet} (hp : ∀ r ∈ s.rules, r.printable = true)
    (hbom : s.render.toList.head? ≠ some '\uFEFF') (filename : String) :
    ∃ s', parse s.render filename = .ok s' ∧ s'.filename = filename ∧
      s'.rules.map Rule.unspanned = s.rules.map Rule.unspanned := by
  have hstart : (Cursor.start s.render).rest = [] ++ sheetChars s.rules := by
    rw [rest_start hbom, render_toList]
    rfl
  obtain ⟨rules', hread, hmap⟩ := readRules_sheetChars filename hp _ _ [] [] (by simp) hstart le_rfl
  refine ⟨⟨filename, rules'⟩, ?_, rfl, hmap⟩
  simp [parse, hread, Except.map]

end CssBundle.Css
