import Mathlib
import CssBundle.Proofs.PackedText

/-!
# Reading the compressed layout back

The compressed layout puts no blank between texts: a selector is followed by its `{` at once, a
value by the `;` or `}` after it, a prelude by its `{` or `;`. The reader takes a rule back from
its packed text when each text ends the scan where the layout put the separator after it: the
scanner reads it to a settled end, not just after a backslash (`endsScan`), so that any stop
character after it ends the scan. With the texts trimmed, at-rule names made of name characters,
properties free of colons and comment texts free of `*/` (`Rule.packable`), the reader gives
back the same rules, spans aside.

As for the expanded layout (`CssBundle.Css.reads_back`), the readers are followed by fuel: the
statements `PackedAtRulesRead`, `PackedBlocksRead`, `PackedEntriesRead` and `PackedNestedRead`
hold at every amount of fuel (`packed_reads_back`), and the top-level rules are read one after
another (`readRules_packedRules`).
-/

namespace CssBundle.Css

open Text Cursor Scanner Rule

/-! ## Texts the scanner reads to a settled end -/

/-- Whether the scanner reads a whole text, from between constructs, to a settled end that is not
just after a backslash: every stop character after the text then ends the scan. -/
def endsScan (T : List Char) : Bool := settledAfter T && T.getLast? != some '\\'

theorem stopsAfter_of_endsScan {T : List Char} (h : endsScan T = true) {x : Char}
    (hx : isStop x = true) : stopsAfter T x = true := by
  simp only [endsScan, Bool.and_eq_true, bne_iff_ne, ne_eq] at h
  obtain ⟨s, hs, hset⟩ := settledAfter_iff.mp h.1
  exact stopsAfter_iff.mpr ⟨s, hs, step_eq_none_of_settled hset (ne_escape_of_getLast hs h.2) hx⟩

theorem isStop_head_of_endsScan {x : Char} {T : List Char} (h : endsScan (x :: T) = true) :
    isStop x = false := by
  simp only [endsScan, Bool.and_eq_true] at h
  exact isStop_head_of_settledAfter h.1

/-! ## Rules read back from their layout -/

/-- Whether the reader takes a rule back from its packed text: every text trimmed and read to a
settled end by the scanner, a selector and a property opening plain, an at-rule name a run of
name characters, a property free of colons, and a comment's text free of `*/`. -/
def Rule.packable : Rule → Bool
  | .style selector body _ =>
    isTrimmed selector.toList && opensPlain selector.toList && endsScan selector.toList &&
      packableItems body
  | .atRule name prelude none _ =>
    !name.toList.isEmpty && name.toList.all isNameChar && isTrimmed prelude.toList &&
      endsScan prelude.toList
  | .atRule name prelude (some body) _ =>
    !name.toList.isEmpty && name.toList.all isNameChar && isTrimmed prelude.toList &&
      endsScan prelude.toList && packableItems body
  | .comment text _ => !decide (['*', '/'] <:+: text.toList)
where
  packableItems : List Item → Bool
    | [] => true
    | .decl property value _ :: rest =>
      !property.toList.isEmpty && isTrimmed property.toList && opensPlain property.toList &&
        !property.toList.contains ':' && isTrimmed value.toList &&
        endsScan (property.toList ++ ':' :: value.toList) && packableItems rest
    | .rule r :: rest => packable r && packableItems rest

/-! ## Steps of reading a known layout -/

theorem preludeChars_eq (P : String) :
    ∃ ws, (∀ x ∈ ws, isBlank x = true) ∧ preludeChars P = ws ++ P.toList := by
  unfold preludeChars
  split
  · next h => exact ⟨[], by simp, by simp [String.isEmpty_iff.mp h]⟩
  · exact ⟨[' '], by simp [isBlank_space], rfl⟩

/-- A trimmed text read to a settled end, after blanks, is scanned up to the stop after it, and
trims back to itself. -/
theorem scanUntil_trimmed {c : Cursor} (ws : List Char) {T : List Char} {x : Char}
    {more : List Char} (hws : ∀ x ∈ ws, isBlank x = true) (hT : isTrimmed T = true)
    (hend : endsScan T = true) (hx : isStop x = true) (hc : c.rest = ws ++ T ++ x :: more) :
    ∃ d, scanUntil c = .ok (some x, d) ∧ d.rest = x :: more ∧ trimChars (textTo c d) = T := by
  obtain ⟨d, hscan, hd, htext⟩ := scanUntil_of_stopsAfter
    (by rw [stopsAfter_blank_append hws]; exact stopsAfter_of_endsScan hend hx) hc
  refine ⟨d, hscan, hd, ?_⟩
  rw [htext]
  simpa using trimChars_of_isTrimmed hT hws (r := []) (by simp)

theorem scanUntil_prelude {c : Cursor} {P : String} {x : Char} {more : List Char}
    (hP : isTrimmed P.toList = true) (hend : endsScan P.toList = true) (hx : isStop x = true)
    (hc : c.rest = preludeChars P ++ x :: more) :
    ∃ d, scanUntil c = .ok (some x, d) ∧ d.rest = x :: more ∧ trimChars (textTo c d) = P.toList := by
  obtain ⟨ws, hws, hpc⟩ := preludeChars_eq P
  exact scanUntil_trimmed ws hws hP hend hx (by rw [hc, hpc])

/-- What follows an at-rule's name in its packed text, a space or a separator, is no name
character. -/
theorem preludeChars_head (P : String) {T : List Char} (hT : ∀ y ∈ T.head?, isNameChar y = false) :
    ∀ y ∈ (preludeChars P ++ T).head?, isNameChar y = false := by
  unfold preludeChars
  split
  · simpa using hT
  · simp only [List.cons_append, List.head?_cons, Option.mem_def, Option.some.injEq]
    rintro y rfl
    decide

/-- The name of a packed at-rule is read whole; the prelude and the rest of the rule's text come
after it. -/
theorem packed_atRule_name_read {c : Cursor} {name prelude : String} {body : Option (List Item)}
    {span : Span} {more : List Char} (hNc : ∀ x ∈ name.toList, isNameChar x = true)
    (hc : c.rest = (Rule.atRule name prelude body span).packed ++ more) :
    c.bump.rest.takeWhile isNameChar = name.toList ∧
      String.ofList (c.bump.rest.take name.toList.length) = name ∧
      (bump^[name.toList.length] c.bump).rest = preludeChars prelude ++
        ((body.elim [';'] fun items => '{' :: packed.packedItems items false ++ ['}']) ++ more) := by
  have hafterAt : c.bump.rest = name.toList ++ (preludeChars prelude ++
      ((body.elim [';'] fun items => '{' :: packed.packedItems items false ++ ['}']) ++ more)) := by
    cases body <;> simp [rest_bump, hc, Rule.packed]
  have hR := preludeChars_head prelude (T := (body.elim [';'] fun items =>
    '{' :: packed.packedItems items false ++ ['}']) ++ more)
    (by cases body <;> simp [isNameChar, Text.isAlphanumeric])
  refine ⟨by rw [hafterAt]; exact takeWhile_isNameChar hNc hR, ?_, ?_⟩
  · rw [hafterAt, List.take_left' rfl, String.ofList_toList]
  · rw [rest_iterate_bump, hafterAt, List.drop_left' rfl]

/-- A packed declaration is read back with its property and value, and with the `;` after it;
a `}` after it is left for the block. -/
theorem readItem_packedDecl (source : String) {f : Nat} {c : Cursor} {property value : String}
    {span : Span} {rest : List Item} {x : Char} {more : List Char}
    (hp : packable.packableItems (.decl property value span :: rest) = true) (hx : x = ';' ∨ x = '}')
    (hc : c.rest = property.toList ++ ':' :: value.toList ++ x :: more) :
    ReadsAs (fun i => unspanned.unspannedItems [i]) (.decl property value span)
      (if x = ';' then more else x :: more) (readItem source (f + 1) c) := by
  simp only [packable.packableItems, Bool.and_eq_true, Bool.not_eq_true'] at hp
  obtain ⟨⟨⟨⟨⟨⟨hP, hPt⟩, -⟩, hcolon⟩, hVt⟩, hend⟩, -⟩ := hp
  obtain ⟨d, hscan, hd, htext⟩ := scanUntil_of_stopsAfter
    (stopsAfter_of_endsScan hend (by rcases hx with rfl | rfl <;> rfl))
    (show c.rest = (property.toList ++ ':' :: value.toList) ++ x :: more by rw [hc])
  have hsplit : splitDeclaration (property.toList ++ ':' :: value.toList) =
      some (String.ofList property.toList, String.ofList value.toList) :=
    splitDeclaration_of_blank [] (by simpa using hP) hPt (by simpa using hcolon) (by simp) hVt
  rw [readItem]
  rcases hx with rfl | rfl
  · simp [hscan, htext, hsplit, ReadsAs, unspanned.unspannedItems, rest_bump, hd]
  · simp [hscan, htext, hsplit, ReadsAs, unspanned.unspannedItems, hd]

/-- A packed declaration among the entries of a block is read back, and the reader stands at the
entry after it, or at the closing brace. -/
theorem readItem_packedEntry (source : String) {f : Nat} {c : Cursor} {property value : String}
    {span : Span} {rest : List Item} {more : List Char}
    (hp : packable.packableItems (.decl property value span :: rest) = true)
    (hc : c.rest = packed.packedItems (.decl property value span :: rest) false ++ '}' :: more) :
    ReadsAs (fun i => unspanned.unspannedItems [i]) (.decl property value span)
      (packed.packedItems rest false ++ '}' :: more) (readItem source (f + 1) c) := by
  simp only [packed.packedItems, packedItems_true] at hc
  by_cases hnil : rest = []
  · subst hnil
    simpa [packed.packedItems] using readItem_packedDecl source hp (Or.inr rfl) (by simpa using hc)
  · simpa using readItem_packedDecl source hp (Or.inl rfl)
      (show c.rest = property.toList ++ ':' :: value.toList ++
        ';' :: (packed.packedItems rest false ++ '}' :: more) by simp [hc, hnil])

theorem packed_cons {r : Rule} (hr : r.packable = true) :
    ∃ x R, r.packed = x :: R ∧ isBlank x = false ∧ x ≠ '}' ∧ x ≠ ';' := by
  cases r with
  | style selector body span =>
    simp only [Rule.packable, Bool.and_eq_true] at hr
    obtain ⟨⟨⟨hS, -⟩, hend⟩, -⟩ := hr
    cases hsel : selector.toList with
    | nil =>
      exact ⟨'{', packed.packedItems body false ++ ['}'], by simp [Rule.packed, hsel], by decide,
        by decide, by decide⟩
    | cons x S =>
      rw [hsel] at hS hend
      have hstop := isStop_head_of_endsScan hend
      refine ⟨x, S ++ '{' :: (packed.packedItems body false ++ ['}']), by simp [Rule.packed, hsel],
        isBlank_head_of_isTrimmed hS, ?_, ?_⟩ <;>
        rintro rfl <;> simp [isStop] at hstop
  | atRule name prelude body span =>
    cases body <;> exact ⟨'@', _, rfl, by decide, by decide, by decide⟩
  | comment text span => exact ⟨'/', _, rfl, by decide, by decide, by decide⟩

/-- A packed selector, or the block's brace when it is empty, opens an entry that is not a closing
brace, a semicolon, an at-rule or a comment. -/
theorem first_of_packedSelector {c : Cursor} {S B : List Char} (hop : opensPlain S = true)
    (hend : endsScan S = true) (hc : c.rest = S ++ '{' :: B) :
    ∃ x rest, c.rest = x :: rest ∧ x ≠ '}' ∧ x ≠ ';' ∧ x ≠ '@' ∧ c.startsWith2 '/' '*' = false := by
  cases S with
  | nil => exact ⟨'{', B, hc, by decide, by decide, by decide, startsWith2_of_ne hc (by decide)⟩
  | cons s S =>
    obtain ⟨hclose, hsemi, hat, hcm⟩ :=
      first_of_opensPlain (U := '{' :: B) hc hop (by simp) (isStop_head_of_endsScan hend)
    exact ⟨s, S ++ '{' :: B, by rw [hc]; rfl, hclose, hsemi, hat, hcm⟩

/-! ## The readers, by fuel -/

section Fuel

variable (source : String)

/-- With `f` fuel, `readAtRule` takes back every packable at-rule from its packed text. -/
def PackedAtRulesRead (f : Nat) : Prop :=
  ∀ (c : Cursor) (name prelude : String) (body : Option (List Item)) (span : Span)
    (more : List Char), (Rule.atRule name prelude body span).packable = true →
    c.rest = (Rule.atRule name prelude body span).packed ++ more → 3 * c.rest.length ≤ f →
    ReadsAs Rule.unspanned (.atRule name prelude body span) more (readAtRule source f c)

/-- With `f` fuel, `readBlock` takes back the packed block of packable entries. -/
def PackedBlocksRead (f : Nat) : Prop :=
  ∀ (c : Cursor) (items : List Item) (more : List Char), packable.packableItems items = true →
    c.rest = '{' :: packed.packedItems items false ++ '}' :: more → 3 * c.rest.length ≤ f + 1 →
    ReadsAs unspanned.unspannedItems items more (readBlock source f c)

/-- With `f` fuel, `readItems` takes back packed entries up to the closing brace, after the
entries already read. -/
def PackedEntriesRead (f : Nat) : Prop :=
  ∀ (o : Location) (c : Cursor) (items acc : List Item) (more : List Char),
    packable.packableItems items = true →
    c.rest = packed.packedItems items false ++ '}' :: more → 3 * c.rest.length + 1 ≤ f →
    ReadsAs unspanned.unspannedItems (acc.reverse ++ items) more (readItems source f o c acc)

/-- With `f` fuel, `readItem` takes back a packable style rule nested in a block. -/
def PackedNestedRead (f : Nat) : Prop :=
  ∀ (c : Cursor) (selector : String) (body : List Item) (span : Span) (more : List Char),
    (Rule.style selector body span).packable = true →
    c.rest = (Rule.style selector body span).packed ++ more → 3 * c.rest.length ≤ f →
    ReadsAs (fun i => unspanned.unspannedItems [i]) (.rule (.style selector body span)) more
      (readItem source f c)

theorem style_packed_read {f : Nat} (hbl : PackedBlocksRead source f) {c : Cursor}
    {selector : String} {body : List Item} {span : Span} {more : List Char}
    (hp : (Rule.style selector body span).packable = true)
    (hc : c.rest = (Rule.style selector body span).packed ++ more) (hf : 3 * c.rest.length ≤ f + 1) :
    ∃ d, scanUntil c = .ok (some '{', d) ∧ trimChars (textTo c d) = selector.toList ∧
      ReadsAs unspanned.unspannedItems body more (readBlock source f d) := by
  simp only [Rule.packable, Bool.and_eq_true] at hp
  obtain ⟨⟨⟨hS, -⟩, hend⟩, hbody⟩ := hp
  obtain ⟨d, hscan, hd, htext⟩ := scanUntil_trimmed [] (by simp) hS hend rfl
    (show c.rest = [] ++ selector.toList ++ '{' :: (packed.packedItems body false ++ '}' :: more) by
      rw [hc]; simp [Rule.packed])
  have hdlen : d.rest.length ≤ c.rest.length := by simp [hc, hd, Rule.packed]
  exact ⟨d, hscan, htext, hbl d body more hbody (by rw [hd]; rfl) (by omega)⟩

theorem PackedNestedRead.succ {f : Nat} (hbl : PackedBlocksRead source f) :
    PackedNestedRead source (f + 1) := by
  intro c selector body span more hp hc hf
  obtain ⟨d, hscan, htext, hblock⟩ := style_packed_read source hbl hp hc (by omega)
  obtain ⟨body', e, hread, hnorm, he⟩ := readsAs_iff.mp hblock
  rw [readItem]
  simp only [hscan, htext, if_true, hread, String.ofList_toList]
  exact ⟨by simp [unspanned.unspannedItems, unspanned, hnorm], he⟩

theorem PackedBlocksRead.succ {f : Nat} (hit : PackedEntriesRead source f) :
    PackedBlocksRead source (f + 1) := by
  intro c items more hp hc hf
  have hrest : c.bump.rest = packed.packedItems items false ++ '}' :: more := by
    simp [rest_bump, hc]
  have hlen : c.bump.rest.length + 1 = c.rest.length := by simp [rest_bump, hc]
  rw [readBlock]
  simpa using hit c.here c.bump items [] more hp hrest (by omega)

theorem PackedAtRulesRead.succ {f : Nat} (hbl : PackedBlocksRead source f) :
    PackedAtRulesRead source (f + 1) := by
  intro c name prelude body span more hp hc hf
  obtain ⟨hN, hNc, hQ, hend⟩ : name.toList ≠ [] ∧ (∀ x ∈ name.toList, isNameChar x = true) ∧
      isTrimmed prelude.toList = true ∧ endsScan prelude.toList = true := by
    cases body <;> simp_all [Rule.packable]
  obtain ⟨htake, hname, hafterName⟩ := packed_atRule_name_read hNc hc
  rw [readAtRule]
  simp only [htake, foldl_range_bump, hname]
  rw [if_neg (by simpa using hN)]
  cases body with
  | none =>
    obtain ⟨d, hscan, hd, htext⟩ := scanUntil_prelude hQ hend rfl
      (show (bump^[name.toList.length] c.bump).rest = preludeChars prelude ++ ';' :: more by
        rw [hafterName]; rfl)
    rw [hscan]
    simp [htext, ReadsAs, Rule.unspanned, rest_bump, hd]
  | some items =>
    have hitems : packable.packableItems items = true := by simp_all [Rule.packable]
    obtain ⟨d, hscan, hd, htext⟩ := scanUntil_prelude hQ hend rfl
      (show (bump^[name.toList.length] c.bump).rest =
        preludeChars prelude ++ '{' :: (packed.packedItems items false ++ '}' :: more) by
        rw [hafterName]; simp)
    have hdlen : d.rest.length < c.rest.length := by
      rw [hd, hc]
      simp [Rule.packed]
      omega
    obtain ⟨body', e, hread, hnorm, he⟩ :=
      readsAs_iff.mp (hbl d items more hitems hd (by omega))
    rw [hscan]
    simp [htext, hread, ReadsAs, Rule.unspanned, hnorm, he]

theorem PackedEntriesRead.next {f : Nat} (hit : PackedEntriesRead source f) {o : Location}
    {it it' : Item} {items acc : List Item} {more : List Char} {e : Cursor}
    (hp : packable.packableItems items = true)
    (hnorm : unspanned.unspannedItems [it'] = unspanned.unspannedItems [it])
    (he : e.rest = packed.packedItems items false ++ '}' :: more) (hf : 3 * e.rest.length + 1 ≤ f) :
    ReadsAs unspanned.unspannedItems (acc.reverse ++ it :: items) more
      (readItems source f o e (it' :: acc)) :=
  (hit o e items (it' :: acc) more hp he hf).congr (unspannedItems_reverse_cons hnorm acc items)

theorem PackedEntriesRead.decl {f : Nat} (hit : PackedEntriesRead source f) {o : Location}
    {c : Cursor} {property value : String} {span : Span} {items acc : List Item} {more : List Char}
    (hp : packable.packableItems (.decl property value span :: items) = true)
    (hc : c.rest = packed.packedItems (.decl property value span :: items) false ++ '}' :: more)
    (hf : 3 * c.rest.length + 1 ≤ f + 1) :
    ReadsAs unspanned.unspannedItems (acc.reverse ++ .decl property value span :: items) more
      (readItems source (f + 1) o c acc) := by
  set more' := packed.packedItems items false ++ '}' :: more with hmore'
  have hP : property.toList ≠ [] ∧ isTrimmed property.toList = true ∧
      opensPlain property.toList = true ∧
      endsScan (property.toList ++ ':' :: value.toList) = true ∧
      packable.packableItems items = true := by
    simp_all [packable.packableItems]
  obtain ⟨x, P, hx⟩ := List.exists_cons_of_ne_nil hP.1
  have hrest : c.skipBlank.rest = c.rest := by
    rw [rest_skipBlank, hc]
    refine dropBlank_of_head fun y hy => ?_
    simp only [packed.packedItems, Bool.false_eq_true, if_false, List.nil_append, hx,
      List.cons_append, List.head?_cons, Option.mem_def, Option.some.injEq] at hy
    subst hy
    exact isBlank_head_of_isTrimmed (hx ▸ hP.2.1)
  have hstop : isStop x = false := by
    refine isStop_head_of_endsScan (T := P ++ ':' :: value.toList) ?_
    rw [← List.cons_append, ← hx]
    exact hP.2.2.2.1
  obtain ⟨hclose, hsemi, hat', hcm⟩ := first_of_opensPlain
    (show c.skipBlank.rest = (x :: P) ++ (':' :: value.toList ++ packed.packedItems items true ++
      '}' :: more) by rw [hrest, hc, ← hx]; simp [packed.packedItems])
    (by rw [← hx]; exact hP.2.2.1) (by simp) hstop
  have hlen : more'.length < c.rest.length := by
    rw [hc, hmore']
    by_cases hnil : items = []
    · subst hnil
      simp [packed.packedItems]
      omega
    · simp [packed.packedItems, packedItems_true, hnil]
      omega
  obtain ⟨f, rfl⟩ : ∃ f', f = f' + 1 := ⟨f - 1, by omega⟩
  obtain ⟨it', e, hread, hnorm, he⟩ := readsAs_iff.mp
    (readItem_packedEntry source hp (hrest.trans hc) :
      ReadsAs _ _ _ (readItem source (f + 1) c.skipBlank))
  have hhead : c.skipBlank.rest =
      x :: (P ++ ':' :: (value.toList ++ (packed.packedItems items true ++ '}' :: more))) := by
    simp [hrest, hc, packed.packedItems, hx]
  rw [readItems_plain source hhead hclose hsemi hat' hcm, hread]
  exact PackedEntriesRead.next source hit hP.2.2.2.2 hnorm he (by rw [he, ← hmore']; omega)

/-- Entries that open with a rule: the loop hands it to the reader its first characters call for,
and goes on after it. -/
theorem PackedEntriesRead.rule {f : Nat} (hat : PackedAtRulesRead source f)
    (hst : PackedNestedRead source f) (hit : PackedEntriesRead source f) {o : Location} {c : Cursor}
    {r : Rule} {items acc : List Item} {more : List Char}
    (hp : packable.packableItems (.rule r :: items) = true)
    (hc : c.rest = packed.packedItems (.rule r :: items) false ++ '}' :: more)
    (hf : 3 * c.rest.length + 1 ≤ f + 1) :
    ReadsAs unspanned.unspannedItems (acc.reverse ++ .rule r :: items) more
      (readItems source (f + 1) o c acc) := by
  set more' := packed.packedItems items false ++ '}' :: more with hmore'
  have hr : r.packable = true ∧ packable.packableItems items = true := by
    simpa [packable.packableItems] using hp
  obtain ⟨x, R, hR, hblank, -, -⟩ := packed_cons hr.1
  have hc' : c.rest = r.packed ++ more' := by rw [hc]; simp [packed.packedItems, more']
  have hrest : c.skipBlank.rest = r.packed ++ more' := by
    rw [rest_skipBlank, hc', hR]
    exact dropBlank_of_head (by simpa using hblank)
  have hsub : 3 * c.skipBlank.rest.length ≤ f := by rw [hrest, ← hc']; omega
  have hnext : 3 * more'.length + 1 ≤ f := by
    have hlen : c.rest.length = R.length + 1 + more'.length := by
      rw [hc', hR]; simp; omega
    omega
  cases r with
  | style selector body span =>
    have hp' := hr.1
    simp only [Rule.packable, Bool.and_eq_true] at hp'
    obtain ⟨⟨⟨-, hop⟩, hend⟩, -⟩ := hp'
    obtain ⟨y, rest, hy, hclose, hsemi, haty, hcm⟩ := first_of_packedSelector hop hend
      (show c.skipBlank.rest = selector.toList ++ '{' :: (packed.packedItems body false ++
        '}' :: more') by rw [hrest]; simp [Rule.packed])
    obtain ⟨it', e, hread, hnorm, he⟩ :=
      readsAs_iff.mp (hst c.skipBlank selector body span more' hr.1 hrest hsub)
    rw [readItems_plain source hy hclose hsemi haty hcm, hread]
    exact PackedEntriesRead.next source hit hr.2 hnorm he (by rw [he]; exact hnext)
  | atRule name prelude body span =>
    obtain ⟨r', e, hread, hnorm, he⟩ :=
      readsAs_iff.mp (hat c.skipBlank name prelude body span more' hr.1 hrest hsub)
    have hxat : x = '@' := by cases body <;> simp [Rule.packed] at hR <;> exact hR.1.symm
    rw [readItems_at source (show c.skipBlank.rest = '@' :: (R ++ more') by
      rw [hrest, hR, hxat]; rfl), hread]
    exact PackedEntriesRead.next source hit hr.2 (by simp [unspanned.unspannedItems, hnorm]) he
      (by rw [he]; exact hnext)
  | comment text span =>
    have hrest' : c.skipBlank.rest = '/' :: '*' :: text.toList ++ '*' :: '/' :: more' := by
      rw [hrest]; simp [Rule.packed]
    obtain ⟨r', e, hread, hnorm, he⟩ := readsAs_iff.mp
      (readComment_printed source (show (Rule.comment text span).printable = true by
        simpa [Rule.printable, Rule.packable] using hr.1) hrest')
    rw [readItems_comment source hrest', hread]
    exact PackedEntriesRead.next source hit hr.2 (by simp [unspanned.unspannedItems, hnorm]) he
      (by rw [he]; exact hnext)

theorem PackedEntriesRead.succ {f : Nat} (hat : PackedAtRulesRead source f)
    (hst : PackedNestedRead source f) (hit : PackedEntriesRead source f) :
    PackedEntriesRead source (f + 1) := by
  intro o c items acc more hp hc hf
  cases items with
  | nil =>
    have hrest : c.skipBlank.rest = '}' :: more := by
      rw [rest_skipBlank, hc, packed.packedItems, List.nil_append]
      exact dropBlank_of_head fun y hy => by cases hy; decide
    rw [readItems_close source hrest]
    simp [ReadsAs, rest_bump, hrest]
  | cons it items =>
    cases it with
    | decl property value span => exact PackedEntriesRead.decl source hit hp hc hf
    | rule r => exact PackedEntriesRead.rule source hat hst hit hp hc hf

theorem packed_reads_back (f : Nat) :
    PackedAtRulesRead source f ∧ PackedBlocksRead source f ∧ PackedEntriesRead source f ∧
      PackedNestedRead source f := by
  induction f with
  | zero =>
    refine ⟨fun c name prelude body span more _ hc hf => ?_, fun c items more _ hc hf => ?_,
      fun _ _ _ _ _ _ _ hf => absurd hf (by omega), fun c selector body span more _ hc hf => ?_⟩
    · cases body <;> simp [hc, Rule.packed] at hf
    · simp [hc] at hf
      omega
    · simp [hc, Rule.packed] at hf
  | succ f ih =>
    obtain ⟨hat, hbl, hit, hst⟩ := ih
    exact ⟨PackedAtRulesRead.succ source hbl, PackedBlocksRead.succ source hit,
      PackedEntriesRead.succ source hat hst hit, PackedNestedRead.succ source hbl⟩

end Fuel

/-! ## Top-level rules -/

section TopLevel

variable (source : String)

theorem readRule_packed {f : Nat} {c : Cursor} {r : Rule} {more : List Char}
    (hr : r.packable = true) (hc : c.rest = r.packed ++ more) (hf : 3 * c.rest.length + 2 ≤ f) :
    ReadsAs Rule.unspanned r more (readRule source f c) := by
  obtain ⟨f, rfl⟩ : ∃ f', f = f' + 1 := ⟨f - 1, by omega⟩
  obtain ⟨hat, hbl, -, -⟩ := packed_reads_back source f
  cases r with
  | style selector body span =>
    have hp := hr
    simp only [Rule.packable, Bool.and_eq_true] at hp
    obtain ⟨⟨⟨-, hop⟩, hend⟩, -⟩ := hp
    obtain ⟨x, rest, hx, -, -, hatx, hcm⟩ := first_of_packedSelector hop hend
      (show c.rest = selector.toList ++ '{' :: (packed.packedItems body false ++ '}' :: more) by
        rw [hc]; simp [Rule.packed])
    obtain ⟨d, hscan, htext, hblock⟩ := style_packed_read source hbl hr hc (by omega)
    obtain ⟨body', e, hread, hnorm, he⟩ := readsAs_iff.mp hblock
    rw [readRule, if_neg (by simp [hcm]), if_neg (by simp [peek, hx, hatx]), hscan]
    simp [htext, hread, ReadsAs, Rule.unspanned, hnorm, he]
  | atRule name prelude body span =>
    have hat' : c.rest = '@' :: ((Rule.atRule name prelude body span).packed.tail ++ more) := by
      rw [hc]; cases body <;> rfl
    rw [readRule, if_neg (by simp [startsWith2_of_ne hat' (by decide : '@' ≠ '/')]),
      if_pos (by simp [peek, hat'])]
    exact hat c name prelude body span more hr hc (by omega)
  | comment text span =>
    have hc' : c.rest = '/' :: '*' :: text.toList ++ '*' :: '/' :: more := by
      rw [hc]; simp [Rule.packed]
    rw [readRule, if_pos (by simp [startsWith2, hc'])]
    exact readComment_printed source (by simpa [Rule.printable, Rule.packable] using hr) hc'

theorem readRules_packedRules {rules : List Rule} (hp : ∀ r ∈ rules, r.packable = true) :
    ∀ (f : Nat) (c : Cursor) (acc : List Rule), c.rest = packedRules rules →
      3 * c.rest.length + 3 ≤ f →
      ∃ rules', readRules source f c acc = .ok (acc.reverse ++ rules') ∧
        rules'.map Rule.unspanned = rules.map Rule.unspanned := by
  induction rules with
  | nil =>
    intro f c acc hc hf
    obtain ⟨f, rfl⟩ : ∃ f', f = f' + 1 := ⟨f - 1, by omega⟩
    have hrest : c.skipBlank.rest = [] := by rw [rest_skipBlank, hc]; rfl
    refine ⟨[], ?_, rfl⟩
    rw [readRules]
    simp [hrest]
  | cons r rules ih =>
    intro f c acc hc hf
    obtain ⟨f, rfl⟩ : ∃ f', f = f' + 1 := ⟨f - 1, by omega⟩
    obtain ⟨x, R, hR, hblank, hclose, hsemi⟩ := packed_cons (hp r (by simp))
    have hrest : c.skipBlank.rest = c.rest := by
      rw [rest_skipBlank, hc, packedRules, List.flatMap_cons, hR]
      exact dropBlank_of_head (by simpa using hblank)
    have hc' : c.skipBlank.rest = r.packed ++ packedRules rules := by
      rw [hrest, hc, packedRules, List.flatMap_cons]
      rfl
    obtain ⟨r', e, hread, hnorm, he⟩ := readsAs_iff.mp
      (readRule_packed source (hp r (by simp)) hc' (by rw [hrest]; omega) :
        ReadsAs _ _ _ (readRule source f c.skipBlank))
    have hstep : readRules source (f + 1) c acc = readRules source f e (r' :: acc) := by
      rw [readRules]
      simp [hc', hR, hclose, hsemi, hread]
    have helen : e.rest.length < c.rest.length := by
      rw [he, ← hrest, hc', hR]
      simp
    obtain ⟨rules', hrules', hmap⟩ :=
      ih (fun r hr => hp r (by simp [hr])) f e (r' :: acc) he (by omega)
    exact ⟨r' :: rules', by rw [hstep, hrules']; simp, by simp [hnorm, hmap]⟩

end TopLevel

/-- A text whose characters are the packed text of packable rules, and that does not begin with a
byte order mark, is read back as those rules, spans aside. -/
theorem parse_packedRules {rules : List Rule} (hp : ∀ r ∈ rules, r.packable = true) {text : String}
    (htext : text.toList = packedRules rules) (hbom : text.toList.head? ≠ some '\uFEFF')
    (filename : String) :
    ∃ s', parse text filename = .ok s' ∧ s'.filename = filename ∧
      s'.rules.map Rule.unspanned = rules.map Rule.unspanned := by
  have hstart : (Cursor.start text).rest = packedRules rules := by rw [rest_start hbom, htext]
  obtain ⟨rules', hread, hmap⟩ := readRules_packedRules filename hp _ _ [] hstart le_rfl
  refine ⟨⟨filename, rules'⟩, ?_, rfl, hmap⟩
  simp [parse, hread, Except.map]

end CssBundle.Css
