import Mathlib
import CssBundle.Proofs.Reread

/-!
# The rules the reader returns

Every rule the reader returns has each of its texts trimmed and scanned to a settled end, outside
strings, comments and brackets (`Rule.readable`). Such a rule is read back from its printed text
(`Rule.printable`) unless a declaration value, or the prelude of an at-rule without a block, ends
in a backslash (`Rule.endsInBackslash`): the reader trims blanks off the end of such a text, so an
escaping backslash is left last; the printer then writes its `;` right after it, and on reading
again the backslash takes the `;`.

Blanks do not unsettle a scan, a colon inside a declaration is as good as the printer's `: `, and
a space after a settled end leaves the scanner plain; so a trimmed text is scanned to a settled
end as well, and the printer's separators after it still end the scan, the `;` unless the scan
stood just after a backslash (`stopsAfter_trim_space`, `settledAfter_trim`,
`settledAfter_declaration`, `stopsAfter_of_settledAfter`).

The readers are followed by fuel, as in `CssBundle.Css.readers_spec`. Main statements:
`readable_of_parse`, every rule of a parsed stylesheet is readable, and
`Rule.printable_of_readable`, a readable rule with no text ending in a backslash is printable.
-/

namespace CssBundle.Css

open Text Cursor Scanner Rule

/-! ## Texts scanned to a settled end -/

/-- Whether the scanner reads a whole text, from between constructs, to a settled end. -/
def settledAfter (T : List Char) : Bool :=
  ((Scanner.plain []).feed T).any Scanner.settled

theorem settledAfter_iff {T : List Char} :
    settledAfter T = true ↔ ∃ s, (Scanner.plain []).feed T = some s ∧ s.settled = true := by
  unfold settledAfter
  cases (Scanner.plain []).feed T <;> simp

theorem isStop_head_of_settledAfter {x : Char} {T : List Char} (h : settledAfter (x :: T) = true) :
    isStop x = false := by
  by_contra hx
  simp only [Bool.not_eq_false] at hx
  obtain ⟨s, hs, -⟩ := settledAfter_iff.mp h
  simp [feed_cons, step, plainStep, hx] at hs

theorem settled_of_feed_trim {l Q r : List Char} {s : Scanner} (hl : ∀ x ∈ l, isBlank x = true)
    (hr : ∀ x ∈ r, isBlank x = true) (h : (Scanner.plain []).feed (l ++ Q ++ r) = some s)
    (hs : s.settled = true) : ∃ sQ, (Scanner.plain []).feed Q = some sQ ∧ sQ.settled = true := by
  rw [List.append_assoc, feed_append, feed_plain_of_isBlank hl, Option.bind_some, feed_append] at h
  cases hQ : (Scanner.plain []).feed Q with
  | none => simp [hQ] at h
  | some sQ =>
    rw [hQ, Option.bind_some] at h
    exact ⟨sQ, rfl, settled_of_feed_blank (quotesOk_feed rfl hQ) hr h hs⟩

theorem settledAfter_trim {T : List Char} {s : Scanner} (h : (Scanner.plain []).feed T = some s)
    (hs : s.settled = true) : settledAfter (trimChars T) = true := by
  obtain ⟨l, r, hl, hr, hT⟩ := trimChars_decomp T
  rw [hT] at h
  exact settledAfter_iff.mpr (settled_of_feed_trim hl hr h hs)

theorem ne_escape_of_getLast {X : List Char} {s : Scanner} (h : (Scanner.plain []).feed X = some s)
    (hX : X.getLast? ≠ some '\\') : ∀ st, s ≠ .escape st := by
  rintro st rfl
  exact hX (getLast?_of_feed_escape h)

theorem stopsAfter_of_settledAfter {T : List Char} (h : settledAfter T = true)
    (hesc : T.getLast? ≠ some '\\') : stopsAfter T ';' = true := by
  obtain ⟨s, hs, hset⟩ := settledAfter_iff.mp h
  exact stopsAfter_iff.mpr ⟨s, hs, step_eq_none_of_settled hset (ne_escape_of_getLast hs hesc) rfl⟩

/-- A selector or block prelude scanned to a settled end stops the scan at the printer's space
and `{`: a space after a backslash is taken with it, and leaves the scanner plain. -/
theorem stopsAfter_trim_space {T : List Char} {s : Scanner} (h : (Scanner.plain []).feed T = some s)
    (hs : s.settled = true) : stopsAfter (trimChars T ++ [' ']) '{' = true := by
  obtain ⟨l, r, hl, hr, hT⟩ := trimChars_decomp T
  rw [hT] at h
  obtain ⟨sQ, hQ, hsQ⟩ := settled_of_feed_trim hl hr h hs
  rw [stopsAfter_iff]
  refine ⟨Scanner.plain [], ?_, by simp [step, plainStep, isStop]⟩
  rw [feed_append, hQ, Option.bind_some,
    feed_of_isPlainChar (quotesOk_feed rfl hQ) (by simp; decide) (by simp), pass_of_settled hsQ]

theorem feed_colon {s : Scanner} (hq : s.quotesOk = true) {mid : List Char}
    (hmid : ∀ x ∈ mid, isPlainChar x = true) (hne : mid ≠ []) (V : List Char) :
    s.feed (mid ++ V) = s.feed (':' :: ' ' :: V) := by
  rw [feed_append, feed_of_isPlainChar hq hmid hne, show ':' :: ' ' :: V = [':', ' '] ++ V from rfl,
    feed_append, feed_of_isPlainChar hq (by simp; decide) (by simp)]

/-- A declaration scanned to a settled end, printed as `property: value`, is scanned to a
settled end. -/
theorem settledAfter_declaration {before after : List Char} {s : Scanner}
    (h : (Scanner.plain []).feed (before ++ ':' :: after) = some s) (hs : s.settled = true) :
    settledAfter (trimChars before ++ ':' :: ' ' :: trimChars after) = true := by
  obtain ⟨l1, r1, hl1, hr1, hb⟩ := trimChars_decomp before
  obtain ⟨l2, r2, hl2, hr2, ha⟩ := trimChars_decomp after
  set P := trimChars before
  set V := trimChars after
  have htext : before ++ ':' :: after = l1 ++ (P ++ ((r1 ++ ':' :: l2) ++ V)) ++ r2 := by
    rw [hb, ha]
    simp
  rw [htext] at h
  obtain ⟨sV, hV, hsV⟩ := settled_of_feed_trim hl1 hr2 h hs
  cases hP : (Scanner.plain []).feed P with
  | none => simp [feed_append, hP] at hV
  | some sP =>
    have hmid : ∀ x ∈ r1 ++ ':' :: l2, isPlainChar x = true := by
      intro x hx
      rcases List.mem_append.mp hx with hx | hx
      · exact isPlainChar_of_isBlank (hr1 x hx)
      · rcases List.mem_cons.mp hx with rfl | hx
        · decide
        · exact isPlainChar_of_isBlank (hl2 x hx)
    refine settledAfter_iff.mpr ⟨sV, ?_, hsV⟩
    rw [← hV, feed_append _ P, feed_append _ P, hP, Option.bind_some, Option.bind_some,
      feed_colon (quotesOk_feed rfl hP) hmid (by simp)]

theorem getLast_declaration {P V : List Char} (h : V.getLast? ≠ some '\\') :
    (P ++ ':' :: ' ' :: V).getLast? ≠ some '\\' := by
  rcases List.eq_nil_or_concat V with rfl | ⟨V', v, rfl⟩
  · simp
  · rw [List.concat_eq_append] at h ⊢
    rw [show P ++ ':' :: ' ' :: (V' ++ [v]) = (P ++ ':' :: ' ' :: V') ++ [v] by simp,
      List.getLast?_concat]
    simpa using h

/-! ## Readable rules -/

/-- Whether every text of a rule is as the reader leaves it: trimmed, and scanned to a settled
end; a selector or block prelude stops the scan at the printer's space and `{`. An at-rule name
is a run of name characters, a property opens plain and holds no colon, and a comment's text
holds no `*/`. -/
def Rule.readable : Rule → Bool
  | .style selector body _ =>
    isTrimmed selector.toList && opensPlain selector.toList &&
      stopsAfter (selector.toList ++ [' ']) '{' && readableItems body
  | .atRule name prelude none _ =>
    !name.toList.isEmpty && name.toList.all isNameChar && isTrimmed prelude.toList &&
      settledAfter prelude.toList
  | .atRule name prelude (some body) _ =>
    !name.toList.isEmpty && name.toList.all isNameChar && isTrimmed prelude.toList &&
      stopsAfter (prelude.toList ++ [' ']) '{' && readableItems body
  | .comment text _ => !decide (['*', '/'] <:+: text.toList)
where
  readableItems : List Item → Bool
    | [] => true
    | .decl property value _ :: rest =>
      !property.toList.isEmpty && isTrimmed property.toList && opensPlain property.toList &&
        !property.toList.contains ':' && isTrimmed value.toList &&
        settledAfter (property.toList ++ ':' :: ' ' :: value.toList) && readableItems rest
    | .rule r :: rest => readable r && readableItems rest

/-- Whether a declaration value, or the prelude of an at-rule without a block, somewhere in a
rule ends in a backslash: the printer writes `;` right after such a text. -/
def Rule.endsInBackslash : Rule → Bool
  | .style _ body _ => endsInBackslashItems body
  | .atRule _ prelude none _ => prelude.toList.getLast? == some '\\'
  | .atRule _ _ (some body) _ => endsInBackslashItems body
  | .comment _ _ => false
where
  /-- Whether a value or statement prelude in the entries of a block ends in a backslash. -/
  endsInBackslashItems : List Item → Bool
    | [] => false
    | .decl _ value _ :: rest => value.toList.getLast? == some '\\' || endsInBackslashItems rest
    | .rule r :: rest => endsInBackslash r || endsInBackslashItems rest

theorem readableItems_cons (i : Item) (l : List Item) :
    readable.readableItems (i :: l) = (readable.readableItems [i] && readable.readableItems l) := by
  cases i <;> simp [readable.readableItems, Bool.and_assoc]

theorem readableItems_of_forall {l : List Item} (h : ∀ i ∈ l, readable.readableItems [i] = true) :
    readable.readableItems l = true := by
  induction l with
  | nil => rfl
  | cons i l ih => rw [readableItems_cons, h i (by simp), ih fun j hj => h j (by simp [hj])]; rfl

mutual

/-- A readable rule with no value or statement prelude ending in a backslash is printable: the
printer's `;` after each such text stops the scan. -/
theorem Rule.printable_of_readable : (r : Rule) → r.readable = true → r.endsInBackslash = false →
    r.printable = true
  | .style selector body span, h, hesc => by
    simp only [Rule.readable, Bool.and_eq_true] at h
    rw [Rule.endsInBackslash] at hesc
    simp [Rule.printable, h.1.1.1, h.1.1.2, h.1.2, printableItems_of_readable body h.2 hesc]
  | .atRule name prelude none span, h, hesc => by
    simp only [Rule.readable, Bool.and_eq_true] at h
    have hlast : prelude.toList.getLast? ≠ some '\\' := by simpa [Rule.endsInBackslash] using hesc
    simp [Rule.printable, h.1.1.1, h.1.1.2, h.1.2, stopsAfter_of_settledAfter h.2 hlast]
  | .atRule name prelude (some body) span, h, hesc => by
    simp only [Rule.readable, Bool.and_eq_true] at h
    rw [Rule.endsInBackslash] at hesc
    simp [Rule.printable, h.1.1.1.1, h.1.1.1.2, h.1.1.2, h.1.2,
      printableItems_of_readable body h.2 hesc]
  | .comment text span, h, _ => by simpa [Rule.readable, Rule.printable] using h

theorem printableItems_of_readable : (items : List Item) → readable.readableItems items = true →
    endsInBackslash.endsInBackslashItems items = false → printable.printableItems items = true
  | [], _, _ => rfl
  | .decl property value span :: rest, h, hesc => by
    simp only [readable.readableItems, Bool.and_eq_true] at h
    simp only [endsInBackslash.endsInBackslashItems, Bool.or_eq_false_iff, beq_eq_false_iff_ne] at hesc
    have hcolon : ':' ∉ property.toList := by simpa using h.1.1.1.2
    simp [printable.printableItems, h.1.1.1.1.1.1, h.1.1.1.1.1.2, h.1.1.1.1.2, hcolon, h.1.1.2,
      stopsAfter_of_settledAfter h.1.2 (getLast_declaration hesc.1),
      printableItems_of_readable rest h.2 hesc.2]
  | .rule r :: rest, h, hesc => by
    simp only [readable.readableItems, Bool.and_eq_true] at h
    simp only [endsInBackslash.endsInBackslashItems, Bool.or_eq_false_iff] at hesc
    simp [printable.printableItems, Rule.printable_of_readable r h.1 hesc.1,
      printableItems_of_readable rest h.2 hesc.2]

end

/-! ## Rules built from what the reader scanned -/

theorem opensPlain_of_prefixOf {c : Cursor} {P : List Char} (hP : P <+: c.rest)
    (hat : c.rest.head? ≠ some '@') (hcm : c.startsWith2 '/' '*' = false) : opensPlain P = true := by
  simp only [opensPlain, bne_iff_ne, ne_eq, Bool.and_eq_true, Bool.not_eq_true']
  constructor
  · intro hhead
    cases P with
    | nil => simp at hhead
    | cons x P =>
      obtain ⟨t, ht⟩ := hP
      simp only [List.head?_cons, Option.some.injEq] at hhead
      exact hat (by rw [← ht, hhead]; rfl)
  · by_contra hpre
    obtain ⟨t, ht⟩ := hP
    obtain ⟨u, hu⟩ := List.isPrefixOf_iff_prefix.mp (Bool.not_eq_false _ ▸ hpre)
    rw [← hu, List.append_assoc] at ht
    simp [startsWith2, ← ht] at hcm

theorem head?_of_prefixOf {T R : List Char} (hT : T <+: R) {x : Char} (hx : x ∈ T.head?) : x ∈ R.head? := by
  obtain ⟨t, rfl⟩ := hT
  simp_all [List.head?_append]

theorem opensPlain_trimChars {c : Cursor} {T : List Char} (hT : T <+: c.rest)
    (hbl : ∀ x ∈ c.rest.head?, isBlank x = false) (hat : c.rest.head? ≠ some '@')
    (hcm : c.startsWith2 '/' '*' = false) : opensPlain (trimChars T) = true ∧ trimChars T <+: c.rest := by
  have hpre : trimChars T <+: c.rest :=
    (trimChars_prefixOf fun x hx => hbl x (head?_of_prefixOf hT hx)).trans hT
  exact ⟨opensPlain_of_prefixOf hpre hat hcm, hpre⟩

theorem readableItems_rule {r : Rule} : readable.readableItems [.rule r] = r.readable := by
  simp [readable.readableItems]

theorem readable_style {T : List Char} {s : Scanner} (h : (Scanner.plain []).feed T = some s)
    (hs : s.settled = true) (hop : opensPlain (trimChars T) = true) {body : List Item}
    (hbody : readable.readableItems body = true) (span : Span) :
    (Rule.style (String.ofList (trimChars T)) body span).readable = true := by
  simp [Rule.readable, isTrimmed_trimChars, hop, stopsAfter_trim_space h hs, hbody]

/-- An at-rule with a block, whose name is a run of name characters and whose prelude was
scanned to the block, and whose entries are readable. -/
theorem readable_atBlock {N T : List Char} (hN : N ≠ []) (hNc : ∀ x ∈ N, isNameChar x = true)
    {s : Scanner} (h : (Scanner.plain []).feed T = some s) (hs : s.settled = true)
    {body : List Item} (hbody : readable.readableItems body = true) (span : Span) :
    (Rule.atRule (String.ofList N) (String.ofList (trimChars T)) (some body) span).readable = true := by
  simp [Rule.readable, hN, List.all_eq_true.mpr hNc, isTrimmed_trimChars, stopsAfter_trim_space h hs,
    hbody]

/-- An at-rule without a block, whose name is a run of name characters and whose prelude was
scanned to a settled end. -/
theorem readable_atStatement {N T : List Char} (hN : N ≠ []) (hNc : ∀ x ∈ N, isNameChar x = true)
    {s : Scanner} (h : (Scanner.plain []).feed T = some s) (hs : s.settled = true) (span : Span) :
    (Rule.atRule (String.ofList N) (String.ofList (trimChars T)) none span).readable = true := by
  simp [Rule.readable, hN, List.all_eq_true.mpr hNc, isTrimmed_trimChars, settledAfter_trim h hs]

theorem readable_decl {c : Cursor} {T : List Char} (hT : T <+: c.rest) {s : Scanner}
    (h : (Scanner.plain []).feed T = some s) (hs : s.settled = true)
    (hbl : ∀ x ∈ c.rest.head?, isBlank x = false) (hat : c.rest.head? ≠ some '@')
    (hcm : c.startsWith2 '/' '*' = false) {p v : String} (hsplit : splitDeclaration T = some (p, v))
    (span : Span) : readable.readableItems [.decl p v span] = true := by
  obtain ⟨before, after, rfl, hcolon, hp, hv, hne⟩ := splitDeclaration_spec hsplit
  obtain ⟨hop, -⟩ := opensPlain_trimChars ((List.prefix_append before _).trans hT) hbl hat hcm
  have hsub : p.toList ⊆ before := by
    rw [hp]
    exact (trimChars_prefixOf fun x hx => hbl x
      (head?_of_prefixOf ((List.prefix_append before _).trans hT) hx)).subset
  have hsettled := settledAfter_declaration h hs
  rw [← hp, ← hv] at hsettled
  rw [← hp] at hop
  have hnocolon : ':' ∉ p.toList := fun h => hcolon (hsub h)
  simp [readable.readableItems, hne, hp ▸ isTrimmed_trimChars before, hv ▸ isTrimmed_trimChars after,
    hop, hsettled, hnocolon]

theorem readable_comment {text : String} {span : Span} (ht : ¬ ['*', '/'] <:+: text.toList) :
    (Rule.comment text span).readable = true := by
  simpa [Rule.readable] using ht

theorem readable_of_readComment (source : String) {c d : Cursor} {r : Rule}
    (hc : c.startsWith2 '/' '*' = true) (h : readComment source c = .ok (r, d)) : r.readable = true := by
  obtain ⟨text, span, rfl, ht⟩ := comment_of_readComment source hc h
  exact readable_comment ht

/-! ## The readers, by fuel -/

section Fuel

variable (source : String)

def AtRulesReadable (f : Nat) : Prop :=
  ∀ (c d : Cursor) (r : Rule), readAtRule source f c = .ok (r, d) → r.readable = true

def BlocksReadable (f : Nat) : Prop :=
  ∀ (c d : Cursor) (items : List Item), readBlock source f c = .ok (items, d) →
    readable.readableItems items = true

def EntriesReadable (f : Nat) : Prop :=
  ∀ (o : Location) (c d : Cursor) (acc items : List Item), readItems source f o c acc = .ok (items, d) →
    (∀ i ∈ acc, readable.readableItems [i] = true) → ∀ i ∈ items, readable.readableItems [i] = true

/-- With `f` fuel, `readItem` returns a readable entry, when it starts at a character that is no
blank and opens no at-rule and no comment, as `readItems` calls it. -/
def ItemsReadable (f : Nat) : Prop :=
  ∀ (c d : Cursor) (i : Item), readItem source f c = .ok (i, d) →
    (∀ x ∈ c.rest.head?, isBlank x = false) → c.rest.head? ≠ some '@' →
    c.startsWith2 '/' '*' = false → readable.readableItems [i] = true

theorem name_of_takeWhile {R : List Char} (hlen : (R.takeWhile isNameChar).length ≠ 0) :
    R.take (R.takeWhile isNameChar).length ≠ [] ∧
      ∀ x ∈ R.take (R.takeWhile isNameChar).length, isNameChar x = true := by
  rw [← List.prefix_iff_eq_take.mp <| List.takeWhile_prefix _]
  exact ⟨fun h => hlen (by rw [h]; rfl), fun x hx => List.mem_takeWhile_imp hx⟩

theorem AtRulesReadable.succ {f : Nat} (hbl : BlocksReadable source f) :
    AtRulesReadable source (f + 1) := by
  intro c d r h
  rw [readAtRule] at h
  dsimp only at h
  split at h
  · cases h
  · next hlen =>
    obtain ⟨hN, hNc⟩ := name_of_takeWhile hlen
    split at h
    · cases h
    · next stop d' hscan =>
      obtain ⟨s, hfeed, hs, -⟩ := scanUntil_settled hscan
      split at h
      · split at h
        · cases h
        · next body e hblock =>
          cases h
          exact readable_atBlock hN hNc hfeed hs (hbl _ _ _ hblock) _
      · cases h
        exact readable_atStatement hN hNc hfeed hs _
      · cases h
        exact readable_atStatement hN hNc hfeed hs _

theorem BlocksReadable.succ {f : Nat} (hit : EntriesReadable source f) :
    BlocksReadable source (f + 1) := by
  intro c d items h
  rw [readBlock] at h
  exact readableItems_of_forall (hit _ _ _ _ _ h (by simp))

theorem ItemsReadable.succ {f : Nat} (hbl : BlocksReadable source f) :
    ItemsReadable source (f + 1) := by
  intro c d i h hblank hat hcm
  rw [readItem] at h
  dsimp only at h
  split at h
  · cases h
  · next stop d' hscan =>
    obtain ⟨s, hfeed, hs, hpre⟩ := scanUntil_settled hscan
    split at h
    · split at h
      · cases h
      · next body e hblock =>
        cases h
        rw [readableItems_rule]
        exact readable_style hfeed hs (opensPlain_trimChars hpre hblank hat hcm).1 (hbl _ _ _ hblock) _
    · split at h
      · next p v hsplit =>
        cases h
        exact readable_decl hpre hfeed hs hblank hat hcm hsplit _
      · cases h

theorem EntriesReadable.succ {f : Nat} (hat : AtRulesReadable source f) (hitem : ItemsReadable source f)
    (hit : EntriesReadable source f) : EntriesReadable source (f + 1) := by
  intro o c d acc items h hacc
  rw [readItems] at h
  split at h
  · cases h
  · next x rest hx =>
    have hxb : isBlank x = false := isBlank_head_dropBlank (by rw [← rest_skipBlank, hx]; rfl)
    split at h
    · cases h
      simpa using hacc
    · split at h
      · exact hit _ _ _ _ _ h hacc
      · split at h
        · split at h
          · cases h
          · next r d' hr =>
            exact hit _ _ _ _ _ h
              (List.forall_mem_cons.mpr ⟨readableItems_rule.trans (hat _ _ _ hr), hacc⟩)
        · next hatx =>
          split at h
          · next hcm =>
            split at h
            · cases h
            · next r d' hr =>
              exact hit _ _ _ _ _ h (List.forall_mem_cons.mpr
                ⟨readableItems_rule.trans (readable_of_readComment source hcm hr), hacc⟩)
          · next hcm =>
            split at h
            · cases h
            · next i d' hi =>
              have hi' := hitem _ _ _ hi (by rw [hx]; simpa using hxb) (by rw [hx]; simpa using hatx)
                (by simpa using hcm)
              exact hit _ _ _ _ _ h (List.forall_mem_cons.mpr ⟨hi', hacc⟩)

theorem readers_readable (f : Nat) :
    AtRulesReadable source f ∧ BlocksReadable source f ∧ EntriesReadable source f ∧
      ItemsReadable source f := by
  induction f with
  | zero =>
    refine ⟨fun c d r h => ?_, fun c d items h => ?_, fun o c d acc items h => ?_, fun c d i h => ?_⟩ <;>
      simp [readAtRule, readBlock, readItems, readItem] at h
  | succ f ih =>
    obtain ⟨hat, hbl, hit, hitem⟩ := ih
    exact ⟨AtRulesReadable.succ source hbl, BlocksReadable.succ source hit,
      EntriesReadable.succ source hat hitem hit, ItemsReadable.succ source hbl⟩

end Fuel

/-! ## Top-level rules -/

section TopLevel

variable (source : String)

theorem readable_of_readRule {f : Nat} {c d : Cursor} {r : Rule} (h : readRule source f c = .ok (r, d))
    (hblank : ∀ x ∈ c.rest.head?, isBlank x = false) : r.readable = true := by
  cases f with
  | zero => simp [readRule] at h
  | succ f =>
    obtain ⟨hat, hbl, -, -⟩ := readers_readable source f
    rw [readRule] at h
    split at h
    · next hcm => exact readable_of_readComment source hcm h
    · next hcm =>
      split at h
      · exact hat _ _ _ h
      · next hatx =>
        dsimp only at h
        split at h
        · cases h
        · next d' hscan =>
          obtain ⟨s, hfeed, hs, hpre⟩ := scanUntil_settled hscan
          split at h
          · cases h
          · next body e hblock =>
            cases h
            exact readable_style hfeed hs
              (opensPlain_trimChars hpre hblank (by simpa [peek] using hatx) (by simpa using hcm)).1
              (hbl _ _ _ hblock) _
        · cases h

theorem readable_of_readRules :
    ∀ (f : Nat) (c : Cursor) (acc rules : List Rule), readRules source f c acc = .ok rules →
      (∀ r ∈ acc, r.readable = true) → ∀ r ∈ rules, r.readable = true := by
  intro f
  induction f with
  | zero => intro c acc rules h; simp [readRules] at h
  | succ f ih =>
    intro c acc rules h hacc
    rw [readRules] at h
    split at h
    · cases h
      simpa using hacc
    · next x rest hx =>
      split at h
      · cases h
      · split at h
        · exact ih _ _ _ h hacc
        · split at h
          · cases h
          · next r d hr =>
            have hxb : isBlank x = false := isBlank_head_dropBlank (by rw [← rest_skipBlank, hx]; rfl)
            exact ih _ _ _ h (List.forall_mem_cons.mpr
              ⟨readable_of_readRule source hr (by rw [hx]; simpa using hxb), hacc⟩)

end TopLevel

theorem readable_of_parse {text filename : String} {s : Stylesheet} (h : parse text filename = .ok s) :
    ∀ r ∈ s.rules, r.readable = true := by
  unfold parse at h
  dsimp only at h
  rcases hr : readRules filename (3 * (Cursor.start text).rest.length + 3) (Cursor.start text) [] with
    e | rules
  · simp [hr, Except.map] at h
  · simp only [hr, Except.map, Except.ok.injEq] at h
    subst h
    exact readable_of_readRules filename _ _ _ _ hr (by simp)

end CssBundle.Css
