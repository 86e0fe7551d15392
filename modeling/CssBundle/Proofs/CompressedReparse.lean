import Mathlib
import CssBundle.Proofs.PackedReread

/-!
# Reading the compressed text back

The compressed text of a stylesheet the reader returned is its squeezed rules laid out without
blanks between their texts (`toList_compressed`). The reader takes such a layout back when every
text in it is trimmed and ends the scan at the separator written after it (`parse_packedRules`).
Collapsing blanks keeps what the scanner makes of a text (`feed_collapseChars`), so every text of
a parsed rule still ends the scan once collapsed, unless it ends in a backslash: the compressed
layout writes a `{`, `;` or `}` right after each selector, prelude and value, and a backslash
last in one of them escapes it (`Rule.textEndsInBackslash`). A byte order mark that opens the
compressed text is skipped by the reader, as at the start of any text.

Main statement: `parse_compressed`, the compressed text of a parsed stylesheet with no text ending
in a backslash, and not opening with a byte order mark, parses back to the squeezed rules, and
prints again as the same text.
-/

namespace CssBundle.Css

open Text Scanner Rule

/-- Whether a selector, a prelude or a declaration value somewhere in a rule ends in a backslash:
the compressed layout writes its separator right after each of these texts, and such a backslash
escapes it. -/
def Rule.textEndsInBackslash : Rule → Bool
  | .style selector body _ => selector.toList.getLast? == some '\\' || textEndsInBackslashItems body
  | .atRule _ prelude none _ => prelude.toList.getLast? == some '\\'
  | .atRule _ prelude (some body) _ =>
    prelude.toList.getLast? == some '\\' || textEndsInBackslashItems body
  | .comment _ _ => false
where
  textEndsInBackslashItems : List Item → Bool
    | [] => false
    | .decl _ value _ :: rest => value.toList.getLast? == some '\\' || textEndsInBackslashItems rest
    | .rule r :: rest => textEndsInBackslash r || textEndsInBackslashItems rest

/-! ## Collapsed texts still end the scan -/

/-- A text after which the scanner stops at the printer's space and `{` is scanned to a settled
end: the space moves the scanner to its `pass`, which stops only where the scanner is settled. -/
theorem settledAfter_of_stopsAfter_space {T : List Char} (h : stopsAfter (T ++ [' ']) '{' = true) :
    settledAfter T = true := by
  obtain ⟨s', hs', hstop⟩ := stopsAfter_iff.mp h
  rw [feed_append] at hs'
  cases hT : (Scanner.plain []).feed T with
  | none => simp [hT] at hs'
  | some s =>
    rw [hT, Option.bind_some, feed_cons, step_of_isBlank (quotesOk_feed rfl hT) isBlank_space] at hs'
    cases hs'
    refine settledAfter_iff.mpr ⟨s, hT, ?_⟩
    rw [← settled_pass]
    exact settled_of_step_eq_none hstop

/-- A trimmed text scanned to a settled end, not ending in a backslash, is still read to such an
end once its blanks are collapsed. -/
theorem endsScan_collapseChars {tight : List Char} (ht : tightFits tight) {T : List Char}
    (hT : isTrimmed T = true) (hset : settledAfter T = true) (hesc : T.getLast? ≠ some '\\') :
    endsScan (collapseChars tight T {} []) = true := by
  obtain ⟨s, hs, hsettled⟩ := settledAfter_iff.mp hset
  have hlast := (isTrimmed_iff.mp hT).2
  simp only [endsScan, Bool.and_eq_true, bne_iff_ne, ne_eq]
  refine ⟨settledAfter_iff.mpr ⟨s, feed_collapseChars ht hlast rfl rfl hs, hsettled⟩, ?_⟩
  rw [getLast_collapseChars tight hlast]
  exact hesc

theorem opensPlain_collapseChars {tight : List Char} (ht : tightFits tight) {T : List Char}
    (hT : isTrimmed T = true) (hop : opensPlain T = true) :
    opensPlain (collapseChars tight T {} []) = true := by
  simp only [opensPlain, bne_iff_ne, ne_eq, Bool.and_eq_true, Bool.not_eq_true'] at hop ⊢
  have hfirst := (isTrimmed_iff.mp hT).1
  refine ⟨?_, isPrefixOf_collapseChars ht hfirst hop.2⟩
  cases hh : T.head? with
  | none =>
    rw [List.head?_eq_none_iff.mp hh]
    simp [collapseChars]
  | some x =>
    rw [head_collapseChars tight hh (hfirst x hh)]
    rw [hh] at hop
    exact hop.1

theorem step_colon {s s' : Scanner} (hq : s.quotesOk = true) (h : s.step ':' = some s') :
    s'.pass = s' ∧ s'.escaping = false := by
  refine ⟨pass_step_of_tight hq (by decide) h, ?_⟩
  cases he : s'.escaping
  · rfl
  · exact absurd (eq_backslash_of_escaping h he) (by decide)

/-- A declaration scanned to a settled end as `property: value` is scanned to a settled end as
`property:value` with its value collapsed: after the colon the scanner is in no escape and a
blank leaves it as it is. -/
theorem endsScan_declaration {P V : List Char} (hV : isTrimmed V = true)
    (hset : settledAfter (P ++ ':' :: ' ' :: V) = true) (hesc : V.getLast? ≠ some '\\') :
    endsScan (P ++ ':' :: collapseChars [','] V {} []) = true := by
  obtain ⟨sF, hF, hsettled⟩ := settledAfter_iff.mp hset
  rw [feed_append] at hF
  cases hP : (Scanner.plain []).feed P with
  | none => simp [hP] at hF
  | some sP =>
    have hq := quotesOk_feed rfl hP
    cases hcolon : sP.step ':' with
    | none => simp [hP, hcolon] at hF
    | some s₀ =>
      have hq₀ := quotesOk_step hq hcolon
      obtain ⟨hpass, he₀⟩ := step_colon hq hcolon
      have hfeed : s₀.feed V = some sF := by
        simpa [hP, hcolon, step_of_isBlank hq₀ isBlank_space, hpass] using hF
      have hlast := (isTrimmed_iff.mp hV).2
      simp only [endsScan, Bool.and_eq_true, bne_iff_ne, ne_eq]
      refine ⟨settledAfter_iff.mpr ⟨sF, ?_, hsettled⟩, ?_⟩
      · rw [feed_append, hP, Option.bind_some, feed_cons, hcolon, Option.bind_some]
        exact feed_collapseChars tightFits_comma hlast hq₀ he₀ hfeed
      · rw [List.getLast?_append, List.getLast?_cons, getLast_collapseChars _ hlast]
        cases hV' : V.getLast? <;> simp_all

/-! ## Squeezed rules are read back from their layout -/

mutual

/-- A rule as the reader returns it, with no text ending in a backslash, is read back from the
packed text of its squeezed rule. -/
theorem packable_squeezed : (r : Rule) → r.readable = true → r.textEndsInBackslash = false →
    r.squeezed.packable = true
  | .style selector body span, h, hesc => by
    simp only [Rule.readable, Bool.and_eq_true] at h
    obtain ⟨⟨⟨hS, hop⟩, hstop⟩, hbody⟩ := h
    simp only [Rule.textEndsInBackslash, Bool.or_eq_false_iff, beq_eq_false_iff_ne, ne_eq] at hesc
    simp only [Rule.squeezed, Rule.packable, toList_collapseBlanks_of_isTrimmed hS, Bool.and_eq_true]
    exact ⟨⟨⟨isTrimmed_collapseChars _ hS, opensPlain_collapseChars tightFits_selectorTight hS hop⟩,
      endsScan_collapseChars tightFits_selectorTight hS (settledAfter_of_stopsAfter_space hstop)
        hesc.1⟩, packableItems_squeezedItems body hbody hesc.2⟩
  | .atRule name prelude none span, h, hesc => by
    simp only [Rule.readable, Bool.and_eq_true] at h
    obtain ⟨⟨⟨hN, hNc⟩, hQ⟩, hset⟩ := h
    simp only [Rule.textEndsInBackslash, beq_eq_false_iff_ne, ne_eq] at hesc
    simp only [Rule.squeezed, Rule.packable, toList_collapseBlanks_of_isTrimmed hQ, Bool.and_eq_true]
    exact ⟨⟨⟨hN, hNc⟩, isTrimmed_collapseChars _ hQ⟩, endsScan_collapseChars tightFits_comma hQ hset hesc⟩
  | .atRule name prelude (some body) span, h, hesc => by
    simp only [Rule.readable, Bool.and_eq_true] at h
    obtain ⟨⟨⟨⟨hN, hNc⟩, hQ⟩, hstop⟩, hbody⟩ := h
    simp only [Rule.textEndsInBackslash, Bool.or_eq_false_iff, beq_eq_false_iff_ne, ne_eq] at hesc
    simp only [Rule.squeezed, Rule.packable, toList_collapseBlanks_of_isTrimmed hQ, Bool.and_eq_true]
    exact ⟨⟨⟨⟨hN, hNc⟩, isTrimmed_collapseChars _ hQ⟩,
      endsScan_collapseChars tightFits_comma hQ (settledAfter_of_stopsAfter_space hstop) hesc.1⟩,
      packableItems_squeezedItems body hbody hesc.2⟩
  | .comment text span, h, _ => by simpa [Rule.squeezed, Rule.packable, Rule.readable] using h

/-- The entries of a block as the reader returns them, with no text ending in a backslash, are read
back from the packed text of their squeezed entries. -/
theorem packableItems_squeezedItems : (items : List Item) → readable.readableItems items = true →
    textEndsInBackslash.textEndsInBackslashItems items = false →
    packable.packableItems (squeezed.squeezedItems items) = true
  | [], _, _ => rfl
  | .decl property value span :: rest, h, hesc => by
    simp only [readable.readableItems, Bool.and_eq_true] at h
    obtain ⟨⟨⟨⟨⟨⟨hP, hPt⟩, hop⟩, hcolon⟩, hV⟩, hset⟩, hrest⟩ := h
    simp only [textEndsInBackslash.textEndsInBackslashItems, Bool.or_eq_false_iff,
      beq_eq_false_iff_ne, ne_eq] at hesc
    simp only [squeezed.squeezedItems, packable.packableItems, toList_trim_of_isTrimmed hPt,
      toList_collapseBlanks_of_isTrimmed hV, Bool.and_eq_true]
    exact ⟨⟨⟨⟨⟨⟨hP, hPt⟩, hop⟩, hcolon⟩, isTrimmed_collapseChars _ hV⟩,
      endsScan_declaration hV hset hesc.1⟩, packableItems_squeezedItems rest hrest hesc.2⟩
  | .rule r :: rest, h, hesc => by
    simp only [readable.readableItems, Bool.and_eq_true] at h
    simp only [textEndsInBackslash.textEndsInBackslashItems, Bool.or_eq_false_iff] at hesc
    have hrest := packableItems_squeezedItems rest h.2 hesc.2
    cases hk : r.keptCompressed
    · simpa [squeezed.squeezedItems, hk] using hrest
    · simp [squeezed.squeezedItems, hk, packable.packableItems, hrest,
        packable_squeezed r h.1 hesc.1]

end

/-! ## The compressed text parses back -/

theorem join_compressed_of_unspanned {rules rules' : List Rule}
    (h : rules.map Rule.unspanned = rules'.map Rule.unspanned) :
    String.join (rules.map Rule.compressed) = String.join (rules'.map Rule.compressed) := by
  have hmap : ∀ l : List Rule, l.map Rule.compressed = (l.map Rule.unspanned).map Rule.compressed := by
    intro l
    simp [Function.comp_def, compressed_unspanned]
  rw [hmap rules, hmap rules', h]

/-- The compressed text of a parsed stylesheet parses back, when no selector, prelude or value in
it ends in a backslash and the compressed text does not open with a byte order mark: the rules
read are the squeezed rules, spans aside, and they print as the same compressed text. -/
theorem parse_compressed {text filename : String} {s : Stylesheet}
    (h : parse text filename = .ok s) (hesc : ∀ r ∈ s.rules, r.textEndsInBackslash = false)
    (hbom : s.compressed.toList.head? ≠ some '\uFEFF') :
    ∃ s2, parse s.compressed filename = .ok s2 ∧
      s2.rules.map Rule.unspanned = (squeezedRules s.rules).map Rule.unspanned ∧
      s2.compressed = s.compressed := by
  have hread := readable_of_parse h
  have htext : s.compressed.toList = packedRules (squeezedRules s.rules) :=
    toList_join_compressed hread
  have hpack : ∀ r ∈ squeezedRules s.rules, r.packable = true := by
    intro r hr
    obtain ⟨r₀, hr₀, rfl⟩ := List.mem_map.mp hr
    have hr₀' := (List.mem_filter.mp hr₀).1
    exact packable_squeezed r₀ (hread r₀ hr₀') (hesc r₀ hr₀')
  obtain ⟨s2, hparse, -, hmap⟩ := parse_packedRules hpack htext hbom filename
  refine ⟨s2, hparse, hmap, ?_⟩
  calc s2.compressed
      = String.join ((squeezedRules s.rules).map Rule.compressed) :=
        join_compressed_of_unspanned hmap
    _ = s.compressed := join_compressed_squeezedRules hread

/-- `.a > .b { x : 1 2 }` compresses to `.a>.b{x:1 2}`, which parses back and compresses to
itself. -/
theorem parse_compressed_sample :
    let sp : Nat → Nat → Span := fun a b => ⟨"a.css", ⟨⟨a, 0, a⟩, ⟨b, 0, b⟩⟩⟩
    let s : Stylesheet := ⟨"a.css", [.style ".a > .b" [.decl "x" "1 2" (sp 10 18)] (sp 0 19)]⟩
    parse ".a > .b \x7b x : 1 2 \x7d" "a.css" = .ok s ∧
      (∀ r ∈ s.rules, r.textEndsInBackslash = false) ∧ s.compressed.toList.head? ≠ some '\uFEFF' ∧
      ∃ s2, parse s.compressed "a.css" = .ok s2 ∧
        s2.rules.map Rule.unspanned = (squeezedRules s.rules).map Rule.unspanned ∧
        s2.compressed = s.compressed := by
  intro sp s
  have hparse : parse ".a > .b \x7b x : 1 2 \x7d" "a.css" = .ok s := by cbv
  have hesc : ∀ r ∈ s.rules, r.textEndsInBackslash = false := by decide
  have hbom : s.compressed.toList.head? ≠ some '\uFEFF' := by
    cbv
    decide
  exact ⟨hparse, hesc, hbom, parse_compressed hparse hesc hbom⟩

end CssBundle.Css
