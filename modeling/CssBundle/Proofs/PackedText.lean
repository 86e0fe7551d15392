import Mathlib
import CssBundle.Proofs.BlankCollapse
import CssBundle.Proofs.ParsedReadable

/-!
# The compressed text, laid out

The compressed printer writes a rule's texts collapsed, between separators of its own: `{` and
`}` around a block, `:` between property and value, `;` between a declaration and whatever
follows it in its block, `;` after an at-rule without a block, and a space between an at-rule's
name and a prelude. A comment is kept only when its text begins with `!`; the others print as
nothing (`Rule.keptCompressed`).

This module takes the printer apart: `Rule.squeezed` is the rule with its texts collapsed and
its dropped comments left out, and `Rule.packed` lays the printer's separators around the texts
of a rule as they stand. For a rule as the reader returns it, the compressed text is the packed
text of the squeezed rule (`toList_compressed`), and the squeezed rule prints as the rule does
(`compressed_squeezed`), since collapsing twice is collapsing once. Spans play no part in what
is printed (`compressed_unspanned`).
-/

namespace CssBundle.Css

open Text

/-- Whether a rule prints in compressed form: every rule but a comment whose text does not begin
with `!`. -/
def Rule.keptCompressed : Rule → Bool
  | .comment text _ => text.startsWith "!"
  | _ => true

/-- The rule the compressed text of a rule stands for: its texts collapsed, properties trimmed,
and the comments it does not print left out of its blocks. -/
def Rule.squeezed : Rule → Rule
  | .style selector body span => .style (collapseBlanks selector selectorTight) (squeezedItems body) span
  | .atRule name prelude none span => .atRule name (collapseBlanks prelude [',']) none span
  | .atRule name prelude (some body) span =>
    .atRule name (collapseBlanks prelude [',']) (some (squeezedItems body)) span
  | .comment text span => .comment text span
where
  squeezedItems : List Item → List Item
    | [] => []
    | .decl property value span :: rest =>
      .decl (trim property) (collapseBlanks value [',']) span :: squeezedItems rest
    | .rule r :: rest => if r.keptCompressed then .rule (squeezed r) :: squeezedItems rest
      else squeezedItems rest

def preludeChars (prelude : String) : List Char :=
  if prelude.isEmpty then [] else ' ' :: prelude.toList

def Rule.packed : Rule → List Char
  | .style selector body _ => selector.toList ++ '{' :: packedItems body false ++ ['}']
  | .atRule name prelude none _ => '@' :: name.toList ++ preludeChars prelude ++ [';']
  | .atRule name prelude (some body) _ =>
    '@' :: name.toList ++ preludeChars prelude ++ '{' :: packedItems body false ++ ['}']
  | .comment text _ => '/' :: '*' :: text.toList ++ ['*', '/']
where
  /-- The entries of a block, `open_` telling whether a declaration came last and waits for
  its `;`. -/
  packedItems : List Item → Bool → List Char
    | [], _ => []
    | .decl property value _ :: rest, open_ =>
      (if open_ then [';'] else []) ++ property.toList ++ ':' :: value.toList ++ packedItems rest true
    | .rule r :: rest, open_ => (if open_ then [';'] else []) ++ packed r ++ packedItems rest false

def squeezedRules (rules : List Rule) : List Rule := (rules.filter Rule.keptCompressed).map Rule.squeezed

def packedRules (rules : List Rule) : List Char := rules.flatMap Rule.packed

/-! ## What prints at all -/

theorem compressed_isEmpty (r : Rule) : r.compressed.isEmpty = !r.keptCompressed := by
  cases r with
  | style selector body span => simp [Rule.compressed, Rule.keptCompressed]
  | atRule name prelude body span => cases body <;> simp [Rule.compressed, Rule.keptCompressed]
  | comment text span =>
    by_cases h : text.startsWith "!" = true <;> simp [Rule.compressed, Rule.keptCompressed, h]

theorem packedItems_true (items : List Item) :
    Rule.packed.packedItems items true =
      if items = [] then [] else ';' :: Rule.packed.packedItems items false := by
  cases items with
  | nil => rfl
  | cons i items => cases i <;> simp [Rule.packed.packedItems]

/-! ## The compressed text is the packed text of the squeezed rule -/

theorem isEmpty_collapseBlanks {text : String} (h : isTrimmed text.toList = true) (tight : List Char) :
    (collapseBlanks text tight).isEmpty = text.isEmpty := by
  rw [Bool.eq_iff_iff, String.isEmpty_iff, String.isEmpty_iff, ← String.toList_inj,
    ← String.toList_inj, toList_collapseBlanks_of_isTrimmed h, String.toList_empty]
  cases ht : text.toList with
  | nil => simp [collapseChars]
  | cons c rest =>
    have hc : isBlank c = false := isBlank_head_of_isTrimmed (ht ▸ h)
    have hhead := head_collapseChars tight (V := c :: rest) rfl hc
    constructor
    · intro hnil
      simp [hnil] at hhead
    · intro hnil
      cases hnil

theorem preludeChars_collapseBlanks {prelude : String} (h : isTrimmed prelude.toList = true) :
    preludeChars (collapseBlanks prelude [',']) =
      if prelude.isEmpty then [] else ' ' :: (collapseBlanks prelude [',']).toList := by
  rw [preludeChars, isEmpty_collapseBlanks h]

theorem toList_trim_of_isTrimmed {text : String} (h : isTrimmed text.toList = true) :
    (trim text).toList = text.toList := by
  simpa [trim] using trimChars_of_isTrimmed h (l := []) (r := []) (by simp) (by simp)

theorem trim_trim (s : String) : trim (trim s) = trim s := by
  rw [← String.toList_inj]
  exact toList_trim_of_isTrimmed (by simpa [trim] using isTrimmed_trimChars s.toList)

mutual

/-- The compressed text of a rule as the reader returns it, when it prints at all, is the packed
text of its squeezed rule. -/
theorem toList_compressed : (r : Rule) → r.readable = true → r.keptCompressed = true →
    r.compressed.toList = r.squeezed.packed
  | .style selector body span, h, _ => by
    simp only [Rule.readable, Bool.and_eq_true] at h
    simp [Rule.compressed, Rule.squeezed, Rule.packed, toList_compressedBlock body false h.2]
  | .atRule name prelude none span, h, _ => by
    have hP : isTrimmed prelude.toList = true := by simp_all [Rule.readable]
    by_cases he : prelude.isEmpty = true <;>
      simp [Rule.compressed, Rule.squeezed, Rule.packed, preludeChars_collapseBlanks hP, he]
  | .atRule name prelude (some body) span, h, _ => by
    simp only [Rule.readable, Bool.and_eq_true] at h
    by_cases he : prelude.isEmpty = true <;>
      simp [Rule.compressed, Rule.squeezed, Rule.packed, preludeChars_collapseBlanks h.1.1.2, he,
        toList_compressedBlock body false h.2]
  | .comment text span, _, hk => by
    simp only [Rule.keptCompressed] at hk
    simp [Rule.compressed, Rule.squeezed, Rule.packed, hk]

/-- The compressed entries of a block as the reader returns them are the packed entries of the
squeezed block. -/
theorem toList_compressedBlock : (items : List Item) → (o : Bool) →
    Rule.readable.readableItems items = true →
    (Item.compressedBlock items o).toList = Rule.packed.packedItems (Rule.squeezed.squeezedItems items) o
  | [], _, _ => rfl
  | .decl property value span :: rest, o, h => by
    simp only [Rule.readable.readableItems, Bool.and_eq_true] at h
    cases o <;> simp [Item.compressedBlock, Rule.squeezed.squeezedItems, Rule.packed.packedItems,
      trim, toList_compressedBlock rest true h.2]
  | .rule r :: rest, o, h => by
    simp only [Rule.readable.readableItems, Bool.and_eq_true] at h
    cases hk : r.keptCompressed
    · have hempty : r.compressed.isEmpty = true := by simp [compressed_isEmpty, hk]
      simp [Item.compressedBlock, Rule.squeezed.squeezedItems, hempty, hk,
        toList_compressedBlock rest o h.2]
    · have hempty : r.compressed.isEmpty = false := by simp [compressed_isEmpty, hk]
      cases o <;> simp [Item.compressedBlock, Rule.squeezed.squeezedItems, Rule.packed.packedItems,
        hempty, hk, toList_compressed r h.1 hk, toList_compressedBlock rest false h.2]

end

mutual

/-- A rule as the reader returns it prints as its squeezed rule does: collapsing twice is
collapsing once. -/
theorem compressed_squeezed : (r : Rule) → r.readable = true → r.squeezed.compressed = r.compressed
  | .style selector body span, h => by
    simp only [Rule.readable, Bool.and_eq_true] at h
    simp [Rule.compressed, Rule.squeezed, collapseBlanks_collapseBlanks,
      compressedBlock_squeezedItems body false h.2]
  | .atRule name prelude none span, h => by
    have hP : isTrimmed prelude.toList = true := by simp_all [Rule.readable]
    simp [Rule.compressed, Rule.squeezed, isEmpty_collapseBlanks hP, collapseBlanks_collapseBlanks]
  | .atRule name prelude (some body) span, h => by
    simp only [Rule.readable, Bool.and_eq_true] at h
    simp [Rule.compressed, Rule.squeezed, isEmpty_collapseBlanks h.1.1.2, collapseBlanks_collapseBlanks,
      compressedBlock_squeezedItems body false h.2]
  | .comment text span, _ => rfl

theorem compressedBlock_squeezedItems : (items : List Item) → (o : Bool) →
    Rule.readable.readableItems items = true →
    Item.compressedBlock (Rule.squeezed.squeezedItems items) o = Item.compressedBlock items o
  | [], _, _ => rfl
  | .decl property value span :: rest, o, h => by
    simp only [Rule.readable.readableItems, Bool.and_eq_true] at h
    simp [Item.compressedBlock, Rule.squeezed.squeezedItems, trim_trim, collapseBlanks_collapseBlanks,
      compressedBlock_squeezedItems rest true h.2]
  | .rule r :: rest, o, h => by
    simp only [Rule.readable.readableItems, Bool.and_eq_true] at h
    cases hk : r.keptCompressed
    · have hempty : r.compressed.isEmpty = true := by simp [compressed_isEmpty, hk]
      simp [Item.compressedBlock, Rule.squeezed.squeezedItems, hempty, hk,
        compressedBlock_squeezedItems rest o h.2]
    · have hne : r.compressed ≠ "" := fun he => by simpa [he, hk] using compressed_isEmpty r
      simp [Item.compressedBlock, Rule.squeezed.squeezedItems, hk, hne, compressed_squeezed r h.1,
        compressedBlock_squeezedItems rest false h.2]

end

mutual

theorem compressed_unspanned : (r : Rule) → r.unspanned.compressed = r.compressed
  | .style selector body span => by
    simp [Rule.unspanned, Rule.compressed, compressedBlock_unspannedItems body false]
  | .atRule name prelude none span => rfl
  | .atRule name prelude (some body) span => by
    simp [Rule.unspanned, Rule.compressed, compressedBlock_unspannedItems body false]
  | .comment text span => rfl

theorem compressedBlock_unspannedItems : (items : List Item) → (o : Bool) →
    Item.compressedBlock (Rule.unspanned.unspannedItems items) o = Item.compressedBlock items o
  | [], _ => rfl
  | .decl property value span :: rest, o => by
    simp [Rule.unspanned.unspannedItems, Item.compressedBlock, compressedBlock_unspannedItems rest true]
  | .rule r :: rest, o => by
    simp [Rule.unspanned.unspannedItems, Item.compressedBlock, compressed_unspanned r,
      compressedBlock_unspannedItems rest]

end

/-! ## Top-level rules -/

/-- The compressed text of top-level rules as the reader returns them is the packed text of
those that print, squeezed. -/
theorem toList_join_compressed {rules : List Rule} (h : ∀ r ∈ rules, r.readable = true) :
    (String.join (rules.map Rule.compressed)).toList = packedRules (squeezedRules rules) := by
  induction rules with
  | nil => rfl
  | cons r rules ih =>
    have hrest := ih fun q hq => h q (List.mem_cons_of_mem r hq)
    cases hk : r.keptCompressed
    · have hempty : r.compressed = "" := String.isEmpty_iff.mp (by simp [compressed_isEmpty, hk])
      simpa [squeezedRules, hk, hempty] using hrest
    · rw [List.map_cons, String.join_cons, String.toList_append, hrest,
        toList_compressed r (h r List.mem_cons_self) hk]
      simp [squeezedRules, packedRules, hk]

theorem join_compressed_squeezedRules {rules : List Rule} (h : ∀ r ∈ rules, r.readable = true) :
    String.join ((squeezedRules rules).map Rule.compressed) = String.join (rules.map Rule.compressed) := by
  induction rules with
  | nil => rfl
  | cons r rules ih =>
    have hrest := ih fun q hq => h q (List.mem_cons_of_mem r hq)
    cases hk : r.keptCompressed
    · have hempty : r.compressed = "" := String.isEmpty_iff.mp (by simp [compressed_isEmpty, hk])
      simpa [squeezedRules, hk, hempty] using hrest
    · simp only [squeezedRules, List.filter_cons, hk, if_true, List.map_cons, String.join_cons] at hrest ⊢
      rw [compressed_squeezed r (h r List.mem_cons_self), hrest]

end CssBundle.Css
