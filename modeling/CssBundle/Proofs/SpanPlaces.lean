import Mathlib
import CssBundle.Proofs.ReaderPlaces

/-!
# Every location the reader reports is a place of its text

The reader reports locations in two ways: the start and end of the span of every rule and
declaration it reads (`Stylesheet.spans` lists the spans in document order), and the location
of the error it fails with. Each is the place of a cursor that the reader reached from the start
of the text one character at a time (`SpansAfter`, `parse_error_place`), and such a cursor keeps
its offset, row and column in step with the text behind it (`Cursor.OnText`,
`Cursor.ColumnOn`).

So every location names a place of the text (`Location.PlaceIn`): its offset is a character
boundary within the text, and `locate` finds it on its row and at its column, except on the
first row of a text that begins with a byte order mark: the reader sets the mark aside without
counting it, so its columns there are one unit less.

Main statement: `parse_locations`.
-/

namespace CssBundle

open Text

/-! ## Places of a text -/

/-- The first-row shift of a text's columns: one unit when the text begins with a byte order
mark, which the reader sets aside without counting it. -/
def bomShift (text : String) (row : Nat) : Nat :=
  if row = 0 ∧ text.toList.head? = some '\uFEFF' then 1 else 0

/-- A location names a place of a text: its offset is a character boundary within the text,
and `locate` finds that offset on the location's row, at its column plus the first-row
shift. -/
structure Location.PlaceIn (text : String) (l : Location) : Prop where
  boundary : isBoundary text.toList l.offset = true
  le_size : l.offset ≤ text.utf8ByteSize
  locate : locate text l.offset = some ⟨l.offset, l.row, l.column + bomShift text l.row⟩

theorem byteLength_eq_utf8Len (cs : List Char) : byteLength cs = String.utf8Len cs := by
  induction cs with
  | nil => rfl
  | cons c cs ih => simp [ih, Nat.add_comm]

theorem byteLength_toList (text : String) : byteLength text.toList = text.utf8ByteSize := by
  rw [byteLength_eq_utf8Len, ← String.utf8ByteSize_ofList, String.ofList_toList]

end CssBundle

namespace CssBundle.Css

open Text

/-! ## The spans of a stylesheet -/

mutual

/-- The spans of a rule and of the rules and declarations in its block, in document order. -/
def Rule.spans : Rule → List Span
  | .style _ body span => span :: Item.spansOf body
  | .atRule _ _ (some body) span => span :: Item.spansOf body
  | .atRule _ _ none span => [span]
  | .comment _ span => [span]

/-- The spans of the entries of a block and of what they hold, in document order. -/
def Item.spansOf : List Item → List Span
  | [] => []
  | .decl _ _ span :: rest => span :: Item.spansOf rest
  | .rule r :: rest => r.spans ++ Item.spansOf rest

end

/-- The spans of every rule and declaration of a stylesheet, in document order. -/
def Stylesheet.spans (s : Stylesheet) : List Span := s.rules.flatMap Rule.spans

theorem Item.spansOf_append (l l' : List Item) :
    Item.spansOf (l ++ l') = Item.spansOf l ++ Item.spansOf l' := by
  induction l with
  | nil => rfl
  | cons i l ih => cases i <;> simp [Item.spansOf, ih]

theorem Item.spansOf_cons (i : Item) (l : List Item) :
    Item.spansOf (i :: l) = Item.spansOf [i] ++ Item.spansOf l := by
  rw [← Item.spansOf_append, List.singleton_append]

/-! ## Spans between places the reader reached -/

def Placed (c : Cursor) (l : Location) : Prop := ∃ d, c.Follows d ∧ l = d.here

def SpansAfter (c : Cursor) (spans : List Span) : Prop :=
  ∀ sp ∈ spans, Placed c sp.range.start ∧ Placed c sp.range.stop

theorem Placed.mono {c d : Cursor} (hcd : c.Follows d) {l : Location} (h : Placed d l) :
    Placed c l := by
  obtain ⟨e, hde, rfl⟩ := h
  exact ⟨e, hcd.trans hde, rfl⟩

theorem SpansAfter.mono {c d : Cursor} (hcd : c.Follows d) {spans : List Span}
    (h : SpansAfter d spans) : SpansAfter c spans :=
  fun sp hsp => ⟨(h sp hsp).1.mono hcd, (h sp hsp).2.mono hcd⟩

theorem spansAfter_nil (c : Cursor) : SpansAfter c [] := by
  simp [SpansAfter]

theorem SpansAfter.spanFrom_cons (source : String) {c d : Cursor} (hcd : c.Follows d)
    {rest : List Span} (h : SpansAfter c rest) : SpansAfter c (spanFrom source c.here d :: rest) :=
  List.forall_mem_cons.mpr ⟨⟨⟨c, .refl c, rfl⟩, ⟨d, hcd, rfl⟩⟩, h⟩

theorem spansAfter_spansOf {c : Cursor} {items : List Item}
    (h : ∀ i ∈ items, SpansAfter c (Item.spansOf [i])) : SpansAfter c (Item.spansOf items) := by
  induction items with
  | nil => exact spansAfter_nil c
  | cons i items ih =>
    rw [Item.spansOf_cons]
    intro sp hsp
    rcases List.mem_append.mp hsp with hsp | hsp
    · exact h i (by simp) sp hsp
    · exact ih (fun j hj => h j (by simp [hj])) sp hsp

theorem readComment_spans (source : String) {c d : Cursor} {r : Rule}
    (h : readComment source c = .ok (r, d)) : SpansAfter c r.spans := by
  unfold readComment at h
  split at h
  · cases h
  · next _ d' hd' =>
    have hspans := SpansAfter.spanFrom_cons source ((skipComment_spec c).1 d' hd')
      (spansAfter_nil c)
    cases h
    exact hspans

/-- The readers of rules and blocks, by the fuel they are given: every span of what they read
starts and ends at places of cursors after the one they started at. The entries of a block are
read into an accumulator, whose spans lie after the block's opening brace. -/
theorem readers_spans (source : String) (fuel : Nat) :
    (∀ c r d, readAtRule source fuel c = .ok (r, d) → SpansAfter c r.spans) ∧
    (∀ c body d, readBlock source fuel c = .ok (body, d) → SpansAfter c (Item.spansOf body)) ∧
    (∀ o c acc items d, o.Follows c → (∀ i ∈ acc, SpansAfter o (Item.spansOf [i])) →
      readItems source fuel o.here c acc = .ok (items, d) →
        ∀ i ∈ items, SpansAfter o (Item.spansOf [i])) ∧
    (∀ c i d, readItem source fuel c = .ok (i, d) → SpansAfter c (Item.spansOf [i])) ∧
    (∀ c r d, readRule source fuel c = .ok (r, d) → SpansAfter c r.spans) := by
  induction fuel with
  | zero =>
    refine ⟨fun c r d h => ?_, fun c body d h => ?_, fun o c acc items d _ _ h => ?_,
      fun c i d h => ?_, fun c r d h => ?_⟩ <;>
      simp [readAtRule, readBlock, readItems, readItem, readRule] at h
  | succ fuel ih =>
    obtain ⟨hat, hblock, hitems, hitem, -⟩ := ih
    have fat := (readers_spec source fuel).1
    have fblock := (readers_spec source fuel).2.1
    have fitem := (readers_spec source fuel).2.2.2.1
    have hblockSpans : ∀ {c d' body e}, c.Follows d' → readBlock source fuel d' = .ok (body, e) →
        SpansAfter c (spanFrom source c.here e :: Item.spansOf body) := fun hcd he =>
      SpansAfter.spanFrom_cons source (hcd.trans ((fblock _).follows_of_ok he))
        ((hblock _ _ _ he).mono hcd)
    refine ⟨fun c r d h => ?_, fun c body d h => ?_, fun o c acc items d hoc hacc h => ?_,
      fun c i d h => ?_, fun c r d h => ?_⟩
    · rw [readAtRule] at h
      have hname : c.Follows ((List.range (c.bump.rest.takeWhile isNameChar).length).foldl
          (fun d _ => d.bump) c.bump) := c.follows_bump.trans (follows_foldl_bump _ c.bump)
      split at h
      · cases h
      · split at h
        · cases h
        · next _ stop d' hd' =>
          have hcd : c.Follows d' := hname.trans ((scanUntil_spec _).follows_of_ok hd')
          split at h
          · split at h
            · cases h
            · next _ body e he =>
              have hspans := hblockSpans hcd he
              cases h
              exact hspans
          · cases h
            exact SpansAfter.spanFrom_cons _ hcd.bump (spansAfter_nil c)
          · cases h
            exact SpansAfter.spanFrom_cons _ hcd (spansAfter_nil c)
    · rw [readBlock] at h
      exact spansAfter_spansOf (hitems c c.bump [] body d c.follows_bump (by simp) h)
    · have hob : o.Follows c.skipBlank := hoc.trans (follows_skipBlank c)
      rw [readItems] at h
      split at h
      · cases h
      · split at h
        · cases h
          exact fun i hi => hacc i (List.mem_reverse.mp hi)
        · split at h
          · exact hitems o _ acc items d hob.bump hacc h
          · have hjoin : ∀ {i : Item} {d' : Cursor}, o.Follows d' →
                SpansAfter o (Item.spansOf [i]) →
                readItems source fuel o.here d' (i :: acc) = .ok (items, d) →
                ∀ j ∈ items, SpansAfter o (Item.spansOf [j]) := by
              intro i d' hod hi hread
              refine hitems o d' _ items d hod (fun j hj => ?_) hread
              rcases List.mem_cons.mp hj with rfl | hj
              · exact hi
              · exact hacc j hj
            split at h
            · split at h
              · cases h
              · next _ r d' hd' =>
                refine hjoin (hob.trans ((fat _).follows_of_ok hd')) ?_ h
                simpa [Item.spansOf] using (hat _ r d' hd').mono hob
            · split at h
              · split at h
                · cases h
                · next _ r d' hd' =>
                  refine hjoin (hob.trans ((readComment_spec source _).follows_of_ok hd')) ?_ h
                  simpa [Item.spansOf] using (readComment_spans source hd').mono hob
              · split at h
                · cases h
                · next _ i d' hd' =>
                  exact hjoin (hob.trans ((fitem _).follows_of_ok hd'))
                    ((hitem _ i d' hd').mono hob) h
    · rw [readItem] at h
      split at h
      · cases h
      · next _ stop d' hd' =>
        have hcd : c.Follows d' := (scanUntil_spec c).follows_of_ok hd'
        split at h
        · split at h
          · cases h
          · next _ body e he =>
            have hspans := hblockSpans hcd he
            cases h
            simpa [Item.spansOf, Rule.spans] using hspans
        · have hdecl : ∀ p v, SpansAfter c (Item.spansOf [.decl p v (spanFrom source c.here d')]) :=
            fun p v => by
              simpa [Item.spansOf] using SpansAfter.spanFrom_cons source hcd (spansAfter_nil c)
          split at h <;> dsimp only at h <;> split at h
          · cases h
            exact hdecl _ _
          · cases h
          · cases h
            exact hdecl _ _
          · cases h
    · rw [readRule] at h
      split at h
      · exact readComment_spans source h
      · split at h
        · exact hat c r d h
        · split at h
          · cases h
          · next _ d' hd' =>
            have hcd : c.Follows d' := (scanUntil_spec c).follows_of_ok hd'
            split at h
            · cases h
            · next _ body e he =>
              have hspans := hblockSpans hcd he
              cases h
              exact hspans
          · cases h

/-- The top-level rules read from a cursor after `o`, into an accumulator whose spans lie after
`o`, all have their spans after `o`. -/
theorem readRules_spans (source : String) (fuel : Nat) :
    ∀ o c acc rules, o.Follows c → (∀ r ∈ acc, SpansAfter o r.spans) →
      readRules source fuel c acc = .ok rules → ∀ r ∈ rules, SpansAfter o r.spans := by
  induction fuel with
  | zero => intro o c acc rules _ _ h; simp [readRules] at h
  | succ fuel ih =>
    intro o c acc rules hoc hacc h
    have hob : o.Follows c.skipBlank := hoc.trans (follows_skipBlank c)
    rw [readRules] at h
    split at h
    · cases h
      exact fun r hr => hacc r (List.mem_reverse.mp hr)
    · split at h
      · cases h
      · split at h
        · exact ih o _ acc rules hob.bump hacc h
        · split at h
          · cases h
          · next _ r d hd =>
            have hrule := (readers_spec source fuel).2.2.2.2 c.skipBlank
            refine ih o d _ rules (hob.trans (hrule.follows_of_ok hd)) (fun r' hr' => ?_) h
            rcases List.mem_cons.mp hr' with rfl | hr'
            · exact ((readers_spans source fuel).2.2.2.2 _ r' d hd).mono hob
            · exact hacc r' hr'

/-- The spans of a stylesheet read from a text start and end at places of cursors that the
reader reached from the start of the text. -/
theorem parse_spans {text filename : String} {s : Stylesheet} (h : parse text filename = .ok s) :
    SpansAfter (Cursor.start text) s.spans := by
  unfold parse at h
  dsimp only at h
  rcases hr : readRules filename (3 * (Cursor.start text).rest.length + 3) (Cursor.start text) [] with
    e | rules <;> simp only [hr, Except.map] at h
  · cases h
  · cases h
    intro sp hsp
    obtain ⟨r, hr', hsp⟩ := List.mem_flatMap.mp hsp
    exact readRules_spans filename _ _ _ [] rules (.refl _) (by simp) hr r hr' sp hsp

/-! ## Rows and columns of the places reached -/

/-- The characters of the last row of a text so far: those after its last line feed. -/
def lastRow (pre : List Char) : List Char := (pre.reverse.takeWhile (· ≠ '\n')).reverse

theorem lastRow_append_newline (pre : List Char) : lastRow (pre ++ ['\n']) = [] := by
  simp [lastRow]

theorem lastRow_append_of_ne {x : Char} (hx : x ≠ '\n') (pre : List Char) :
    lastRow (pre ++ [x]) = lastRow pre ++ [x] := by
  simp [lastRow, hx]

/-- The column a cursor keeps on a text: the UTF-16 length of its row so far, less the
first-row shift. -/
def Cursor.ColumnOn (text : String) (c : Cursor) : Prop :=
  ∃ pre, text.toList = pre ++ c.rest ∧ c.column + bomShift text c.row = length16 (lastRow pre)

theorem columnOn_start (text : String) : (Cursor.start text).ColumnOn text := by
  unfold Cursor.start
  split
  · next rest h => exact ⟨['\uFEFF'], h, by simp [bomShift, h, lastRow, units16]⟩
  · next cs h =>
    have hhead : text.toList.head? ≠ some '\uFEFF' := fun hh =>
      let ⟨rest, hrest⟩ := List.head?_eq_some_iff.mp hh
      h rest hrest
    exact ⟨[], rfl, by simp [bomShift, hhead, lastRow]⟩

theorem Cursor.ColumnOn.bump {text : String} {c : Cursor} (h : c.ColumnOn text) :
    c.bump.ColumnOn text := by
  obtain ⟨pre, htext, hcol⟩ := h
  unfold Cursor.bump
  split
  · exact ⟨pre, htext, hcol⟩
  · next x xs hrest =>
    rw [hrest] at htext
    by_cases hx : x = '\n'
    · subst hx
      simp only [if_true]
      exact ⟨pre ++ ['\n'], by simp [htext], by simp [bomShift, lastRow_append_newline]⟩
    · simp only [hx, if_false]
      refine ⟨pre ++ [x], by simp [htext], ?_⟩
      rw [lastRow_append_of_ne hx, length16_append]
      simp only [length16_cons, length16_nil]
      omega

theorem Cursor.ColumnOn.of_follows {text : String} {d : Cursor}
    (h : (Cursor.start text).Follows d) : d.ColumnOn text := by
  obtain ⟨k, rfl⟩ := h
  induction k with
  | zero => exact columnOn_start text
  | succ k ih =>
    rw [Function.iterate_succ_apply']
    exact ih.bump

/-- The place of a cursor the reader reached from the start of a text is a place of the
text. -/
theorem placeIn_here {text : String} {d : Cursor} (h : (Cursor.start text).Follows d) :
    d.here.PlaceIn text := by
  obtain ⟨pre, htext, hoff, hrow⟩ := Cursor.OnText.of_follows h
  obtain ⟨pre', htext', hcol⟩ := Cursor.ColumnOn.of_follows h
  obtain rfl : pre' = pre := List.append_cancel_right (htext'.symm.trans htext)
  have hprefix : prefixBytes text.toList d.offset = some pre' := by
    rw [htext, hoff, prefixBytes_append]
  refine ⟨by simp [isBoundary, Cursor.here, hprefix], ?_, ?_⟩
  · rw [← byteLength_toList, htext, byteLength_append]
    simp [Cursor.here, hoff]
  · show locate text d.offset = some ⟨d.offset, d.row, d.column + bomShift text d.row⟩
    rw [locate, hprefix, Option.map_some, hcol, hrow]
    rfl

/-! ## Every location a parse reports -/

/-- Every location a parse reports: the start and end of the span of each rule and declaration
it reads, or the location of the error it fails with. -/
def parseLocations (text filename : String) : List Location :=
  match parse text filename with
  | .ok s => s.spans.flatMap fun sp => [sp.range.start, sp.range.stop]
  | .error e => [e.location]

/-- Every location a parse reports names a place of the text read: a character boundary within
the text, on the row `locate` gives and at the column `locate` gives, except on the first row of
a text that begins with a byte order mark, where it is one unit less. -/
theorem parse_locations (text filename : String) :
    ∀ l ∈ parseLocations text filename, l.PlaceIn text := by
  unfold parseLocations
  split
  · next s hs =>
    intro l hl
    obtain ⟨sp, hsp, hl⟩ := List.mem_flatMap.mp hl
    obtain ⟨⟨d, hd, hstart⟩, ⟨d', hd', hstop⟩⟩ := parse_spans hs sp hsp
    simp only [List.mem_cons, List.not_mem_nil, or_false] at hl
    rcases hl with rfl | rfl
    · exact hstart ▸ placeIn_here hd
    · exact hstop ▸ placeIn_here hd'
  · next e he =>
    intro l hl
    obtain rfl := List.mem_singleton.mp hl
    obtain ⟨d, hd, hloc⟩ := parse_error_place he
    exact hloc ▸ placeIn_here hd

/-- In a text that begins with a byte order mark, the first rule starts right after the mark, at
the reader's column 0, which `locate` counts as column 1. -/
theorem parse_locations_sample :
    (⟨3, 0, 0⟩ : Location) ∈ parseLocations "\uFEFFa{}" "a.css" ∧
      (⟨3, 0, 0⟩ : Location).PlaceIn "\uFEFFa{}" := by
  have hlocs : parseLocations "\uFEFFa{}" "a.css" = [⟨3, 0, 0⟩, ⟨6, 0, 3⟩] := by
    decide
  have hmem : (⟨3, 0, 0⟩ : Location) ∈ parseLocations "\uFEFFa{}" "a.css" := by
    simp [hlocs]
  exact ⟨hmem, parse_locations _ _ _ hmem⟩

end CssBundle.Css
