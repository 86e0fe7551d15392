import Mathlib
import CssBundle.Css.Reader
import CssBundle.SourceText

/-!
# Where the reader stands

The reader moves through a text only by `Cursor.bump`, one character at a time, and every
location it reports is the place of a cursor it reached that way, or of the opening brace of a
block it is in. So every location of a parse error is a place of the text: its offset is a
character boundary, at most the text's length, and its row is the row `locate` gives.

`Cursor.Follows c d` says that `d` is `c` moved on by some number of characters, and
`StepFrom c r` that a reader result `r` started at `c` ends at such a cursor or fails at the
place of one. Each reading function keeps `StepFrom`; `parse_error_place` collects it.
-/

namespace CssBundle.Css

open Text

namespace Cursor

def Follows (c d : Cursor) : Prop := ∃ k, d = bump^[k] c

theorem Follows.refl (c : Cursor) : c.Follows c := ⟨0, rfl⟩

theorem Follows.trans {c d e : Cursor} (hcd : c.Follows d) (hde : d.Follows e) : c.Follows e := by
  obtain ⟨k, rfl⟩ := hcd
  obtain ⟨j, rfl⟩ := hde
  exact ⟨j + k, (Function.iterate_add_apply bump j k c).symm⟩

theorem Follows.bump {c d : Cursor} (h : c.Follows d) : c.Follows d.bump :=
  h.trans ⟨1, rfl⟩

theorem follows_bump (c : Cursor) : c.Follows c.bump := (Follows.refl c).bump

end Cursor

/-- A reader result started at `c`: a value with a cursor that follows `c`, or an error at the
place of a cursor that follows `c`. -/
def StepFrom {α : Type} (c : Cursor) : Step α → Prop
  | .ok (_, d) => c.Follows d
  | .error e => ∃ d, c.Follows d ∧ e.location = d.here

theorem follows_skipBlank (c : Cursor) : c.Follows c.skipBlank := by
  unfold Cursor.skipBlank
  suffices ∀ n d, c.Follows d → c.Follows (Cursor.skipBlank.go n d) from this _ _ (.refl c)
  intro n
  induction n with
  | zero => intro d hd; exact hd
  | succ n ih =>
    intro d hd
    unfold Cursor.skipBlank.go
    split
    · split
      · exact ih _ hd.bump
      · exact hd
    · exact hd

theorem skipComment_spec (c : Cursor) :
    (∀ d, skipComment c = .ok d → c.Follows d) ∧
      (∀ e, skipComment c = .error e → e.location = c.here) := by
  unfold skipComment
  suffices ∀ n d, c.Follows d →
      (∀ e, skipComment.go c n d = .ok e → c.Follows e) ∧
        (∀ e, skipComment.go c n d = .error e → e.location = c.here) from
    this _ _ (c.follows_bump.bump)
  intro n
  induction n with
  | zero =>
    intro d _
    refine ⟨fun e h => ?_, fun e h => ?_⟩ <;> simp only [skipComment.go] at h
    · cases h
    · cases h
      rfl
  | succ n ih =>
    intro d hd
    refine ⟨fun e h => ?_, fun e h => ?_⟩ <;> simp only [skipComment.go] at h <;> split at h
    · cases h
      exact hd.bump.bump
    · split at h
      · cases h
      · exact (ih _ hd.bump).1 e h
    · cases h
    · split at h
      · cases h
        rfl
      · exact (ih _ hd.bump).2 e h

theorem skipString_spec (c : Cursor) :
    (∀ d, skipString c = .ok d → c.Follows d) ∧
      (∀ e, skipString c = .error e → e.location = c.here) := by
  unfold skipString
  split
  · exact ⟨fun d h => by cases h; exact .refl c, fun e h => by cases h⟩
  · next q _ =>
    suffices ∀ n d, c.Follows d →
        (∀ e, skipString.go c q n d = .ok e → c.Follows e) ∧
          (∀ e, skipString.go c q n d = .error e → e.location = c.here) from
      this _ _ c.follows_bump
    intro n
    induction n with
    | zero =>
      intro d _
      refine ⟨fun e h => ?_, fun e h => ?_⟩ <;> simp only [skipString.go] at h
      · cases h
      · cases h
        rfl
    | succ n ih =>
      intro d hd
      refine ⟨fun e h => ?_, fun e h => ?_⟩ <;> simp only [skipString.go] at h <;> split at h
      · cases h
      · split at h
        · exact (ih _ hd.bump.bump).1 e h
        · split at h
          · cases h
            exact hd.bump
          · exact (ih _ hd.bump).1 e h
      · cases h
        rfl
      · split at h
        · exact (ih _ hd.bump.bump).2 e h
        · split at h
          · cases h
          · exact (ih _ hd.bump).2 e h

/-- A scan stops at a cursor after its start, or fails at the place of one: inside a string or
comment it did not close, or at an open bracket it did not close. -/
theorem scanUntil_spec (c : Cursor) : StepFrom c (scanUntil c) := by
  unfold scanUntil
  suffices ∀ n d stack, c.Follows d → (∀ p ∈ stack, ∃ o, c.Follows o ∧ p.2 = o.here) →
      StepFrom c (scanUntil.go n d stack) from this _ _ _ (.refl c) (by simp)
  intro n
  induction n with
  | zero => intro d stack hd _; exact hd
  | succ n ih =>
    intro d stack hd hstack
    unfold scanUntil.go
    split
    · split
      · next open_ hlast =>
        obtain ⟨o, ho, hloc⟩ := hstack _ (List.mem_of_getLast? hlast)
        exact ⟨o, ho, hloc⟩
      · exact hd
    · split
      · exact hd
      · split
        · exact ih _ _ hd.bump.bump hstack
        · split
          · split
            · next e he => exact ih _ _ (hd.trans ((skipString_spec d).1 e he)) hstack
            · next err herr => exact ⟨d, hd, (skipString_spec d).2 err herr⟩
          · split
            · split
              · next e he => exact ih _ _ (hd.trans ((skipComment_spec d).1 e he)) hstack
              · next err herr => exact ⟨d, hd, (skipComment_spec d).2 err herr⟩
            · have hpush : ∀ close, ∀ p ∈ (close, d.here) :: stack, ∃ o, c.Follows o ∧ p.2 = o.here := by
                intro close p hp
                rcases List.mem_cons.mp hp with rfl | hp
                · exact ⟨d, hd, rfl⟩
                · exact hstack p hp
              split
              · exact ih _ _ hd.bump (hpush ')')
              · split
                · exact ih _ _ hd.bump (hpush ']')
                · split
                  · split
                    · next close _ rest =>
                      split
                      · exact ih _ _ hd.bump fun p hp => hstack p (List.mem_cons_of_mem _ hp)
                      · exact ih _ _ hd.bump hstack
                    · exact ih _ _ hd.bump hstack
                  · exact ih _ _ hd.bump hstack

theorem StepFrom.mono {α : Type} {c d : Cursor} (hcd : c.Follows d) {r : Step α}
    (h : StepFrom d r) : StepFrom c r := by
  rcases r with e | ⟨a, e⟩
  · obtain ⟨o, ho, hloc⟩ := h
    exact ⟨o, hcd.trans ho, hloc⟩
  · exact hcd.trans h

theorem StepFrom.error_of {α β : Type} {c d : Cursor} (hcd : c.Follows d) {r : Step α}
    (h : StepFrom d r) {e : ParseError} (he : r = .error e) : StepFrom (α := β) c (.error e) := by
  subst he
  obtain ⟨o, ho, hloc⟩ := h
  exact ⟨o, hcd.trans ho, hloc⟩

theorem StepFrom.follows_of_ok {α : Type} {d : Cursor} {r : Step α} (h : StepFrom d r) {a : α}
    {d' : Cursor} (he : r = .ok (a, d')) : d.Follows d' := by
  subst he
  exact h

theorem follows_foldl_bump {β : Type} (l : List β) (c : Cursor) :
    c.Follows (l.foldl (fun d _ => d.bump) c) := by
  induction l generalizing c with
  | nil => exact .refl c
  | cons _ l ih => exact c.follows_bump.trans (ih c.bump)

theorem readComment_spec (source : String) (c : Cursor) : StepFrom c (readComment source c) := by
  unfold readComment
  split
  · next e he => exact ⟨c, .refl c, (skipComment_spec c).2 e he⟩
  · next d hd => exact (skipComment_spec c).1 d hd

/-- The readers of rules and blocks, by the fuel they are given: each ends at a cursor after
its start or fails at the place of one; a block's entries may also fail at its opening brace. -/
theorem readers_spec (source : String) (fuel : Nat) :
    (∀ c, StepFrom c (readAtRule source fuel c)) ∧
    (∀ c, StepFrom c (readBlock source fuel c)) ∧
    (∀ o c acc, o.Follows c → StepFrom o (readItems source fuel o.here c acc)) ∧
    (∀ c, StepFrom c (readItem source fuel c)) ∧
    (∀ c, StepFrom c (readRule source fuel c)) := by
  induction fuel with
  | zero =>
    refine ⟨fun c => ?_, fun c => ?_, fun o c acc _ => ?_, fun c => ?_, fun c => ?_⟩
    · rw [readAtRule]; exact ⟨c, .refl c, rfl⟩
    · rw [readBlock]; exact ⟨c, .refl c, rfl⟩
    · rw [readItems]; exact ⟨o, .refl o, rfl⟩
    · rw [readItem]; exact ⟨c, .refl c, rfl⟩
    · rw [readRule]; exact ⟨c, .refl c, rfl⟩
  | succ fuel ih =>
    obtain ⟨hat, hblock, hitems, hitem, hrule⟩ := ih
    refine ⟨fun c => ?_, fun c => ?_, fun o c acc hoc => ?_, fun c => ?_, fun c => ?_⟩
    · rw [readAtRule]
      have hname : c.Follows ((List.range (c.bump.rest.takeWhile isNameChar).length).foldl
          (fun d _ => d.bump) c.bump) := c.follows_bump.trans (follows_foldl_bump _ c.bump)
      split
      · exact ⟨c, .refl c, rfl⟩
      · split
        · next e he => exact (scanUntil_spec _).error_of hname he
        · next stop d hd =>
          have hcd : c.Follows d := hname.trans ((scanUntil_spec _).follows_of_ok hd)
          split
          · split
            · next e he => exact (hblock d).error_of hcd he
            · next body e he => exact hcd.trans ((hblock d).follows_of_ok he)
          · exact hcd.bump
          · exact hcd
    · rw [readBlock]
      exact hitems c c.bump [] c.follows_bump
    · have hob : o.Follows c.skipBlank := hoc.trans (follows_skipBlank c)
      rw [readItems]
      split
      · exact ⟨o, .refl o, rfl⟩
      · split
        · exact hob.bump
        · split
          · exact hitems o _ acc hob.bump
          · split
            · split
              · next e he => exact (hat _).error_of hob he
              · next r d hd => exact hitems o d _ (hob.trans ((hat _).follows_of_ok hd))
            · split
              · split
                · next e he => exact (readComment_spec source _).error_of hob he
                · next r d hd =>
                  exact hitems o d _ (hob.trans ((readComment_spec source _).follows_of_ok hd))
              · split
                · next e he => exact (hitem _).error_of hob he
                · next i d hd => exact hitems o d _ (hob.trans ((hitem _).follows_of_ok hd))
    · rw [readItem]
      split
      · next e he => exact (scanUntil_spec c).error_of (.refl c) he
      · next stop d hd =>
        have hcd : c.Follows d := (scanUntil_spec c).follows_of_ok hd
        split
        · split
          · next e he => exact (hblock d).error_of hcd he
          · next body e he => exact hcd.trans ((hblock d).follows_of_ok he)
        · have hend : c.Follows (if stop = some ';' then d.bump else d) := by
            split
            · exact hcd.bump
            · exact hcd
          generalize (if stop = some ';' then d.bump else d) = e at hend ⊢
          dsimp only
          split
          · exact hend
          · exact ⟨c, .refl c, rfl⟩
    · rw [readRule]
      split
      · exact readComment_spec source c
      · split
        · exact hat c
        · split
          · next e he => exact (scanUntil_spec c).error_of (.refl c) he
          · next d hd =>
            have hcd : c.Follows d := (scanUntil_spec c).follows_of_ok hd
            split
            · next e he => exact (hblock d).error_of hcd he
            · next body e he => exact hcd.trans ((hblock d).follows_of_ok he)
          · exact ⟨c, .refl c, rfl⟩

theorem readRules_spec (source : String) (fuel : Nat) :
    ∀ c acc e, readRules source fuel c acc = .error e → ∃ d, c.Follows d ∧ e.location = d.here := by
  induction fuel with
  | zero =>
    intro c acc e h
    rw [readRules] at h
    cases h
    exact ⟨c, .refl c, rfl⟩
  | succ fuel ih =>
    intro c acc e h
    have hb := follows_skipBlank c
    rw [readRules] at h
    split at h
    · cases h
    · split at h
      · cases h
        exact ⟨_, hb, rfl⟩
      · split at h
        · obtain ⟨d, hd, hloc⟩ := ih _ acc e h
          exact ⟨d, hb.bump.trans hd, hloc⟩
        · split at h
          · next e' he =>
            cases h
            obtain ⟨d, hd, hloc⟩ := (readers_spec source fuel).2.2.2.2 _ |>.error_of (β := Unit) hb he
            exact ⟨d, hd, hloc⟩
          · next r d hd =>
            obtain ⟨d', hd', hloc⟩ := ih d _ e h
            exact ⟨d', hb.trans (((readers_spec source fuel).2.2.2.2 _).follows_of_ok hd) |>.trans hd',
              hloc⟩

theorem parse_error_place {text filename : String} {e : ParseError}
    (h : parse text filename = .error e) : ∃ d, (Cursor.start text).Follows d ∧ e.location = d.here := by
  unfold parse at h
  dsimp only at h
  rcases hr : readRules filename (3 * (Cursor.start text).rest.length + 3) (Cursor.start text) [] with
    e' | rules <;> simp only [hr, Except.map] at h
  · cases h
    exact readRules_spec filename _ _ _ _ hr
  · cases h

/-! ## Places of the text -/

/-- A cursor on `text`: what it has left is what follows some first part of the text, its
offset is the byte length of that part, and its row counts the line feeds in it. -/
def Cursor.OnText (text : String) (c : Cursor) : Prop :=
  ∃ pre, text.toList = pre ++ c.rest ∧ c.offset = byteLength pre ∧ c.row = pre.count '\n'

theorem onText_start (text : String) : (Cursor.start text).OnText text := by
  unfold Cursor.start
  split
  · next rest h => exact ⟨['\uFEFF'], h, rfl, rfl⟩
  · exact ⟨[], rfl, rfl, rfl⟩

theorem Cursor.OnText.bump {text : String} {c : Cursor} (h : c.OnText text) : c.bump.OnText text := by
  obtain ⟨pre, htext, hoff, hrow⟩ := h
  unfold Cursor.bump
  split
  · exact ⟨pre, htext, hoff, hrow⟩
  · next x xs hrest =>
    rw [hrest] at htext
    by_cases hx : x = '\n'
    · subst hx
      simp only [if_true]
      exact ⟨pre ++ ['\n'], by simp [htext], by simp [hoff], by simp [hrow]⟩
    · simp only [hx, if_false]
      exact ⟨pre ++ [x], by simp [htext], by simp [hoff], by simp [hrow, hx]⟩

theorem Cursor.OnText.of_follows {text : String} {d : Cursor} (h : (Cursor.start text).Follows d) :
    d.OnText text := by
  obtain ⟨k, rfl⟩ := h
  induction k with
  | zero => exact onText_start text
  | succ k ih =>
    rw [Function.iterate_succ_apply']
    exact ih.bump

theorem prefixBytes_append (pre rest : List Char) :
    prefixBytes (pre ++ rest) (byteLength pre) = some pre := by
  induction pre with
  | nil => simp [prefixBytes]
  | cons c pre ih =>
    obtain ⟨n, hn⟩ : ∃ n, c.utf8Size + byteLength pre = n + 1 :=
      ⟨c.utf8Size + byteLength pre - 1, by have := Char.utf8Size_pos c; omega⟩
    rw [List.cons_append, byteLength_cons, hn, prefixBytes, if_pos (by omega)]
    have hsub : n + 1 - c.utf8Size = byteLength pre := by omega
    rw [hsub, ih]
    rfl

/-- The place of a cursor on a text is a place of the text: `locate` finds its offset, on its
row. -/
theorem Cursor.OnText.locate {text : String} {c : Cursor} (h : c.OnText text) :
    ∃ col, CssBundle.locate text c.offset = some ⟨c.offset, c.row, col⟩ := by
  obtain ⟨pre, htext, hoff, hrow⟩ := h
  refine ⟨length16 (pre.reverse.takeWhile (· ≠ '\n')).reverse, ?_⟩
  rw [CssBundle.locate, htext, hoff, prefixBytes_append]
  simp [hrow]

/-- Every parse error lies in the text read: its offset is a character boundary of the text,
at most its length, and its row is the row of that offset. -/
theorem parse_error_inside {text filename : String} {e : ParseError}
    (h : parse text filename = .error e) :
    ∃ col, locate text e.location.offset = some ⟨e.location.offset, e.location.row, col⟩ := by
  obtain ⟨d, hd, hloc⟩ := parse_error_place h
  rw [hloc]
  exact (Cursor.OnText.of_follows hd).locate

end CssBundle.Css
