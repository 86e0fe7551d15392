import Mathlib
import CssBundle.Proofs.Reread
import CssBundle.Proofs.SpanPlaces

/-!
# Every value read leaves less text

A reader that gives a value stops after the place it started from, with less text left: a
comment, an at-rule, a block and an entry each hold at least one character. This holds at every
amount of fuel, since a reader that runs out of fuel gives an error and no value
(`readers_advance`). It is what lets a loop of readers go on with one unit of fuel less each
time.
-/

namespace CssBundle.Css

open Text Cursor

/-- A reader result started at `c` that is a value ends after `c`, with less text left. -/
def Advances {α : Type} (c : Cursor) (r : Step α) : Prop :=
  ∀ a d, r = .ok (a, d) → c.Follows d ∧ d.rest.length < c.rest.length

theorem advances_error {α : Type} {c : Cursor} {e : ParseError} : Advances c (.error e : Step α) := by
  intro a d h
  cases h

theorem Cursor.Follows.length_le {c d : Cursor} (h : c.Follows d) : d.rest.length ≤ c.rest.length := by
  obtain ⟨k, rfl⟩ := h
  rw [rest_iterate_bump, List.length_drop]
  omega

theorem length_bump_cons {c : Cursor} {x : Char} {r : List Char} (h : c.rest = x :: r) :
    c.bump.rest.length + 1 = c.rest.length := by
  simp [rest_bump, h]

theorem rest_of_scanUntil {c d : Cursor} {x : Char} (h : scanUntil c = .ok (some x, d)) :
    ∃ r, d.rest = x :: r := by
  obtain ⟨T, rest, s, hc, rfl, -, -⟩ := feed_of_scanUntil h
  exact ⟨rest, by rw [rest_iterate_bump, hc, List.drop_left]⟩

theorem ne_nil_of_splitDeclaration {T : List Char} {p v : String} (h : splitDeclaration T = some (p, v)) :
    T ≠ [] := by
  obtain ⟨before, after, rfl, -⟩ := splitDeclaration_spec h
  simp

theorem length_lt_of_textTo {c d : Cursor} (h : textTo c d ≠ []) : d.rest.length < c.rest.length := by
  by_contra hge
  exact h (by rw [textTo, show c.rest.length - d.rest.length = 0 by omega, List.take_zero])

theorem readComment_advances (source : String) {c : Cursor} {body : List Char}
    (hc : c.rest = '/' :: '*' :: body) : Advances c (readComment source c) := by
  intro r d h
  unfold readComment at h
  split at h
  · cases h
  · next e hd =>
    obtain ⟨-, rfl⟩ := Prod.mk.inj (Except.ok.inj h)
    refine ⟨(skipComment_spec c).1 e hd, ?_⟩
    obtain ⟨X, more, hX, -, rfl⟩ := skipComment_go_spec c _ _ _ hd
    have hlen : c.rest.length = c.bump.bump.rest.length + 2 := by simp [rest_bump, hc]
    rw [rest_iterate_bump, hlen, hX]
    simp only [List.length_drop, List.length_append, List.length_cons]
    omega

theorem Advances.of_follows {α : Type} {c d : Cursor} {r : Step α} (hcd : c.Follows d)
    (h : Advances d r) : Advances c r := by
  intro a e he
  obtain ⟨hde, hlt⟩ := h a e he
  exact ⟨hcd.trans hde, by have := hcd.length_le; omega⟩

section Fuel

variable (source : String)

def AtRulesAdvance (f : Nat) : Prop :=
  ∀ (c : Cursor) (r : List Char), c.rest = '@' :: r → Advances c (readAtRule source f c)

def BlocksAdvance (f : Nat) : Prop :=
  ∀ (c : Cursor) (r : List Char), c.rest = '{' :: r → Advances c (readBlock source f c)

def EntriesAdvance (f : Nat) : Prop :=
  ∀ (o c : Cursor) (acc : List Item), o.Follows c → Advances o (readItems source f o.here c acc)

def ItemsAdvance (f : Nat) : Prop :=
  ∀ c : Cursor, Advances c (readItem source f c)

def RulesAdvance (f : Nat) : Prop :=
  ∀ c : Cursor, Advances c (readRule source f c)

theorem BlocksAdvance.succ {f : Nat} (hit : EntriesAdvance source f) : BlocksAdvance source (f + 1) := by
  intro c r hc
  rw [readBlock]
  intro a d h
  obtain ⟨hcd, hlt⟩ := hit c c.bump [] c.follows_bump a d h
  exact ⟨hcd, hlt⟩

theorem advances_block {f : Nat} (hbl : BlocksAdvance source f) {c d : Cursor}
    {x : Option Char} (hs : scanUntil c = .ok (x, d)) (hx : x = some '{') :
    Advances c (readBlock source f d) := by
  subst hx
  obtain ⟨r, hr⟩ := rest_of_scanUntil hs
  exact (hbl d r hr).of_follows ((scanUntil_spec c).follows_of_ok hs)

theorem AtRulesAdvance.succ {f : Nat} (hbl : BlocksAdvance source f) : AtRulesAdvance source (f + 1) := by
  intro c r hc
  have hlen := length_bump_cons hc
  have hname : c.Follows ((List.range (c.bump.rest.takeWhile isNameChar).length).foldl
      (fun d _ => d.bump) c.bump) := c.follows_bump.trans (follows_foldl_bump _ c.bump)
  rw [readAtRule]
  intro a e h
  dsimp only at h
  split at h
  · cases h
  split at h
  · cases h
  · next stop d hd =>
    have hcd : c.Follows d := hname.trans ((scanUntil_spec _).follows_of_ok hd)
    have hdl : d.rest.length < c.rest.length := by
      have := ((follows_foldl_bump _ c.bump).trans ((scanUntil_spec _).follows_of_ok hd)).length_le
      omega
    split at h
    · split at h
      · cases h
      · next body e' he =>
        obtain ⟨-, rfl⟩ := Prod.mk.inj (Except.ok.inj h)
        exact (advances_block source hbl hd rfl).of_follows hname body e' he
    · obtain ⟨-, rfl⟩ := Prod.mk.inj (Except.ok.inj h)
      exact ⟨hcd.bump, by have := (follows_bump d).length_le; omega⟩
    · obtain ⟨-, rfl⟩ := Prod.mk.inj (Except.ok.inj h)
      exact ⟨hcd, hdl⟩

theorem ItemsAdvance.succ {f : Nat} (hbl : BlocksAdvance source f) : ItemsAdvance source (f + 1) := by
  intro c a e h
  rw [readItem] at h
  split at h
  · cases h
  · next stop d hd =>
    have hcd : c.Follows d := (scanUntil_spec c).follows_of_ok hd
    dsimp only at h
    split at h
    · next hstop =>
      split at h
      · cases h
      · next body e' he =>
        obtain ⟨-, rfl⟩ := Prod.mk.inj (Except.ok.inj h)
        exact advances_block source hbl hd hstop body e' he
    · split at h
      · next p v hsplit =>
        obtain ⟨-, rfl⟩ := Prod.mk.inj (Except.ok.inj h)
        have hlt := length_lt_of_textTo (ne_nil_of_splitDeclaration hsplit)
        split
        · exact ⟨hcd.bump, by have := (follows_bump d).length_le; omega⟩
        · exact ⟨hcd, hlt⟩
      · cases h

theorem EntriesAdvance.succ {f : Nat} (hat : AtRulesAdvance source f) (hitem : ItemsAdvance source f)
    (hit : EntriesAdvance source f) : EntriesAdvance source (f + 1) := by
  intro o c acc hoc
  have hob : o.Follows c.skipBlank := hoc.trans (follows_skipBlank c)
  have hsk := hoc.length_le.trans' (length_skipBlank_le c)
  have hnext : ∀ {β : Type} (i : Item) {r : Step β} {b : β}, Advances c.skipBlank r → ∀ d,
      r = .ok (b, d) → Advances o (readItems source f o.here d (i :: acc)) := by
    intro β i r b hr d hd
    exact hit o d _ (hob.trans (hr b d hd).1)
  cases hsb : c.skipBlank.rest with
  | nil =>
    rw [readItems]
    simp only [hsb]
    exact advances_error
  | cons x rest =>
    have hblen := length_bump_cons hsb
    by_cases hclose : x = '}'
    · subst hclose
      rw [readItems_close source hsb]
      intro a d h
      obtain ⟨-, rfl⟩ := Prod.mk.inj (Except.ok.inj h)
      exact ⟨hob.bump, by omega⟩
    by_cases hsemi : x = ';'
    · subst hsemi
      rw [readItems_semicolon source hsb]
      exact hit o _ acc hob.bump
    by_cases hatc : x = '@'
    · subst hatc
      rw [readItems_at source hsb]
      split
      · exact advances_error
      · next r d hd => exact hnext (.rule r) (hat c.skipBlank rest hsb) d hd
    by_cases hcm : c.skipBlank.startsWith2 '/' '*' = true
    · obtain ⟨more, hmore⟩ := rest_of_startsWith2 hcm
      rw [readItems_comment source hmore]
      split
      · exact advances_error
      · next r d hd => exact hnext (.rule r) (readComment_advances source hmore) d hd
    · rw [readItems_plain source hsb hclose hsemi hatc (by simpa using hcm)]
      split
      · exact advances_error
      · next i d hd => exact hnext i (hitem c.skipBlank) d hd

theorem RulesAdvance.succ {f : Nat} (hat : AtRulesAdvance source f) (hbl : BlocksAdvance source f) :
    RulesAdvance source (f + 1) := by
  intro c
  rw [readRule]
  split
  · next hcm =>
    obtain ⟨more, hmore⟩ := rest_of_startsWith2 hcm
    exact readComment_advances source hmore
  · split
    · next hpeek =>
      obtain ⟨r, hr⟩ : ∃ r, c.rest = '@' :: r := by
        cases hc : c.rest with
        | nil => simp [peek, hc] at hpeek
        | cons y r => exact ⟨r, by simpa [peek, hc] using hpeek⟩
      exact hat c r hr
    · intro a e h
      split at h
      · cases h
      · next d hd =>
        split at h
        · cases h
        · next body e' he =>
          obtain ⟨-, rfl⟩ := Prod.mk.inj (Except.ok.inj h)
          exact advances_block source hbl hd rfl body e' he
      · cases h

/-- Every reader that gives a value leaves less text after it than before, at every amount of
fuel. -/
theorem readers_advance (f : Nat) :
    AtRulesAdvance source f ∧ BlocksAdvance source f ∧ EntriesAdvance source f ∧
      ItemsAdvance source f ∧ RulesAdvance source f := by
  induction f with
  | zero =>
    refine ⟨fun c r _ a d h => ?_, fun c r _ a d h => ?_, fun o c acc _ a d h => ?_,
      fun c a d h => ?_, fun c a d h => ?_⟩ <;> simp [readAtRule, readBlock, readItems, readItem, readRule] at h
  | succ f ih =>
    obtain ⟨hat, hbl, hit, hitem, -⟩ := ih
    exact ⟨AtRulesAdvance.succ source hbl, BlocksAdvance.succ source hit,
      EntriesAdvance.succ source hat hitem hit, ItemsAdvance.succ source hbl, RulesAdvance.succ source hat hbl⟩

end Fuel

end CssBundle.Css
