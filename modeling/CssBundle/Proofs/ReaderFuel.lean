import Mathlib
import CssBundle.Proofs.ReaderProgress

/-!
# The reader's fuel is never used up

Every loop of the reader runs on fuel, so that it ends. The scanning loops (`skipBlank`,
`skipComment`, `skipString`, `scanUntil`) get one step per character left; the readers of rules,
blocks and entries one unit per call, three per character of the text in all. None of these
amounts is ever what ends a loop: each loop gives the same answer with any larger amount.

For a scanning loop this is because every step moves past at least one character or stops; a
string or a comment inside a scan is passed whole, which also moves past at least one character
(`length_lt_of_skipString`, `length_lt_of_skipComment`). For the readers it is the progress that
`readers_advance` gives: every value read leaves less text, and a block is read from its `{` on. So
each statement "one unit more changes nothing" (`AtRulesStable` … `RulesStable`) follows from the
same statements one unit lower, and all of them hold at every amount (`readers_stable`).

Main statement: `parse_fuel_suffices`.
-/

namespace CssBundle.Css

open Text Cursor

/-- A sequence that no longer changes from one index on keeps its value there at every later
index. -/
theorem eq_of_succ_eq {α : Type} {g : Nat → α} {n : Nat} (h : ∀ k, n ≤ k → g (k + 1) = g k)
    {m : Nat} (hm : n ≤ m) : g m = g n :=
  (Nat.rel_of_forall_rel_succ_of_le_of_le (· = ·) (fun k hk => (h k hk).symm) le_rfl hm).symm

/-! ## Scanning loops -/

theorem skipBlank_go_succ : ∀ (n : Nat) (c : Cursor), c.rest.length ≤ n →
    Cursor.skipBlank.go (n + 1) c = Cursor.skipBlank.go n c
  | 0, c, h => by
    have hc : c.rest = [] := List.length_eq_zero_iff.mp (by omega)
    simp [Cursor.skipBlank.go, hc]
  | n + 1, c, h => by
    conv_lhs => rw [Cursor.skipBlank.go]
    conv_rhs => rw [Cursor.skipBlank.go]
    rcases hc : c.rest with _ | ⟨x, xs⟩
    · rfl
    · dsimp only
      split_ifs
      · exact skipBlank_go_succ n c.bump (by have := length_bump_cons hc; omega)
      · rfl

theorem skipComment_go_succ (start : Cursor) : ∀ (n : Nat) (d : Cursor), d.rest.length ≤ n →
    skipComment.go start (n + 1) d = skipComment.go start n d
  | 0, d, h => by
    have hd : d.rest = [] := List.length_eq_zero_iff.mp (by omega)
    simp [skipComment.go, Cursor.startsWith2, hd]
  | n + 1, d, h => by
    conv_lhs => rw [skipComment.go]
    conv_rhs => rw [skipComment.go]
    split_ifs
    · rfl
    · rcases hd : d.rest with _ | ⟨x, xs⟩
      · rfl
      · exact skipComment_go_succ start n d.bump (by have := length_bump_cons hd; omega)

theorem skipString_go_succ (start : Cursor) (q : Char) : ∀ (n : Nat) (d : Cursor), d.rest.length ≤ n →
    skipString.go start q (n + 1) d = skipString.go start q n d
  | 0, d, h => by
    have hd : d.rest = [] := List.length_eq_zero_iff.mp (by omega)
    simp [skipString.go, hd]
  | n + 1, d, h => by
    conv_lhs => rw [skipString.go]
    conv_rhs => rw [skipString.go]
    rcases hd : d.rest with _ | ⟨x, xs⟩
    · rfl
    · have hbump := length_bump_cons hd
      have hbump2 := (follows_bump d.bump).length_le
      dsimp only
      split_ifs
      · exact skipString_go_succ start q n d.bump.bump (by omega)
      · rfl
      · exact skipString_go_succ start q n d.bump (by omega)

theorem skipString_go_follows (start : Cursor) (q : Char) :
    ∀ (n : Nat) (d e : Cursor), skipString.go start q n d = .ok e → d.Follows e
  | 0, d, e, h => by simp [skipString.go] at h
  | n + 1, d, e, h => by
    rw [skipString.go] at h
    rcases hd : d.rest with _ | ⟨x, xs⟩ <;> simp only [hd] at h
    · cases h
    · split_ifs at h
      · exact (follows_bump d).bump.trans (skipString_go_follows start q n _ e h)
      · cases h
        exact follows_bump d
      · exact (follows_bump d).trans (skipString_go_follows start q n _ e h)

theorem length_lt_of_skipString {d e : Cursor} (hd : d.rest ≠ []) (h : skipString d = .ok e) :
    e.rest.length < d.rest.length := by
  obtain ⟨y, more, hym⟩ := List.exists_cons_of_ne_nil hd
  rw [Scanner.skipString_cons hym] at h
  have hle := (skipString_go_follows d y _ _ _ h).length_le
  have hlen := length_bump_cons hym
  omega

theorem length_lt_of_skipComment {d e : Cursor} {more : List Char} (hd : d.rest = '/' :: '*' :: more)
    (h : skipComment d = .ok e) : e.rest.length < d.rest.length := by
  rw [Scanner.skipComment_cons hd] at h
  obtain ⟨X, more', -, -, rfl⟩ := skipComment_go_spec d _ _ _ h
  have hlen : d.bump.bump.rest.length + 2 = d.rest.length := by simp [rest_bump, hd]
  rw [rest_iterate_bump, List.length_drop]
  omega

theorem scanUntil_go_succ (n : Nat) : ∀ (d : Cursor) (stack : List (Char × Location)),
    d.rest.length < n → scanUntil.go (n + 1) d stack = scanUntil.go n d stack := by
  induction n with
  | zero => intro d stack h; exact absurd h (Nat.not_lt_zero _)
  | succ n ih =>
    intro d stack h
    conv_lhs => rw [scanUntil.go]
    conv_rhs => rw [scanUntil.go]
    rcases hd : d.rest with _ | ⟨x, xs⟩
    · rfl
    · have hnext : ∀ (e : Cursor) (st : List (Char × Location)), e.rest.length < d.rest.length →
          scanUntil.go (n + 1) e st = scanUntil.go n e st := fun e st he => ih e st (by omega)
      have hbump : d.bump.rest.length < d.rest.length := by
        have := length_bump_cons hd
        omega
      have hbump2 : d.bump.bump.rest.length < d.rest.length :=
        lt_of_le_of_lt (follows_bump d.bump).length_le hbump
      dsimp only
      split_ifs with hstop hesc hquote hcomment hopen hsquare hclose
      · rfl
      · exact hnext _ _ hbump2
      · rcases hs : skipString d with err | e
        · rfl
        · exact hnext _ _ (length_lt_of_skipString (by simp [hd]) hs)
      · rcases hs : skipComment d with err | e
        · rfl
        · obtain ⟨more, hmore⟩ := rest_of_startsWith2 (Bool.and_eq_true_iff.mp hcomment).2
          exact hnext _ _ (length_lt_of_skipComment hmore hs)
      · exact hnext _ _ hbump
      · exact hnext _ _ hbump
      · rcases stack with _ | ⟨⟨close, place⟩, rest⟩
        · exact hnext _ _ hbump
        · dsimp only
          split_ifs
          · exact hnext _ _ hbump
          · exact hnext _ _ hbump
      · exact hnext _ _ hbump

/-! ## The readers, by fuel -/

section Fuel

variable (source : String)

/-- One unit of fuel more does not change how an at-rule at its `@` is read, once the fuel is three
times the text left. -/
def AtRulesStable (f : Nat) : Prop :=
  ∀ (c : Cursor) (r : List Char), c.rest = '@' :: r → 3 * c.rest.length ≤ f →
    readAtRule source (f + 1) c = readAtRule source f c

def BlocksStable (f : Nat) : Prop :=
  ∀ (c : Cursor) (r : List Char), c.rest = '{' :: r → 3 * c.rest.length ≤ f + 1 →
    readBlock source (f + 1) c = readBlock source f c

def EntriesStable (f : Nat) : Prop :=
  ∀ (o : Location) (c : Cursor) (acc : List Item), 3 * c.rest.length + 1 ≤ f →
    readItems source (f + 1) o c acc = readItems source f o c acc

/-- One unit of fuel more does not change how a declaration or nested rule is read. -/
def ItemsStable (f : Nat) : Prop :=
  ∀ (c : Cursor), c.rest ≠ [] → 3 * c.rest.length ≤ f →
    readItem source (f + 1) c = readItem source f c

def RulesStable (f : Nat) : Prop :=
  ∀ (c : Cursor), 3 * c.rest.length + 1 ≤ f → readRule source (f + 1) c = readRule source f c

theorem BlocksStable.succ {f : Nat} (hit : EntriesStable source f) : BlocksStable source (f + 1) := by
  intro c r hc hf
  have hlen := length_bump_cons hc
  conv_lhs => rw [readBlock]
  conv_rhs => rw [readBlock]
  exact hit c.here c.bump [] (by omega)

theorem stable_block {f : Nat} (hbl : BlocksStable source f) {c d : Cursor}
    (hs : scanUntil c = .ok (some '{', d)) (hf : 3 * c.rest.length ≤ f + 1) :
    readBlock source (f + 1) d = readBlock source f d := by
  obtain ⟨r, hr⟩ := rest_of_scanUntil hs
  have hdl := ((scanUntil_spec c).follows_of_ok hs).length_le
  exact hbl d r hr (by omega)

theorem AtRulesStable.succ {f : Nat} (hbl : BlocksStable source f) : AtRulesStable source (f + 1) := by
  intro c r hc hf
  have hname := (c.follows_bump.trans (follows_foldl_bump
    (List.range (c.bump.rest.takeWhile isNameChar).length) c.bump)).length_le
  conv_lhs => rw [readAtRule]
  conv_rhs => rw [readAtRule]
  dsimp only
  split_ifs
  · rfl
  · split
    · rfl
    · next stop d hs =>
      split
      · rw [stable_block source hbl hs (by omega)]
      · rfl
      · rfl

theorem ItemsStable.succ {f : Nat} (hbl : BlocksStable source f) : ItemsStable source (f + 1) := by
  intro c hc hf
  conv_lhs => rw [readItem]
  conv_rhs => rw [readItem]
  rcases hs : scanUntil c with e | ⟨stop, d⟩
  · rfl
  · dsimp only
    by_cases hstop : stop = some '{'
    · subst hstop
      rw [if_pos rfl, if_pos rfl, stable_block source hbl hs (by omega)]
    · rw [if_neg hstop, if_neg hstop]

theorem EntriesStable.succ {f : Nat} (hat : AtRulesStable source f) (hitem : ItemsStable source f)
    (hit : EntriesStable source f) : EntriesStable source (f + 1) := by
  intro o c acc hf
  have hsk := length_skipBlank_le c
  cases hsb : c.skipBlank.rest with
  | nil =>
    conv_lhs => rw [readItems]
    conv_rhs => rw [readItems]
    simp [hsb]
  | cons x rest =>
    have hblen := length_bump_cons hsb
    by_cases hclose : x = '}'
    · subst hclose
      rw [readItems_close source hsb, readItems_close source hsb]
    by_cases hsemi : x = ';'
    · subst hsemi
      rw [readItems_semicolon source hsb, readItems_semicolon source hsb]
      exact hit o _ acc (by omega)
    by_cases hatc : x = '@'
    · subst hatc
      rw [readItems_at source hsb, readItems_at source hsb, hat c.skipBlank rest hsb (by omega)]
      rcases hr : readAtRule source f c.skipBlank with e | ⟨r, d⟩
      · rfl
      · have hdl := (readers_advance source f).1 c.skipBlank rest hsb _ _ hr
        exact hit o d _ (by omega)
    by_cases hcm : c.skipBlank.startsWith2 '/' '*' = true
    · obtain ⟨more, hmore⟩ := rest_of_startsWith2 hcm
      rw [readItems_comment source hmore, readItems_comment source hmore]
      rcases hr : readComment source c.skipBlank with e | ⟨r, d⟩
      · rfl
      · have hdl := readComment_advances source hmore _ _ hr
        exact hit o d _ (by omega)
    · have hcm' : c.skipBlank.startsWith2 '/' '*' = false := by simpa using hcm
      rw [readItems_plain source hsb hclose hsemi hatc hcm',
        readItems_plain source hsb hclose hsemi hatc hcm',
        hitem c.skipBlank (by simp [hsb]) (by omega)]
      rcases hr : readItem source f c.skipBlank with e | ⟨i, d⟩
      · rfl
      · have hdl := (readers_advance source f).2.2.2.1 c.skipBlank _ _ hr
        exact hit o d _ (by omega)

theorem RulesStable.succ {f : Nat} (hat : AtRulesStable source f) (hbl : BlocksStable source f) :
    RulesStable source (f + 1) := by
  intro c hf
  conv_lhs => rw [readRule]
  conv_rhs => rw [readRule]
  split_ifs with hcm hpeek
  · rfl
  · obtain ⟨r, hr⟩ : ∃ r, c.rest = '@' :: r := by
      cases hc : c.rest with
      | nil => simp [peek, hc] at hpeek
      | cons y r => exact ⟨r, by simpa [peek, hc] using hpeek⟩
    exact hat c r hr (by omega)
  · dsimp only
    split
    · rfl
    · next d hd => rw [stable_block source hbl hd (by omega)]
    · rfl

/-- No reader's answer changes with one unit of fuel more, at any amount of fuel that is three
units per character left. -/
theorem readers_stable (f : Nat) :
    AtRulesStable source f ∧ BlocksStable source f ∧ EntriesStable source f ∧ ItemsStable source f ∧
      RulesStable source f := by
  induction f with
  | zero =>
    refine ⟨fun c r hc hf => ?_, fun c r hc hf => ?_, fun o c acc hf => by omega,
      fun c hc hf => ?_, fun c hf => by omega⟩
    · simp only [hc, List.length_cons] at hf
      omega
    · simp only [hc, List.length_cons] at hf
      omega
    · have := List.length_pos_of_ne_nil hc
      omega
  | succ f ih =>
    obtain ⟨hat, hbl, hit, hitem, -⟩ := ih
    exact ⟨AtRulesStable.succ source hbl, BlocksStable.succ source hit,
      EntriesStable.succ source hat hitem hit, ItemsStable.succ source hbl,
      RulesStable.succ source hat hbl⟩

/-- The top-level loop, with two units of fuel more than three per character left, gives the same
answer with one unit more. -/
theorem readRules_succ (f : Nat) :
    ∀ (c : Cursor) (acc : List Rule), 3 * c.rest.length + 2 ≤ f →
      readRules source (f + 1) c acc = readRules source f c acc := by
  induction f with
  | zero => intro c acc hf; omega
  | succ f ih =>
    intro c acc hf
    have hsk := length_skipBlank_le c
    conv_lhs => rw [readRules]
    conv_rhs => rw [readRules]
    cases hsb : c.skipBlank.rest with
    | nil => rfl
    | cons x rest =>
      have hblen := length_bump_cons hsb
      dsimp only
      split_ifs with hclose hsemi
      · rfl
      · exact ih _ acc (by omega)
      · rw [(readers_stable source f).2.2.2.2 c.skipBlank (by omega)]
        rcases hr : readRule source f c.skipBlank with e | ⟨r, d⟩
        · rfl
        · have hdl := (readers_advance source f).2.2.2.2 c.skipBlank _ _ hr
          exact ih d _ (by omega)

end Fuel

theorem length_rest_start (text : String) : (Cursor.start text).rest.length ≤ text.length := by
  rw [← String.length_toList]
  unfold Cursor.start
  split
  · next rest h => simp [h]
  · rfl

/-- The reader never runs out of fuel. `parse` gives what the readers give with any fuel from
three units per character of the text, plus two, on: so reading a text ends after at most that many
nested reader calls. Each scanning loop gives, with its own budget of a step per character left,
what it gives with any larger budget: a blank skip, a comment, a quoted string and a scan to a stop
each end within a step per character. -/
theorem parse_fuel_suffices (text filename : String) :
    (∀ fuel, 3 * text.length + 2 ≤ fuel →
      (readRules filename fuel (Cursor.start text) []).map (fun rules => ⟨filename, rules⟩) =
        parse text filename) ∧
    (∀ (c : Cursor) (n : Nat), c.rest.length ≤ n → Cursor.skipBlank.go n c = c.skipBlank) ∧
    (∀ (c : Cursor) (n : Nat), c.rest.length ≤ n → skipComment.go c n c.bump.bump = skipComment c) ∧
    (∀ (c : Cursor) (q : Char) (n : Nat), c.peek = some q → c.rest.length ≤ n →
      skipString.go c q n c.bump = skipString c) ∧
    (∀ (c : Cursor) (n : Nat), c.rest.length < n → scanUntil.go n c [] = scanUntil c) := by
  refine ⟨fun fuel hf => ?_, fun c n hn => ?_, fun c n hn => ?_, fun c q n hq hn => ?_,
    fun c n hn => ?_⟩
  · have hstart := length_rest_start text
    have hstable : ∀ m, 3 * (Cursor.start text).rest.length + 2 ≤ m →
        readRules filename m (Cursor.start text) [] =
          readRules filename (3 * (Cursor.start text).rest.length + 2) (Cursor.start text) [] :=
      fun m hm => eq_of_succ_eq (g := fun k => readRules filename k (Cursor.start text) [])
        (fun k hk => readRules_succ filename k _ [] hk) hm
    unfold parse
    dsimp only
    rw [hstable fuel (by omega), hstable (3 * (Cursor.start text).rest.length + 3) (by omega)]
  · unfold Cursor.skipBlank
    exact eq_of_succ_eq (g := fun k => Cursor.skipBlank.go k c) (fun k hk => skipBlank_go_succ k c hk) hn
  · have hlen := (follows_bump c).bump.length_le
    unfold skipComment
    exact eq_of_succ_eq (g := fun k => skipComment.go c k c.bump.bump)
      (fun k hk => skipComment_go_succ c k c.bump.bump (by omega)) hn
  · have hlen := (follows_bump c).length_le
    simp only [skipString, hq]
    exact eq_of_succ_eq (g := fun k => skipString.go c q k c.bump)
      (fun k hk => skipString_go_succ c q k c.bump (by omega)) hn
  · unfold scanUntil
    exact eq_of_succ_eq (g := fun k => scanUntil.go k c []) (fun k hk => scanUntil_go_succ k c [] hk) hn

/-- `.a{b:c}` reads the same with a hundred units of fuel, and a blank skip, a comment, a string
and a scan give with twenty steps what they give with their own budgets. -/
theorem parse_fuel_suffices_sample :
    (readRules "a.css" 100 (Cursor.start ".a\x7bb:c\x7d") []).map (fun rules => ⟨"a.css", rules⟩) =
      parse ".a\x7bb:c\x7d" "a.css" ∧
    Cursor.skipBlank.go 20 ⟨"  a".toList, 0, 0, 0⟩ = Cursor.skipBlank ⟨"  a".toList, 0, 0, 0⟩ ∧
    skipComment.go ⟨"/*x*/".toList, 0, 0, 0⟩ 20
        (Cursor.bump (Cursor.bump ⟨"/*x*/".toList, 0, 0, 0⟩)) =
      skipComment ⟨"/*x*/".toList, 0, 0, 0⟩ ∧
    skipString.go ⟨"\"x\"".toList, 0, 0, 0⟩ '"' 20 (Cursor.bump ⟨"\"x\"".toList, 0, 0, 0⟩) =
      skipString ⟨"\"x\"".toList, 0, 0, 0⟩ ∧
    scanUntil.go 20 (Cursor.start ".a\x7bb:c\x7d") [] = scanUntil (Cursor.start ".a\x7bb:c\x7d") := by
  obtain ⟨hparse, -, -, -, -⟩ := parse_fuel_suffices ".a\x7bb:c\x7d" "a.css"
  obtain ⟨-, hblank, hcomment, hstring, hscan⟩ := parse_fuel_suffices "" ""
  exact ⟨hparse 100 (by decide), hblank _ 20 (by decide), hcomment _ 20 (by decide),
    hstring _ '"' 20 (by decide) (by decide), hscan _ 20 (by decide)⟩

end CssBundle.Css
