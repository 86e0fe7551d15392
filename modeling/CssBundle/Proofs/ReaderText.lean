import Mathlib
import CssBundle.Proofs.Lexer

/-!
# The reader's small steps on a known text

The reading functions are built from a few steps: skipping blanks, taking an at-rule name,
scanning to a stop, skipping a comment, and splitting a declaration at its colon. This module
says what each step does when the text in front of the cursor is known: a trimmed text between
blanks trims back to itself (`trimChars_of_isTrimmed`), a scan over a text the machine stops
after stops right there (`scanUntil_of_stopsAfter`), a comment whose text holds no `*/` is
skipped to its end (`readComment_of_closed`), and `property: value` splits into the two
(`splitDeclaration_of_blank`).
-/

namespace CssBundle.Css

open Text Cursor Scanner

/-! ## Blanks and trimming -/

/-- Whether a text has no blank character at either end, as trimming leaves it. -/
def isTrimmed (T : List Char) : Bool :=
  T.head?.all (fun x => !isBlank x) && T.getLast?.all (fun x => !isBlank x)

theorem isTrimmed_iff {T : List Char} :
    isTrimmed T = true ↔
      (∀ x ∈ T.head?, isBlank x = false) ∧ ∀ x ∈ T.getLast?, isBlank x = false := by
  simp only [isTrimmed, Bool.and_eq_true, Option.all_eq_true, Bool.not_eq_true', Option.mem_def]

theorem isBlank_head_of_isTrimmed {x : Char} {T : List Char} (h : isTrimmed (x :: T) = true) :
    isBlank x = false := by
  simp only [isTrimmed, List.head?_cons, Option.all_some, Bool.and_eq_true, Bool.not_eq_true'] at h
  exact h.1

theorem dropBlank_blank_append {ws : List Char} (hws : ∀ x ∈ ws, isBlank x = true) (U : List Char) :
    dropBlank (ws ++ U) = dropBlank U := by
  induction ws with
  | nil => rfl
  | cons w ws ih =>
    rw [List.cons_append, dropBlank, List.dropWhile_cons_of_pos (hws w (by simp))]
    exact ih fun x hx => hws x (by simp [hx])

theorem dropBlank_of_head {T : List Char} (h : ∀ x ∈ T.head?, isBlank x = false) :
    dropBlank T = T := by
  cases T with
  | nil => rfl
  | cons t T => exact List.dropWhile_cons_of_neg (by simpa using h t rfl)

theorem dropBlank_append_cons {x : Char} (hx : isBlank x = false) (T U : List Char) :
    dropBlank (T ++ x :: U) = dropBlank T ++ x :: U := by
  induction T with
  | nil => exact dropBlank_of_head (by simpa using hx)
  | cons t T ih =>
    by_cases ht : isBlank t = true
    · rw [List.cons_append, dropBlank, List.dropWhile_cons_of_pos ht, dropBlank,
        List.dropWhile_cons_of_pos ht]
      exact ih
    · rw [List.cons_append, dropBlank_of_head (by simpa using ht), dropBlank_of_head (by simpa using ht)]
      rfl

theorem dropBlank_eq_nil {ws : List Char} (hws : ∀ x ∈ ws, isBlank x = true) : dropBlank ws = [] :=
  List.dropWhile_eq_nil_iff.mpr hws

theorem trimChars_of_isTrimmed {T : List Char} (hT : isTrimmed T = true) {l r : List Char}
    (hl : ∀ x ∈ l, isBlank x = true) (hr : ∀ x ∈ r, isBlank x = true) : trimChars (l ++ T ++ r) = T := by
  obtain ⟨hhead, hlast⟩ := isTrimmed_iff.mp hT
  rw [trimChars, List.append_assoc, dropBlank_blank_append hl]
  cases T with
  | nil => simp [dropBlank_eq_nil hr, dropBlankEnd]
  | cons t T =>
    rw [dropBlank_of_head (by simpa using hhead), dropBlankEnd, List.reverse_append,
      ← dropBlank, dropBlank_blank_append (by simpa using hr)]
    rw [dropBlank_of_head fun x hx => hlast x (by rwa [List.head?_reverse] at hx), List.reverse_reverse]

theorem rest_skipBlank (c : Cursor) : c.skipBlank.rest = dropBlank c.rest := by
  unfold skipBlank
  suffices ∀ n (d : Cursor), d.rest.length ≤ n → (skipBlank.go n d).rest = dropBlank d.rest from
    this _ c le_rfl
  intro n
  induction n with
  | zero =>
    intro d hd
    have hnil : d.rest = [] := List.eq_nil_of_length_eq_zero (Nat.le_zero.mp hd)
    simp [skipBlank.go, hnil, dropBlank]
  | succ n ih =>
    intro d hd
    unfold skipBlank.go
    split
    · next x xs hrest =>
      split
      · next hx =>
        rw [ih d.bump (by simp [rest_bump, hrest] at hd ⊢; omega), rest_bump, hrest]
        simp only [dropBlank, List.tail_cons, List.dropWhile_cons_of_pos hx]
      · next hx => rw [hrest, dropBlank_of_head (by simpa using hx)]
    · next hrest => rw [hrest]; rfl

theorem length_skipBlank_le (c : Cursor) : c.skipBlank.rest.length ≤ c.rest.length := by
  rw [rest_skipBlank]
  exact List.length_dropWhile_le _ _

theorem dropBlank_append_of_exists {L : List Char} (h : ∃ x ∈ L, isBlank x = false) (U : List Char) :
    dropBlank (L ++ U) = dropBlank L ++ U := by
  induction L with
  | nil => simp at h
  | cons y L ih =>
    by_cases hy : isBlank y = true
    · rw [List.cons_append, dropBlank, List.dropWhile_cons_of_pos hy, dropBlank,
        List.dropWhile_cons_of_pos hy]
      obtain ⟨x, hx, hxb⟩ := h
      rcases List.mem_cons.mp hx with rfl | hx
      · simp [hxb] at hy
      · exact ih ⟨x, hx, hxb⟩
    · rw [List.cons_append, dropBlank_of_head (by simpa using hy), dropBlank_of_head (by simpa using hy)]
      rfl

/-! ## Moving over a known text -/

theorem textTo_iterate_bump (c : Cursor) {k : Nat} (hk : k ≤ c.rest.length) :
    textTo c (bump^[k] c) = c.rest.take k := by
  rw [textTo, rest_iterate_bump, List.length_drop]
  congr 1
  omega

theorem foldl_range_bump (n : Nat) (c : Cursor) :
    (List.range n).foldl (fun d _ => d.bump) c = bump^[n] c := by
  induction n with
  | zero => rfl
  | succ n ih => rw [List.range_succ, List.foldl_append, ih, Function.iterate_succ_apply']; rfl

theorem takeWhile_isNameChar {N Y : List Char} (hN : ∀ x ∈ N, isNameChar x = true)
    (hY : ∀ y ∈ Y.head?, isNameChar y = false) : (N ++ Y).takeWhile isNameChar = N := by
  rw [List.takeWhile_append, if_pos (by rw [List.takeWhile_eq_self_iff.mpr hN])]
  cases Y with
  | nil => simp
  | cons y Y => simp [List.takeWhile_cons_of_neg (by simpa using hY y rfl)]

/-! ## Scanning to a known stop -/

/-- Whether the scanner, reading `T` from the plain state, reaches a state that stops at `x`. -/
def stopsAfter (T : List Char) (x : Char) : Bool :=
  ((Scanner.plain []).feed T).any fun s => (s.step x).isNone

theorem stopsAfter_iff {T : List Char} {x : Char} :
    stopsAfter T x = true ↔ ∃ s, (Scanner.plain []).feed T = some s ∧ s.step x = none := by
  unfold stopsAfter
  cases (Scanner.plain []).feed T <;> simp

theorem stopsAfter_blank_append {ws : List Char} (hws : ∀ x ∈ ws, isBlank x = true) (T : List Char)
    (x : Char) : stopsAfter (ws ++ T) x = stopsAfter T x := by
  rw [stopsAfter, feed_append, feed_plain_of_isBlank hws, Option.bind_some, stopsAfter]

theorem stopsAfter_dropBlank (T : List Char) (x : Char) : stopsAfter (dropBlank T) x = stopsAfter T x := by
  have hsplit : T.takeWhile isBlank ++ dropBlank T = T := List.takeWhile_append_dropWhile
  conv_rhs => rw [← hsplit]
  exact (stopsAfter_blank_append (fun y hy => List.mem_takeWhile_imp hy) _ x).symm

theorem scanUntil_of_stopsAfter {c : Cursor} {T more : List Char} {x : Char}
    (h : stopsAfter T x = true) (hc : c.rest = T ++ x :: more) :
    ∃ d, scanUntil c = .ok (some x, d) ∧ d.rest = x :: more ∧ textTo c d = T := by
  obtain ⟨s, hs, hx⟩ := stopsAfter_iff.mp h
  have hlen : T.length ≤ c.rest.length := by simp [hc]
  refine ⟨_, scanUntil_of_feed hc hs hx, ?_, ?_⟩
  · rw [rest_iterate_bump, hc, List.drop_left' rfl]
  · rw [textTo_iterate_bump c hlen, hc, List.take_left' rfl]

/-! ## Comments -/

/-- The comment loop, in a comment whose text to come holds no `*/`, stops right after the
`*/` that closes it. -/
theorem skipComment_go_closed (start : Cursor) {more : List Char} :
    ∀ {X : List Char} (n : Nat) (d : Cursor), ¬ ['*', '/'] <:+: X → d.rest = X ++ '*' :: '/' :: more →
      X.length < n → skipComment.go start n d = .ok (bump^[X.length + 2] d) := by
  intro X
  induction X with
  | nil =>
    intro n d _ hd hn
    obtain ⟨n, rfl⟩ : ∃ m, n = m + 1 := ⟨n - 1, by simp at hn; omega⟩
    simp [skipComment.go, startsWith2, hd]
  | cons x X ih =>
    intro n d hX hd hn
    obtain ⟨n, rfl⟩ : ∃ m, n = m + 1 := ⟨n - 1, by simp at hn; omega⟩
    have hnot : d.startsWith2 '*' '/' = false := by
      cases X with
      | nil => simp [startsWith2, hd]
      | cons y X =>
        have : ¬(x = '*' ∧ y = '/') := by
          rintro ⟨rfl, rfl⟩
          exact hX (List.prefix_iff_eq_take.mpr rfl).isInfix
        simpa [startsWith2, hd] using this
    rw [skipComment.go, if_neg (by simp [hnot]), hd, List.cons_append]
    dsimp only
    rw [ih n d.bump (fun h => hX (h.trans (List.suffix_cons x X).isInfix)) (by simp [rest_bump, hd])
      (by simp at hn; omega), List.length_cons, show X.length + 1 + 2 = X.length + 2 + 1 by omega,
      Function.iterate_add_apply]
    rfl

theorem readComment_of_closed (source : String) {c : Cursor} {text more : List Char}
    (ht : ¬ ['*', '/'] <:+: text) (hc : c.rest = '/' :: '*' :: text ++ '*' :: '/' :: more) :
    ∃ span d, readComment source c = .ok (.comment (String.ofList text) span, d) ∧ d.rest = more := by
  have hskip : skipComment c = .ok (bump^[text.length + 2] c.bump.bump) :=
    skipComment_go_closed c c.rest.length c.bump.bump ht
      (show c.bump.bump.rest = text ++ '*' :: '/' :: more by simp [rest_bump, hc]) (by simp [hc]; omega)
  have hd : bump^[text.length + 2] c.bump.bump = bump^[text.length + 4] c := by
    rw [show text.length + 4 = text.length + 2 + 2 from rfl, Function.iterate_add_apply]; rfl
  rw [hd] at hskip
  have hlen : text.length + 4 ≤ c.rest.length := by simp [hc]
  have hinner : textTo c (bump^[text.length + 4] c) = '/' :: '*' :: text ++ ['*', '/'] := by
    rw [textTo_iterate_bump c hlen, hc]
    simp only [List.take_succ_cons, List.cons_append, List.cons.injEq, true_and]
    rw [List.take_length_add_append]
    rfl
  have hrest : (bump^[text.length + 4] c).rest = more := by
    rw [rest_iterate_bump, hc]
    simp
  refine ⟨spanFrom source c.here (bump^[text.length + 4] c), _, ?_, hrest⟩
  rw [readComment, hskip]
  simp only [hinner]
  simp

/-! ## Declarations -/

theorem splitDeclaration_of_blank {P : List Char} (ws : List Char) {V : List Char} (hP : P ≠ [])
    (hPt : isTrimmed P = true) (hcolon : ':' ∉ P) (hws : ∀ x ∈ ws, isBlank x = true)
    (hV : isTrimmed V = true) :
    splitDeclaration (P ++ ':' :: (ws ++ V)) = some (String.ofList P, String.ofList V) := by
  have hP' : P.takeWhile (fun x => decide (x ≠ ':')) = P :=
    List.takeWhile_eq_self_iff.mpr fun x hx => by
      simp only [ne_eq, decide_eq_true_eq]
      rintro rfl
      exact hcolon hx
  have hbefore : (P ++ ':' :: (ws ++ V)).takeWhile (fun x => decide (x ≠ ':')) = P := by
    rw [List.takeWhile_append, hP', if_pos rfl]
    simp
  have htrimP : trimChars ([] ++ P ++ []) = P := trimChars_of_isTrimmed hPt (by simp) (by simp)
  have htrimV : trimChars (ws ++ V ++ []) = V := trimChars_of_isTrimmed hV hws (by simp)
  simp only [List.nil_append, List.append_nil] at htrimP htrimV
  have hdrop : (P ++ ':' :: (ws ++ V)).drop (P.length + 1) = ws ++ V := by simp
  simp only [splitDeclaration, hbefore, htrimP, hdrop, htrimV]
  rw [if_neg (show ¬P.length = (P ++ ':' :: (ws ++ V)).length by simp)]
  simp [hP]

theorem splitDeclaration_of_trimmed {P V : List Char} (hP : P ≠ []) (hPt : isTrimmed P = true)
    (hcolon : ':' ∉ P) (hV : isTrimmed V = true) :
    splitDeclaration (P ++ ':' :: ' ' :: V) = some (String.ofList P, String.ofList V) :=
  splitDeclaration_of_blank [' '] hP hPt hcolon (by simp [isBlank_space]) hV

/-! ## What a step has read -/

theorem dropBlankEnd_append (X : List Char) :
    dropBlankEnd X ++ (X.reverse.takeWhile isBlank).reverse = X := by
  rw [dropBlankEnd, ← List.reverse_append, List.takeWhile_append_dropWhile, List.reverse_reverse]

theorem isBlank_head_dropBlank {X : List Char} {x : Char} (h : (dropBlank X).head? = some x) :
    isBlank x = false := by
  cases hX : dropBlank X with
  | nil => simp [hX] at h
  | cons y rest =>
    rw [hX, List.head?_cons, Option.some.injEq] at h
    exact h ▸ dropBlank_head hX

theorem isTrimmed_trimChars (T : List Char) : isTrimmed (trimChars T) = true := by
  refine isTrimmed_iff.mpr ⟨?_, ?_⟩
  · intro x hx
    have hsplit := dropBlankEnd_append (dropBlank T)
    rw [← trimChars] at hsplit
    refine isBlank_head_dropBlank (X := T) ?_
    rw [← hsplit, List.head?_append, hx]
    rfl
  · intro x hx
    rw [← List.head?_reverse, trimChars, dropBlankEnd, List.reverse_reverse] at hx
    exact isBlank_head_dropBlank hx

theorem trimChars_decomp (T : List Char) :
    ∃ l r, (∀ x ∈ l, isBlank x = true) ∧ (∀ x ∈ r, isBlank x = true) ∧ T = l ++ trimChars T ++ r := by
  refine ⟨T.takeWhile isBlank, ((dropBlank T).reverse.takeWhile isBlank).reverse,
    fun x hx => List.mem_takeWhile_imp hx,
    fun x hx => List.mem_takeWhile_imp (List.mem_reverse.mp hx), ?_⟩
  rw [trimChars, List.append_assoc, dropBlankEnd_append]
  exact List.takeWhile_append_dropWhile.symm

theorem trimChars_prefixOf {T : List Char} (h : ∀ x ∈ T.head?, isBlank x = false) :
    trimChars T <+: T := by
  rw [trimChars, dropBlank_of_head h]
  exact ⟨_, dropBlankEnd_append T⟩

theorem skipComment_go_spec (start : Cursor) :
    ∀ (n : Nat) (d e : Cursor), skipComment.go start n d = .ok e →
      ∃ X more, d.rest = X ++ '*' :: '/' :: more ∧ ¬ ['*', '/'] <:+: X ∧ e = bump^[X.length + 2] d := by
  intro n
  induction n with
  | zero => intro d e h; simp [skipComment.go] at h
  | succ n ih =>
    intro d e h
    rw [skipComment.go] at h
    split at h
    · next hstart =>
      cases h
      obtain ⟨more, hmore⟩ := rest_of_startsWith2 hstart
      exact ⟨[], more, hmore, by simp, rfl⟩
    · next hstart =>
      split at h
      · cases h
      · next y ys hrest =>
        obtain ⟨X, more, hX, hinf, rfl⟩ := ih d.bump e h
        rw [rest_bump, hrest, List.tail_cons] at hX
        refine ⟨y :: X, more, by rw [hrest, hX]; rfl, ?_, ?_⟩
        · intro hinf'
          rcases List.infix_cons_iff.mp hinf' with hpre | hinf''
          · obtain ⟨hy, X', rfl⟩ : '*' = y ∧ ['/'] <+: X := by simpa using hpre
            subst hy
            simp [startsWith2, hrest, hX] at hstart
          · exact hinf hinf''
        · rw [List.length_cons, show X.length + 1 + 2 = X.length + 2 + 1 by omega]
          exact (Function.iterate_succ_apply bump (X.length + 2) d).symm

theorem comment_of_readComment (source : String) {c d : Cursor} {r : Rule}
    (hc : c.startsWith2 '/' '*' = true) (h : readComment source c = .ok (r, d)) :
    ∃ text span, r = .comment text span ∧ ¬ ['*', '/'] <:+: text.toList := by
  unfold readComment at h
  split at h
  · cases h
  · next e he =>
    obtain ⟨X, more, hX, hinf, rfl⟩ := skipComment_go_spec c _ _ _ he
    obtain ⟨R, hR⟩ := rest_of_startsWith2 hc
    rw [rest_bump, rest_bump, hR] at hX
    simp only [List.tail_cons] at hX
    have hlen : X.length + 2 + 2 ≤ c.rest.length := by simp [hR, hX]
    have hinner : textTo c (bump^[X.length + 2] c.bump.bump) = '/' :: '*' :: X ++ ['*', '/'] := by
      rw [show c.bump.bump = bump^[2] c from rfl, ← Function.iterate_add_apply,
        textTo_iterate_bump c hlen, hR, hX]
      simp only [List.take_succ_cons, List.cons_append, List.cons.injEq, true_and]
      rw [List.take_length_add_append]
      rfl
    have htext : ((textTo c (bump^[X.length + 2] c.bump.bump)).drop 2).take
        ((textTo c (bump^[X.length + 2] c.bump.bump)).length - 4) = X := by
      rw [hinner]
      simp
    cases h
    refine ⟨_, _, rfl, ?_⟩
    rw [htext, String.toList_ofList]
    exact hinf

/-- A scan reads a text the machine reads to a settled state, at the front of the text left:
up to the stop, or to the end. -/
theorem scanUntil_settled {c d : Cursor} {stop : Option Char} (h : scanUntil c = .ok (stop, d)) :
    ∃ s, (Scanner.plain []).feed (textTo c d) = some s ∧ s.settled = true ∧ textTo c d <+: c.rest := by
  cases stop with
  | none =>
    obtain ⟨s, hs, hset, rfl⟩ := settled_of_scanUntil h
    rw [textTo_iterate_bump c le_rfl, List.take_length]
    exact ⟨s, hs, hset, List.prefix_refl _⟩
  | some x =>
    obtain ⟨T, rest, s, hc, rfl, hT, hx⟩ := feed_of_scanUntil h
    have hlen : T.length ≤ c.rest.length := by simp [hc]
    rw [textTo_iterate_bump c hlen, hc, List.take_left' rfl]
    exact ⟨s, hT, settled_of_step_eq_none hx, List.prefix_append _ _⟩

/-- A declaration that splits has a colon, a property before it with no colon, and a value
after it; both are trimmed, and the property is not empty. -/
theorem splitDeclaration_spec {T : List Char} {p v : String} (h : splitDeclaration T = some (p, v)) :
    ∃ before after, T = before ++ ':' :: after ∧ ':' ∉ before ∧ p.toList = trimChars before ∧
      v.toList = trimChars after ∧ p.toList ≠ [] := by
  unfold splitDeclaration at h
  simp only at h
  split at h
  · cases h
  · next hlen =>
    split at h
    · cases h
    · next hp =>
      cases h
      set before := T.takeWhile fun x => decide (x ≠ ':')
      have hsplit : before ++ T.dropWhile (fun x => decide (x ≠ ':')) = T := List.takeWhile_append_dropWhile
      have hne : T.dropWhile (fun x => decide (x ≠ ':')) ≠ [] := by
        intro hnil
        rw [hnil, List.append_nil] at hsplit
        exact hlen (by rw [hsplit])
      obtain ⟨y, after, hdrop⟩ := List.exists_cons_of_ne_nil hne
      have hy : y = ':' := by
        have := List.head_dropWhile_not (fun x => decide (x ≠ ':')) hne
        simp only [hdrop, List.head_cons, decide_eq_false_iff_not, not_not] at this
        exact this
      subst hy
      have hT : T = before ++ ':' :: after := by rw [← hdrop, hsplit]
      refine ⟨before, after, hT, fun hmem => ?_, by simp, ?_, by simpa using hp⟩
      · simpa using List.mem_takeWhile_imp hmem
      · rw [String.toList_ofList]
        congr 1
        conv_lhs => rw [hT]
        simp


end CssBundle.Css
