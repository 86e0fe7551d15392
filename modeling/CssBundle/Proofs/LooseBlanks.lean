import Mathlib
import CssBundle.Proofs.BlankCollapse
import CssBundle.Proofs.TopLevelSplit

/-!
# Where blanks stand in a collapsed text

The compressed printer's `collapseBlanks` reads a text with the same notion of quotes and
escapes as the top-level split: a backslash takes the next character with it, and a quote runs to
the same quote. A blank that the scan of a text meets outside quotes and escapes is *loose*
(`looseBlank`). The collapser copies quotes and escapes as they are, and writes each run of
loose blanks as one space, or as nothing next to a tight character.

Main statement: `collapseBlanks_normalForm`. Collapsing twice is collapsing once, and the
collapsed text has no blank at either end. In it every loose blank is followed by a character
that is neither blank nor tight, and follows one that is not tight (`BlanksSpaced`). A blank
inside quotes or after a backslash is not loose: in `a\  b` the escaped blank stays, with the
space that stands for the run of blanks after it. Apart from loose blanks, the collapsed text has
the characters of the trimmed text, in order (`firmChars`).

Two invariants carry the proof, each stated once for the collapser's step and then for a whole
text. `Spaced`: the scan of the text written so far is in the collapser's quote and escape, since
the collapser writes only what that scan reads in the same state, and the space it writes stands
outside quotes and escapes, where a blank changes nothing. `Keeps`: the scan of the text read so
far is in that quote and escape too, so what is read and what is written differ only in loose
blanks.
-/

namespace CssBundle.Css

open Text ScanState

/-! ## Loose blanks -/

def looseBlank (before : List Char) (c : Char) : Bool :=
  isBlank c && (({} : ScanState).run before).bare

/-- Outside quotes and escapes, a blank is followed by a character that is neither blank nor
tight, and follows a character that is not tight. -/
def BlanksSpaced (tight W : List Char) : Prop :=
  ∀ pre a b post, W = pre ++ a :: b :: post →
    (looseBlank pre a = true → isBlank b = false ∧ b ∉ tight) ∧
      (looseBlank (pre ++ [a]) b = true → a ∉ tight)

theorem looseBlank_of_isBlank_eq_false {c : Char} (hc : isBlank c = false) (before : List Char) :
    looseBlank before c = false := by
  simp [looseBlank, hc]

theorem BlanksSpaced.snoc {tight W : List Char} {x : Char} (h : BlanksSpaced tight W)
    (hx : ∀ pre a, W = pre ++ [a] →
      (looseBlank pre a = true → isBlank x = false ∧ x ∉ tight) ∧
        (looseBlank W x = true → a ∉ tight)) :
    BlanksSpaced tight (W ++ [x]) := by
  intro pre a b post hW
  rcases List.eq_nil_or_concat post with rfl | ⟨post', z, rfl⟩
  · have hW' : (pre ++ [a]) ++ [b] = W ++ [x] := by simpa using hW.symm
    obtain ⟨hpre, hb⟩ := List.append_inj' hW' rfl
    obtain rfl : b = x := List.singleton_inj.mp hb
    have := hx pre a hpre.symm
    rwa [← hpre] at this
  · have hW' : (pre ++ a :: b :: post') ++ [z] = W ++ [x] := by simpa using hW.symm
    exact h pre a b post' (List.append_inj' hW' rfl).1.symm

/-! ## The scan and the collapser agree on quotes and escapes -/

theorem next_of_isBlank {s : ScanState} (hs : s.bare = true) {x : Char} (hx : isBlank x = true) :
    s.next x = s := by
  obtain ⟨depth, quote, escaped⟩ := s
  have hq : quote = none ∧ escaped = false := by simpa [bare] using hs
  obtain ⟨rfl, rfl⟩ := hq
  have hne : x ≠ '\\' ∧ x ≠ '"' ∧ x ≠ '\'' ∧ x ≠ '(' ∧ x ≠ '[' ∧ x ≠ ')' ∧ x ≠ ']' := by
    refine ⟨?_, ?_, ?_, ?_, ?_, ?_, ?_⟩ <;> rintro rfl <;> simp [isBlank] at hx
  simp [next, hne]

/-- A scan and the collapser are in the same quote and the same escape. -/
@[mk_iff]
structure Agrees (s : ScanState) (st : CollapseState) : Prop where
  quote : s.quote = st.quote
  escaped : s.escaped = st.escaped

section Agrees

variable {s : ScanState} {st : CollapseState}

theorem Agrees.bare_eq (h : Agrees s st) : s.bare = !(st.quote.isSome || st.escaped) := by
  rw [bare, h.quote, h.escaped]
  cases st.quote <;> simp

/-- A blank read after `W` is loose exactly when the collapser, in the scan's quote and escape,
sets it aside. -/
theorem Agrees.looseBlank_eq {W : List Char} (h : Agrees (({} : ScanState).run W) st) (c : Char) :
    looseBlank W c = (isBlank c && !(st.quote.isSome || st.escaped)) := by
  rw [looseBlank, h.bare_eq]

/-- Every character moves the scan as it moves the collapser: inside quotes or after a
backslash both take it by the same rules, and outside them a blank moves neither. -/
theorem Agrees.next (h : Agrees s st) (tight out : List Char) (c : Char) :
    Agrees (s.next c) (collapseStep tight (st, out) c).1 := by
  by_cases hcopy : (st.quote.isSome || st.escaped) = true
  · obtain ⟨depth, quote, escaped⟩ := s
    obtain ⟨quote', escaped', pending⟩ := st
    obtain ⟨rfl, rfl⟩ : quote = quote' ∧ escaped = escaped' := ⟨h.quote, h.escaped⟩
    dsimp only [collapseStep]
    rw [if_pos hcopy]
    cases escaped
    · cases quote with
      | none => simp at hcopy
      | some q => simp only [next]; split_ifs <;> simp_all [agrees_iff]
    · simp [next, agrees_iff]
  · have hplain : (st.quote.isSome || st.escaped) = false := by simpa using hcopy
    cases hbl : isBlank c
    · obtain ⟨depth, quote, escaped⟩ := s
      obtain ⟨quote', escaped', pending⟩ := st
      obtain ⟨rfl, rfl⟩ : quote = quote' ∧ escaped = escaped' := ⟨h.quote, h.escaped⟩
      obtain ⟨rfl, rfl⟩ : quote = none ∧ escaped = false := by simpa using hplain
      dsimp only [collapseStep]
      rw [if_neg (by simp), if_neg (by simp [hbl])]
      simp only [next]
      split_ifs <;> simp_all [agrees_iff]
    · rw [collapseStep_blank _ _ _ hplain hbl, next_of_isBlank (by simp [h.bare_eq, hplain]) hbl]
      exact ⟨h.quote, h.escaped⟩

end Agrees

/-! ## What the collapser keeps true of what it has written -/

/-- What the collapser keeps true of the text it has written so far, which is `p.2` reversed. -/
structure Spaced (tight : List Char) (p : CollapseState × List Char) : Prop where
  /-- The scan of the written text is in the collapser's quote and escape. -/
  agrees : Agrees (({} : ScanState).run p.2.reverse) p.1
  spaced : BlanksSpaced tight p.2.reverse
  /-- The character written last is no loose blank. -/
  last : ∀ pre a, p.2.reverse = pre ++ [a] → looseBlank pre a = false

theorem spaced_start (tight : List Char) : Spaced tight ({}, []) :=
  ⟨⟨rfl, rfl⟩, fun pre a b post h => by simp at h, fun pre a h => by simp at h⟩

theorem run_reverse_cons (s : ScanState) (c : Char) (out : List Char) :
    s.run (c :: out).reverse = (s.run out.reverse).next c := by
  rw [List.reverse_cons, run_append]
  rfl

theorem eq_of_append_singleton {W pre : List Char} {x a : Char} (h : W ++ [x] = pre ++ [a]) :
    pre = W ∧ a = x := by
  obtain ⟨h₁, h₂⟩ := List.append_inj' h rfl
  exact ⟨h₁.symm, (List.singleton_inj.mp h₂).symm⟩

theorem BlanksSpaced.snoc_firm {tight W : List Char} {x : Char} (h : BlanksSpaced tight W)
    (hlast : ∀ pre a, W = pre ++ [a] → looseBlank pre a = false) (hx : looseBlank W x = false) :
    BlanksSpaced tight (W ++ [x]) :=
  h.snoc fun pre a hW =>
    ⟨fun ha => by simp [hlast pre a hW] at ha, fun hx' => by simp [hx] at hx'⟩

/-- The last character written before a space is not tight when the collapser saw no tight
character last. -/
theorem not_mem_of_afterTight {tight out : List Char} (hat : (out.head?.any tight.contains) = false)
    {pre : List Char} {a : Char} (hW : out.reverse = pre ++ [a]) : a ∉ tight := by
  have hout : out = a :: pre.reverse := by
    rw [← List.reverse_reverse out, hW]
    simp
  simpa [hout] using hat

section Steps

variable {tight : List Char} {st : CollapseState} {out : List Char} {c : Char}

/-- Inside quotes or after a backslash, a character is copied, and the scan of the written text
is inside them too. -/
theorem Spaced.copy (h : Spaced tight (st, out)) (hcopy : (st.quote.isSome || st.escaped) = true) :
    Spaced tight (collapseStep tight (st, out) c) := by
  have hagrees := h.agrees.next tight out c
  obtain ⟨st', hstep, -, -⟩ := collapseStep_copy tight out c hcopy
  rw [hstep] at hagrees ⊢
  have hloose : looseBlank out.reverse c = false := by
    simp [h.agrees.looseBlank_eq, hcopy]
  refine ⟨by rwa [run_reverse_cons], ?_, ?_⟩
  · rw [List.reverse_cons]
    exact h.spaced.snoc_firm h.last hloose
  · intro pre a hW
    rw [List.reverse_cons] at hW
    obtain ⟨rfl, rfl⟩ := eq_of_append_singleton hW
    exact hloose

/-- Outside quotes and escapes, a character that is not blank is written, after a space when
blanks wait and neither it nor the character before it is tight. -/
theorem Spaced.char (h : Spaced tight (st, out)) (hplain : (st.quote.isSome || st.escaped) = false)
    (hbl : isBlank c = false) : Spaced tight (collapseStep tight (st, out) c) := by
  have hagrees := h.agrees.next tight out c
  obtain ⟨st', hstep, -, -⟩ := collapseStep_char tight out c hplain hbl
  rw [hstep] at hagrees ⊢
  have hfirm : ∀ W, looseBlank W c = false := fun W => looseBlank_of_isBlank_eq_false hbl W
  have hlast : ∀ W pre a, W ++ [c] = pre ++ [a] → looseBlank pre a = false := by
    intro W pre a hW
    obtain ⟨rfl, rfl⟩ := eq_of_append_singleton hW
    exact hfirm _
  split
  · next hsp =>
    simp only [Bool.and_eq_true, Bool.not_eq_true'] at hsp
    obtain ⟨⟨-, hat⟩, hct⟩ := hsp
    have hspace : (({} : ScanState).run out.reverse).next ' ' = ({} : ScanState).run out.reverse :=
      next_of_isBlank (by simp [h.agrees.bare_eq, hplain]) isBlank_space
    have hct' : c ∉ tight := by simpa using hct
    refine ⟨by rwa [run_reverse_cons, run_reverse_cons, hspace], ?_, ?_⟩
    · rw [List.reverse_cons, List.reverse_cons]
      have hsp : BlanksSpaced tight (out.reverse ++ [' ']) := h.spaced.snoc fun pre a hW =>
        ⟨fun ha => by simp [h.last pre a hW] at ha, fun _ => not_mem_of_afterTight hat hW⟩
      exact hsp.snoc fun pre a hW => by
        obtain ⟨rfl, rfl⟩ := eq_of_append_singleton hW
        exact ⟨fun _ => ⟨hbl, hct'⟩, fun hx => by simp [hfirm] at hx⟩
    · rw [List.reverse_cons]
      exact hlast _
  · refine ⟨by rwa [run_reverse_cons], ?_, ?_⟩
    · rw [List.reverse_cons]
      exact h.spaced.snoc_firm h.last (hfirm _)
    · rw [List.reverse_cons]
      exact hlast _

theorem Spaced.blank (h : Spaced tight (st, out)) (hplain : (st.quote.isSome || st.escaped) = false)
    (hbl : isBlank c = true) : Spaced tight (collapseStep tight (st, out) c) := by
  rw [collapseStep_blank _ _ _ hplain hbl]
  exact ⟨⟨h.agrees.quote, h.agrees.escaped⟩, h.spaced, h.last⟩

end Steps

theorem Spaced.step {tight : List Char} {p : CollapseState × List Char} (h : Spaced tight p)
    (c : Char) : Spaced tight (collapseStep tight p c) := by
  obtain ⟨st, out⟩ := p
  by_cases hcopy : (st.quote.isSome || st.escaped) = true
  · exact h.copy hcopy
  · have hplain : (st.quote.isSome || st.escaped) = false := by simpa using hcopy
    cases hbl : isBlank c
    · exact h.char hplain hbl
    · exact h.blank hplain hbl

theorem Spaced.foldl {tight : List Char} (cs : List Char) {p : CollapseState × List Char}
    (h : Spaced tight p) : Spaced tight (cs.foldl (collapseStep tight) p) := by
  induction cs generalizing p with
  | nil => exact h
  | cons c cs ih => exact ih (h.step c)

theorem blanksSpaced_collapseChars (tight V : List Char) :
    BlanksSpaced tight (collapseChars tight V {} []) := by
  rw [collapseChars_eq_foldl]
  exact (Spaced.foldl V (spaced_start tight)).spaced

/-! ## What the collapser keeps -/

/-- The characters of `cs`, read from the state `s`, that are not blanks outside quotes and
escapes. -/
def firmFrom : ScanState → List Char → List Char
  | _, [] => []
  | s, c :: cs =>
    if isBlank c && s.bare then firmFrom (s.next c) cs else c :: firmFrom (s.next c) cs

def firmChars (cs : List Char) : List Char := firmFrom {} cs

theorem firmFrom_append_singleton (s : ScanState) (W : List Char) (x : Char) :
    firmFrom s (W ++ [x]) = firmFrom s W ++ if isBlank x && (s.run W).bare then [] else [x] := by
  induction W generalizing s with
  | nil => by_cases h : (isBlank x && s.bare) = true <;> simp [firmFrom, h]
  | cons c W ih =>
    simp only [List.cons_append, firmFrom, ih, run_cons]
    split <;> simp

theorem firmChars_append_singleton (W : List Char) (x : Char) :
    firmChars (W ++ [x]) = firmChars W ++ if looseBlank W x then [] else [x] :=
  firmFrom_append_singleton {} W x

/-- Having read `V`, the collapser stands at `p`: the scan of `V` is in its quote and escape, and
what it has written has the characters of `V` that are not loose blanks, and no others. -/
structure Keeps (V : List Char) (p : CollapseState × List Char) : Prop where
  agrees : Agrees (({} : ScanState).run V) p.1
  firm : firmChars p.2.reverse = firmChars V

theorem keeps_start : Keeps [] ({}, []) := ⟨⟨rfl, rfl⟩, rfl⟩

section Steps

variable {tight V : List Char} {st : CollapseState} {out : List Char} {c : Char}

theorem Keeps.firm_copy (hs : Spaced tight (st, out)) (h : Keeps V (st, out))
    (hcopy : (st.quote.isSome || st.escaped) = true) :
    firmChars (collapseStep tight (st, out) c).2.reverse = firmChars (V ++ [c]) := by
  obtain ⟨st', hstep, -, -⟩ := collapseStep_copy tight out c hcopy
  rw [hstep, List.reverse_cons, firmChars_append_singleton, firmChars_append_singleton,
    hs.agrees.looseBlank_eq, h.agrees.looseBlank_eq, h.firm]

theorem Keeps.firm_blank (h : Keeps V (st, out)) (hplain : (st.quote.isSome || st.escaped) = false)
    (hbl : isBlank c = true) :
    firmChars (collapseStep tight (st, out) c).2.reverse = firmChars (V ++ [c]) := by
  rw [collapseStep_blank _ _ _ hplain hbl, firmChars_append_singleton, h.agrees.looseBlank_eq,
    h.firm]
  simp [hbl, hplain]

/-- Outside them, a character that is not blank is written, perhaps after a space, which is a
loose blank of the text written. -/
theorem Keeps.firm_char (hs : Spaced tight (st, out)) (h : Keeps V (st, out))
    (hplain : (st.quote.isSome || st.escaped) = false) (hbl : isBlank c = false) :
    firmChars (collapseStep tight (st, out) c).2.reverse = firmChars (V ++ [c]) := by
  obtain ⟨st', hstep, -, -⟩ := collapseStep_char tight out c hplain hbl
  have hfirm : ∀ W, firmChars (W ++ [c]) = firmChars W ++ [c] := fun W => by
    rw [firmChars_append_singleton, looseBlank_of_isBlank_eq_false hbl, if_neg (by simp)]
  rw [hstep, hfirm, ← h.firm]
  split
  · rw [List.reverse_cons, List.reverse_cons, hfirm, firmChars_append_singleton,
      hs.agrees.looseBlank_eq]
    simp [isBlank_space, hplain]
  · rw [List.reverse_cons, hfirm]

end Steps

theorem Keeps.step {tight V : List Char} {p : CollapseState × List Char} (hs : Spaced tight p)
    (h : Keeps V p) (c : Char) : Keeps (V ++ [c]) (collapseStep tight p c) := by
  obtain ⟨st, out⟩ := p
  refine ⟨by rw [run_append]; exact h.agrees.next tight out c, ?_⟩
  by_cases hcopy : (st.quote.isSome || st.escaped) = true
  · exact h.firm_copy hs hcopy
  · have hplain : (st.quote.isSome || st.escaped) = false := by simpa using hcopy
    cases hbl : isBlank c
    · exact h.firm_char hs hplain hbl
    · exact h.firm_blank hplain hbl

theorem Keeps.foldl {tight V : List Char} (cs : List Char) {p : CollapseState × List Char}
    (hs : Spaced tight p) (h : Keeps V p) : Keeps (V ++ cs) (cs.foldl (collapseStep tight) p) := by
  induction cs generalizing V p with
  | nil => simpa using h
  | cons c cs ih =>
    have := ih (hs.step c) (h.step hs c)
    rwa [List.append_assoc, List.singleton_append] at this

theorem firmChars_collapseChars (tight V : List Char) :
    firmChars (collapseChars tight V {} []) = firmChars V := by
  rw [collapseChars_eq_foldl]
  exact (Keeps.foldl V (spaced_start tight) keeps_start).firm

/-! ## Collapsed texts -/

/-- Collapsing the blanks of a text gives a normal form. Collapsing it again changes nothing; it
has no blank at either end; outside quotes and escapes no two blanks stand side by side, and no
blank stands next to a tight character; and it keeps every character of the trimmed text that is
not a blank outside quotes and escapes, and adds none. -/
theorem collapseBlanks_normalForm (text : String) (tight : List Char) :
    collapseBlanks (collapseBlanks text tight) tight = collapseBlanks text tight ∧
      (∀ c ∈ (collapseBlanks text tight).toList.head?, isBlank c = false) ∧
      (∀ c ∈ (collapseBlanks text tight).toList.getLast?, isBlank c = false) ∧
      BlanksSpaced tight (collapseBlanks text tight).toList ∧
      firmChars (collapseBlanks text tight).toList = firmChars (trim text).toList := by
  obtain ⟨hhead, hlast⟩ := isTrimmed_iff.mp (isTrimmed_collapseBlanks text tight)
  refine ⟨collapseBlanks_collapseBlanks text tight, hhead, hlast, ?_, ?_⟩
  · rw [toList_collapseBlanks]
    exact blanksSpaced_collapseChars tight _
  · rw [toList_collapseBlanks, firmChars_collapseChars, trim, String.toList_ofList]

/-- The escaped blank after the backslash is not loose, so it may stand next to the space that
stands for the blanks after it. -/
example : collapseBlanks " a\\   b ,  c " [','] = "a\\  b,c" := by
  decide

end CssBundle.Css
