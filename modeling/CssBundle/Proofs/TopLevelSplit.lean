import Mathlib
import CssBundle.Css.Separate

/-!
# Splitting at top-level separators

`splitTopLevel` reads a text once, left to right, keeping a `ScanState`: the bracket depth, the
open quote and a pending escape. How a character moves that state does not depend on the
separator (`ScanState.next`); the separator only decides where the text is cut. The text is cut
at a character exactly when the character is the separator, the state before it is at the top
level (depth zero, no open quote, no pending escape), and the separator is none of the characters
the scan gives a role of its own: the backslash, the two quotes and the four brackets
(`step_eq`). Which of those roles a character plays is decided before the separator is looked
at, so such a separator never cuts.

Main statement: `splitTopLevel_separators`. Joined with the separator, the parts give the text
back; a structural separator leaves the text whole; any other separator gives one part more than
it has top-level occurrences, and no top-level occurrence stands inside a part.
-/

namespace CssBundle.Css

/-- The characters the scan gives a role of its own: the backslash, the quotes and the brackets. -/
def isStructural (c : Char) : Bool :=
  c == '\\' || c == '"' || c == '\'' || c == '(' || c == '[' || c == ')' || c == ']'

namespace ScanState

/-- How one character moves the scan. The character after a backslash is taken as it is, and a
backslash escapes the next character, inside quotes too. Inside quotes only the closing quote
counts; outside them a quote opens, `(` and `[` go one level in, and `)` and `]` one level out,
never past the top. -/
def next (s : ScanState) (c : Char) : ScanState :=
  if s.escaped then { s with escaped := false }
  else if c = '\\' then { s with escaped := true }
  else match s.quote with
    | some q => if c = q then { s with quote := none } else s
    | none =>
      if c = '"' ∨ c = '\'' then { s with quote := some c }
      else if c = '(' ∨ c = '[' then { s with depth := s.depth + 1 }
      else if c = ')' ∨ c = ']' then { s with depth := s.depth - 1 }
      else s

def run (s : ScanState) (cs : List Char) : ScanState := cs.foldl next s

def bare (s : ScanState) : Bool := s.quote.isNone && !s.escaped

/-- At the top level: outside brackets, quotes and escapes. -/
def atTop (s : ScanState) : Bool := s.depth == 0 && s.bare

@[simp] theorem run_nil (s : ScanState) : s.run [] = s := rfl

@[simp] theorem run_cons (s : ScanState) (c : Char) (cs : List Char) :
    s.run (c :: cs) = (s.next c).run cs := rfl

theorem run_append (s : ScanState) (cs ds : List Char) : s.run (cs ++ ds) = (s.run cs).run ds :=
  List.foldl_append

/-- A step of the split moves the scan as `next` does, and cuts at a top-level occurrence of a
separator that has no role of its own in the scan. -/
theorem step_eq (sep : Char) (s : ScanState) (c : Char) :
    s.step sep c = (s.next c, c == sep && s.atTop && !isStructural sep) := by
  obtain ⟨depth, quote, escaped⟩ := s
  cases escaped
  · by_cases hb : c = '\\'
    · subst hb
      by_cases hs : sep = '\\'
      · simp [step, next, isStructural, hs]
      · simp [step, next, Ne.symm hs]
    · cases quote with
      | some q =>
        simp only [step, next, hb, atTop, bare]
        split_ifs <;> simp
      | none =>
        simp only [step, next, hb, atTop, bare, isStructural]
        split_ifs <;> simp only [Prod.mk.injEq, true_and] <;> grind
  · simp [step, next, atTop, bare]

end ScanState

open ScanState

/-- `c`, read after `before` from the state `s`, is a top-level occurrence of `sep`. -/
def isTopSep (sep : Char) (s : ScanState) (before : List Char) (c : Char) : Bool :=
  c == sep && (s.run before).atTop

/-- The number of top-level occurrences of `sep` in `cs`, read from the state `s`: the places
where `sep` stands and the characters before it leave the scan at the top level. -/
def topSepCount (sep : Char) (s : ScanState) (cs : List Char) : Nat :=
  (List.range cs.length).countP fun i => cs[i]?.any (isTopSep sep s (cs.take i))

theorem isTopSep_cons (sep : Char) (s : ScanState) (d : Char) (before : List Char) (c : Char) :
    isTopSep sep s (d :: before) c = isTopSep sep (s.next d) before c := rfl

theorem topSepCount_cons (sep : Char) (s : ScanState) (c : Char) (cs : List Char) :
    topSepCount sep s (c :: cs) =
      topSepCount sep (s.next c) cs + if c == sep && s.atTop then 1 else 0 := by
  simp only [topSepCount, List.length_cons, List.range_succ_eq_map, List.countP_cons,
    List.countP_map]
  congr 1

/-! ## The parts as a recursion on the text -/

section Parts

variable (sep : Char)

/-- The split with a part begun and parts finished is the split with none, with the begun part
in front of its first part. -/
theorem splitChars_acc (cs : List Char) (s : ScanState) (cur : List Char)
    (parts : List (List Char)) :
    splitChars sep cs s cur parts =
      parts.reverse ++ (splitChars sep cs s [] []).modifyHead (cur.reverse ++ ·) := by
  induction cs generalizing s cur parts with
  | nil => simp [splitChars]
  | cons c cs ih =>
    simp only [splitChars, step_eq]
    split
    · rw [ih, ih _ _ [[].reverse]]
      simp
    · rw [ih, ih _ [c] []]
      simp [List.modifyHead_modifyHead, Function.comp_def]

theorem splitChars_cons (c : Char) (cs : List Char) (s : ScanState) :
    splitChars sep (c :: cs) s [] [] =
      if c == sep && s.atTop && !isStructural sep then [] :: splitChars sep cs (s.next c) [] []
      else (splitChars sep cs (s.next c) [] []).modifyHead (c :: ·) := by
  simp only [splitChars, step_eq]
  split
  · rw [splitChars_acc _ _ _ _ [[].reverse]]
    simp only [List.reverse_nil, List.nil_append, List.reverse_cons, List.singleton_append]
    exact congrArg _ (congrFun List.modifyHead_id _)
  · rw [splitChars_acc _ _ _ [c] []]
    simp

theorem exists_splitChars_eq_cons (cs : List Char) (s : ScanState) :
    ∃ f rest, splitChars sep cs s [] [] = f :: rest := by
  induction cs generalizing s with
  | nil => exact ⟨[], [], rfl⟩
  | cons c cs ih =>
    obtain ⟨f, rest, hfr⟩ := ih (s.next c)
    rw [splitChars_cons]
    split
    · exact ⟨[], f :: rest, by rw [hfr]⟩
    · exact ⟨c :: f, rest, by rw [hfr, List.modifyHead_cons]⟩

theorem eq_of_cut {c : Char} {s : ScanState} (h : (c == sep && s.atTop && !isStructural sep) = true) :
    c = sep := by
  simp only [Bool.and_eq_true, beq_iff_eq] at h
  exact h.1.1

/-! ## What the parts are -/

theorem intercalate_nil_cons {L : List (List Char)} (hL : L ≠ []) :
    [sep].intercalate ([] :: L) = sep :: [sep].intercalate L := by
  obtain ⟨x, xs, rfl⟩ := List.exists_cons_of_ne_nil hL
  rw [List.intercalate_cons_cons]
  rfl

/-- Joined with the separator, the parts give the text back: a cut drops the separator it is
made at, and nothing else. -/
theorem intercalate_splitChars (cs : List Char) (s : ScanState) :
    [sep].intercalate (splitChars sep cs s [] []) = cs := by
  induction cs generalizing s with
  | nil => simp [splitChars]
  | cons c cs ih =>
    obtain ⟨f, rest, hfr⟩ := exists_splitChars_eq_cons sep cs (s.next c)
    rw [splitChars_cons]
    split
    · next hcut =>
      rw [intercalate_nil_cons sep (by simp [hfr]), ih, eq_of_cut sep hcut]
    · rw [hfr, List.modifyHead_cons, List.intercalate_cons_cons_left, ← hfr, ih]

theorem splitChars_of_isStructural (h : isStructural sep = true) (cs : List Char) (s : ScanState) :
    splitChars sep cs s [] [] = [cs] := by
  induction cs generalizing s with
  | nil => rfl
  | cons c cs ih =>
    rw [splitChars_cons, if_neg (by simp [h]), ih]
    rfl

section Plain

variable {sep} (h : isStructural sep = false)
include h

theorem length_splitChars (cs : List Char) (s : ScanState) :
    (splitChars sep cs s [] []).length = topSepCount sep s cs + 1 := by
  induction cs generalizing s with
  | nil => rfl
  | cons c cs ih =>
    obtain ⟨f, rest, hfr⟩ := exists_splitChars_eq_cons sep cs (s.next c)
    rw [splitChars_cons, topSepCount_cons, h, Bool.not_false, Bool.and_true]
    split
    · simp [ih]
    · rw [hfr, List.modifyHead_cons, Nat.add_zero, ← ih, hfr]
      rfl

/-- No top-level occurrence of the separator stands inside a part: `c`, in the part `part` after
`u`, follows in the text the parts before `part`, each with the separator after it, and `u`. -/
theorem not_isTopSep_of_part (cs : List Char) (s : ScanState) :
    ∀ pre part post u c v, splitChars sep cs s [] [] = pre ++ part :: post → part = u ++ c :: v →
      isTopSep sep s ([sep].intercalate (pre ++ [u])) c = false := by
  induction cs generalizing s with
  | nil =>
    intro pre part post u c v hparts hpart
    obtain ⟨-, rfl, -⟩ : pre = [] ∧ part = [] ∧ post = [] := by
      rcases pre with _ | ⟨p, pre⟩ <;> simp_all [splitChars]
    simp at hpart
  | cons d cs ih =>
    intro pre part post u c v hparts hpart
    obtain ⟨f, rest, hfr⟩ := exists_splitChars_eq_cons sep cs (s.next d)
    rw [splitChars_cons] at hparts
    split at hparts
    · next hcut =>
      have hd : d = sep := eq_of_cut sep hcut
      rcases pre with _ | ⟨p, pre⟩
      · obtain ⟨rfl, -⟩ := List.cons.inj hparts
        simp at hpart
      · obtain ⟨rfl, hrest⟩ := List.cons.inj hparts
        have := ih (s.next d) pre part post u c v hrest hpart
        rw [List.cons_append, intercalate_nil_cons sep (by simp), isTopSep_cons]
        rwa [hd] at this
    · next hcut =>
      rw [hfr, List.modifyHead_cons] at hparts
      rcases pre with _ | ⟨p, pre⟩
      · obtain ⟨rfl, rfl⟩ := List.cons.inj hparts
        rcases u with _ | ⟨x, u⟩
        · obtain ⟨rfl, -⟩ := List.cons.inj hpart
          simpa [isTopSep, h] using hcut
        · obtain ⟨rfl, hf⟩ := List.cons.inj hpart
          have := ih (s.next d) [] f rest u c v (by simpa using hfr) hf
          simpa [isTopSep_cons] using this
      · obtain ⟨rfl, hrest⟩ := List.cons.inj hparts
        have := ih (s.next d) (f :: pre) part post u c v (by rw [hfr, hrest]; rfl) hpart
        rw [List.cons_append, List.intercalate_cons_cons_left, isTopSep_cons]
        exact this

end Plain

end Parts

/-! ## Parts of a text -/

theorem map_toList_splitTopLevel (text : String) (sep : Char) :
    (splitTopLevel text sep).map String.toList = splitChars sep text.toList {} [] [] := by
  simp [splitTopLevel, Function.comp_def]

/-- The parts of a text between its top-level separators. Joined with the separator they give
the text back. A backslash, a quote or a bracket as separator leaves the text whole. Any other
separator gives one part more than it has top-level occurrences, that is occurrences outside
brackets, quotes and escapes, and none of these stands inside a part. -/
theorem splitTopLevel_separators (text : String) (sep : Char) :
    String.intercalate (String.singleton sep) (splitTopLevel text sep) = text ∧
      (isStructural sep = true → splitTopLevel text sep = [text]) ∧
      (isStructural sep = false →
        (splitTopLevel text sep).length = topSepCount sep {} text.toList + 1 ∧
        ∀ pre part post u c v, splitTopLevel text sep = pre ++ part :: post →
          part.toList = u ++ c :: v →
          isTopSep sep {} ([sep].intercalate (pre.map String.toList ++ [u])) c = false) := by
  refine ⟨?_, fun h => ?_, fun h => ⟨?_, fun pre part post u c v hparts hpart => ?_⟩⟩
  · rw [← String.toList_inj, String.toList_intercalate, map_toList_splitTopLevel,
      String.toList_singleton, intercalate_splitChars]
  · simp [splitTopLevel, splitChars_of_isStructural sep h]
  · rw [← List.length_map String.toList, map_toList_splitTopLevel, length_splitChars h]
  · have hchars : splitChars sep text.toList {} [] [] =
        pre.map String.toList ++ part.toList :: post.map String.toList := by
      rw [← map_toList_splitTopLevel, hparts, List.map_append, List.map_cons]
    exact not_isTopSep_of_part h text.toList {} _ _ _ u c v hchars hpart

/-- A comma is no structural character, and the selector list `a, b:not(.c, .d)` has one comma
at the top level. -/
theorem splitTopLevel_separators_sample :
    isStructural ',' = false ∧
      (splitTopLevel "a, b:not(.c, .d)" ',').length =
        topSepCount ',' {} "a, b:not(.c, .d)".toList + 1 :=
  ⟨by decide, ((splitTopLevel_separators "a, b:not(.c, .d)" ',').2.2 (by decide)).1⟩

/-- Commas inside a pseudo-class's parentheses and inside a quoted attribute value do not
separate selectors. -/
example :
    splitTopLevel "a, b:not(.c, .d), [title=\"x,y\"]" ',' = ["a", " b:not(.c, .d)", " [title=\"x,y\"]"] := by
  decide

end CssBundle.Css
