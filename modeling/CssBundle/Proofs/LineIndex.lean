import Mathlib
import CssBundle.Proofs.SpanPlaces

/-!
# Finding locations through the line index

`FileInformation.new` records the byte offset of every line feed of a text, and
`FileInformation.offsetToLocation` finds the row of an offset by a binary search over them. This
module shows that the search answers what `locate` says directly: no location for an offset that
is past the end or inside a character, and otherwise the number of line feeds before the offset
as the row and the UTF-16 length of the rest of that row as the column.

The binary search (`binarySearch`) is proved on its own, for every array whose entries strictly
increase: it finds `x` exactly when `x` is an entry, and the index it gives is always the number
of entries below `x`. The window of the bisection always holds that number, and the number holds
an index of the window when `x` is an entry.

Main statements: `binarySearch_of_sorted` and `offsetToLocation_new`.
-/

namespace CssBundle

open Text

/-! ## Byte prefixes of a text -/

theorem append_of_prefixBytes {cs p : List Char} {n : Nat} (h : prefixBytes cs n = some p) :
    ∃ rest, cs = p ++ rest ∧ byteLength p = n := by
  induction cs generalizing n p with
  | nil =>
    cases n with
    | zero => simp only [prefixBytes, Option.some.injEq] at h; exact ⟨[], by simp [← h], by simp [← h]⟩
    | succ n => simp [prefixBytes] at h
  | cons c cs ih =>
    cases n with
    | zero => simp only [prefixBytes, Option.some.injEq] at h; exact ⟨c :: cs, by simp [← h], by simp [← h]⟩
    | succ n =>
      simp only [prefixBytes] at h
      split at h
      · next hle =>
        obtain ⟨q, hq, rfl⟩ := Option.map_eq_some_iff.mp h
        obtain ⟨rest, rfl, hlen⟩ := ih hq
        exact ⟨rest, rfl, by simp [hlen]; omega⟩
      · cases h

/-- A byte offset of a text is a valid position of it exactly when the text's characters split
at that offset. -/
theorem isValid_iff_prefixBytes {content : String} {offset : Nat} :
    String.Pos.Raw.IsValid content ⟨offset⟩ ↔ (prefixBytes content.toList offset).isSome := by
  rw [String.Pos.Raw.isValid_iff_exists_append, Option.isSome_iff_exists]
  constructor
  · rintro ⟨s₁, s₂, rfl, hpos⟩
    have hoff : offset = byteLength s₁.toList := by
      rw [byteLength_toList, ← String.byteIdx_rawEndPos, ← hpos]
    refine ⟨s₁.toList, ?_⟩
    rw [String.toList_append, hoff]
    exact Css.prefixBytes_append _ _
  · rintro ⟨p, hp⟩
    obtain ⟨rest, hcs, rfl⟩ := append_of_prefixBytes hp
    refine ⟨String.ofList p, String.ofList rest, ?_, ?_⟩
    · rw [← String.toList_inj, String.toList_append, String.toList_ofList, String.toList_ofList, hcs]
    · rw [String.Pos.Raw.ext_iff, String.byteIdx_rawEndPos, ← byteLength_toList, String.toList_ofList]

/-! ## The line feeds of a text -/

theorem lineFeedOffsets_append (xs ys : List Char) (start : Nat) :
    lineFeedOffsets (xs ++ ys) start =
      lineFeedOffsets xs start ++ lineFeedOffsets ys (start + byteLength xs) := by
  induction xs generalizing start with
  | nil => simp [lineFeedOffsets]
  | cons c xs ih =>
    simp only [List.cons_append, lineFeedOffsets, ih, byteLength_cons, Nat.add_assoc]
    split <;> simp

theorem length_lineFeedOffsets (xs : List Char) (start : Nat) :
    (lineFeedOffsets xs start).length = xs.count '\n' := by
  induction xs generalizing start with
  | nil => rfl
  | cons c xs ih =>
    simp only [lineFeedOffsets, List.count_cons, beq_iff_eq]
    split <;> simp [ih]

theorem bounds_of_mem_lineFeedOffsets {xs : List Char} {start o : Nat}
    (h : o ∈ lineFeedOffsets xs start) : start ≤ o ∧ o < start + byteLength xs := by
  induction xs generalizing start with
  | nil => simp [lineFeedOffsets] at h
  | cons c xs ih =>
    have hpos := Char.utf8Size_pos c
    simp only [lineFeedOffsets] at h
    have hrest : o ∈ lineFeedOffsets xs (start + c.utf8Size) → start ≤ o ∧ o < start + byteLength (c :: xs) := by
      intro hmem
      have := ih hmem
      simp only [byteLength_cons]
      omega
    split at h
    · rcases List.mem_cons.mp h with rfl | hmem
      · simp only [byteLength_cons]; omega
      · exact hrest hmem
    · exact hrest h

theorem sorted_lineFeedOffsets (xs : List Char) (start : Nat) :
    (lineFeedOffsets xs start).Pairwise (· < ·) := by
  induction xs generalizing start with
  | nil => exact List.Pairwise.nil
  | cons c xs ih =>
    have hpos := Char.utf8Size_pos c
    simp only [lineFeedOffsets]
    split
    · refine List.Pairwise.cons (fun o ho => ?_) (ih _)
      have := (bounds_of_mem_lineFeedOffsets ho).1
      omega
    · exact ih _

/-! ## Binary search over strictly increasing entries -/

/-- In a strictly increasing list, the entries below `x` come first: the entry at `i` is below
`x` exactly when `i` is less than their number. -/
theorem lt_countP_iff {l : List Nat} (hl : l.Pairwise (· < ·)) {x i : Nat} (hi : i < l.length) :
    l[i] < x ↔ i < l.countP (· < x) := by
  induction l generalizing i with
  | nil => simp at hi
  | cons a l ih =>
    rw [List.pairwise_cons] at hl
    rw [List.countP_cons]
    cases i with
    | zero =>
      by_cases hax : a < x
      · simp [hax]
      · have hnone : l.countP (· < x) = 0 := by
          rw [List.countP_eq_zero]
          intro b hb hbx
          have := hl.1 b hb
          simp only [decide_eq_true_eq] at hbx
          omega
        simp [hax, hnone]
    | succ j =>
      have hj : j < l.length := by simpa using hi
      have hih := ih hl.2 hj
      simp only [List.getElem_cons_succ]
      by_cases hax : a < x
      · simp only [hax, decide_true, if_true]
        omega
      · have hlt : ¬ l[j] < x := fun h => hax (lt_trans (hl.1 _ (List.getElem_mem hj)) h)
        simp only [hax, decide_false, Bool.false_eq_true, if_false]
        omega

theorem countP_le_of_le {l : List Nat} (hl : l.Pairwise (· < ·)) {x i : Nat} (hi : i < l.length)
    (hx : x ≤ l[i]) : l.countP (· < x) ≤ i := by
  have := (lt_countP_iff hl hi).not.mp (not_lt.mpr hx)
  omega

theorem le_countP_of_le {l : List Nat} (hl : l.Pairwise (· < ·)) {x i : Nat} (hi : i < l.length)
    (hx : l[i] ≤ x) : i ≤ l.countP (· < x) := by
  cases i with
  | zero => omega
  | succ j =>
    have hprev : l[j] < x := lt_of_lt_of_le (List.pairwise_iff_getElem.mp hl j (j + 1) _ hi (by omega)) hx
    have := (lt_countP_iff hl (by omega)).mp hprev
    omega

theorem getElem_countP_of_mem {l : List Nat} (hl : l.Pairwise (· < ·)) {x : Nat} (hx : x ∈ l) :
    ∃ h : l.countP (· < x) < l.length, l[l.countP (· < x)] = x := by
  obtain ⟨j, hj, rfl⟩ := List.getElem_of_mem hx
  have hle := countP_le_of_le hl hj (le_refl _)
  have hge := le_countP_of_le hl hj (le_refl _)
  have hjk : l.countP (· < l[j]) = j := by omega
  exact ⟨by omega, by simp only [hjk]⟩

section Search

variable {a : Array Nat} {x : Nat}

theorem getD_eq_getElem {i : Nat} (hi : i < a.toList.length) : a.getD i 0 = a.toList[i] := by
  rw [Array.length_toList] at hi
  simp [Array.getD_eq_getD_getElem?, hi]

/-- The bisection keeps the number `k` of entries below `x` in its window, and in the window's
first `size` indices when `x` is an entry; so it ends at `k` or just before it, at `k` itself
when `x` is an entry. -/
theorem bisect_spec (hs : a.toList.Pairwise (· < ·)) (base size : Nat)
    (hbase : base ≤ a.toList.countP (· < x)) (hwin : a.toList.countP (· < x) ≤ base + size)
    (hmem : x ∈ a.toList → a.toList.countP (· < x) < base + size)
    (hsize : 1 ≤ size) (hend : base + size ≤ a.size) :
    bisect a x base size ≤ a.toList.countP (· < x) ∧
      a.toList.countP (· < x) ≤ bisect a x base size + 1 ∧ bisect a x base size < a.size ∧
      (x ∈ a.toList → bisect a x base size = a.toList.countP (· < x)) := by
  fun_induction bisect a x base size with
  | case1 base size hle =>
    have hone : size = 1 := by omega
    subst hone
    exact ⟨hbase, hwin, by omega, fun h => by have := hmem h; omega⟩
  | case2 base size hle half mid ih =>
    simp only [dite_eq_ite] at ih
    have hmid_def : mid = base + size / 2 := rfl
    have hmid : mid < a.size := by omega
    have hmidl : mid < a.toList.length := by simpa using hmid
    rw [getD_eq_getElem hmidl] at ih ⊢
    by_cases hlt : x < a.toList[mid]
    · rw [if_pos hlt] at ih ⊢
      have hk := countP_le_of_le hs hmidl hlt.le
      refine ih hbase (by omega) (fun hx => ?_) (by omega) (by omega)
      obtain ⟨hkl, hat⟩ := getElem_countP_of_mem hs hx
      have hne : a.toList.countP (· < x) ≠ mid := fun h => by simp only [h] at hat; omega
      omega
    · rw [if_neg hlt] at ih ⊢
      have hk := le_countP_of_le hs hmidl (not_lt.mp hlt)
      exact ih hk (by omega) (fun hx => by have := hmem hx; omega) (by omega) (by omega)

/-- Binary search over strictly increasing entries finds `x` exactly when it is an entry, and
answers with the number of entries below `x` either way: the index of `x`, or the place where it
would be inserted. -/
theorem binarySearch_of_sorted (hs : a.toList.Pairwise (· < ·)) (x : Nat) :
    binarySearch a x =
      if x ∈ a.toList then .ok (a.toList.countP (· < x)) else .error (a.toList.countP (· < x)) := by
  unfold binarySearch
  split
  · next hempty =>
    have hnil : a.toList = [] := by simpa using hempty
    simp [hnil]
  · next hne =>
    have hk : a.toList.countP (· < x) ≤ a.size := by
      simpa using List.countP_le_length (l := a.toList) (p := (· < x))
    have hmem : x ∈ a.toList → a.toList.countP (· < x) < 0 + a.size := by
      intro hx
      obtain ⟨hkl, -⟩ := getElem_countP_of_mem hs hx
      simpa using hkl
    obtain ⟨hlo, hhi, hlt, hexact⟩ :=
      bisect_spec hs 0 a.size (Nat.zero_le _) (by omega) hmem (by omega) (by omega)
    generalize bisect a x 0 a.size = r at hlo hhi hlt hexact
    have hrl : r < a.toList.length := by simpa using hlt
    dsimp only
    rw [getD_eq_getElem hrl]
    by_cases hx : x ∈ a.toList
    · obtain ⟨hkl, hat⟩ := getElem_countP_of_mem hs hx
      have hr := hexact hx
      subst hr
      rw [if_pos hat, if_pos hx]
    · have hne : a.toList[r] ≠ x := fun h => hx (h ▸ List.getElem_mem _)
      have hbelow := lt_countP_iff hs (x := x) hrl
      rw [if_neg hne, if_neg hx, Except.error.injEq]
      split <;> omega

end Search

/-! ## Locations -/

namespace FileInformation

theorem lineBreaks_new (content : String) :
    (new content).lineBreaks.toList = lineFeedOffsets content.toList 0 := rfl

theorem row_new (content : String) (offset : Nat) :
    searchIndex (binarySearch (new content).lineBreaks offset) =
      (lineFeedOffsets content.toList 0).countP (· < offset) := by
  rw [binarySearch_of_sorted (by rw [lineBreaks_new]; exact sorted_lineFeedOffsets _ 0), lineBreaks_new]
  split_ifs <;> rfl

/-- The characters before an offset split at their last line feed: a part that is empty or ends
in that line feed, and the rest of the row. -/
theorem split_last_line (pre : List Char) :
    ∃ head, pre = head ++ (pre.reverse.takeWhile (· ≠ '\n')).reverse ∧
      (head = [] ∨ ∃ h', head = h' ++ ['\n']) := by
  have hsplit := List.takeWhile_append_dropWhile (p := fun c => decide (c ≠ '\n')) (l := pre.reverse)
  refine ⟨(pre.reverse.dropWhile (· ≠ '\n')).reverse, ?_, ?_⟩
  · calc pre = (pre.reverse.takeWhile (· ≠ '\n') ++ pre.reverse.dropWhile (· ≠ '\n')).reverse := by
          rw [hsplit, List.reverse_reverse]
      _ = _ := List.reverse_append ..
  · cases hd : pre.reverse.dropWhile (· ≠ '\n') with
    | nil => exact .inl rfl
    | cons y ys =>
      have hy := List.head_dropWhile_not (fun c => decide (c ≠ '\n')) (l := pre.reverse) (by rw [hd]; exact List.cons_ne_nil _ _)
      simp only [hd, List.head_cons, decide_eq_false_iff_not, not_not] at hy
      exact .inr ⟨ys.reverse, by simp [hy]⟩

theorem countP_lineFeedOffsets (pre post : List Char) :
    (lineFeedOffsets (pre ++ post) 0).countP (· < byteLength pre) = pre.count '\n' := by
  rw [lineFeedOffsets_append, List.countP_append, ← length_lineFeedOffsets pre 0]
  have hbefore : (lineFeedOffsets pre 0).countP (· < byteLength pre) = (lineFeedOffsets pre 0).length := by
    rw [List.countP_eq_length]
    intro o ho
    have := (bounds_of_mem_lineFeedOffsets ho).2
    simpa using this
  have hafter : (lineFeedOffsets post (0 + byteLength pre)).countP (· < byteLength pre) = 0 := by
    rw [List.countP_eq_zero]
    intro o ho
    have := (bounds_of_mem_lineFeedOffsets ho).1
    simp only [decide_eq_true_eq]
    omega
  rw [hbefore, hafter, Nat.add_zero]

/-- The row of an offset starts right after the last line feed before it, or at the start of
the text. -/
theorem lineStart_new {head line post : List Char} (hline : '\n' ∉ line)
    (hhead : head = [] ∨ ∃ h', head = h' ++ ['\n']) :
    (if (head ++ line).count '\n' = 0 then 0
      else (lineFeedOffsets (head ++ line ++ post) 0).toArray.getD ((head ++ line).count '\n' - 1) 0 + 1) =
      byteLength head := by
  have hcount : line.count '\n' = 0 := List.count_eq_zero.mpr hline
  have hnl : '\n'.utf8Size = 1 := rfl
  rcases hhead with rfl | ⟨h', rfl⟩
  · simp [hcount]
  · have hfeeds : lineFeedOffsets (h' ++ ['\n'] ++ line ++ post) 0 =
        lineFeedOffsets h' 0 ++ byteLength h' :: lineFeedOffsets (line ++ post) (byteLength h' + 1) := by
      rw [List.append_assoc, List.append_assoc, lineFeedOffsets_append]
      simp [lineFeedOffsets, hnl]
    have hidx : (h' ++ ['\n'] ++ line).count '\n' - 1 = (lineFeedOffsets h' 0).length := by
      simp [length_lineFeedOffsets, hcount]
    rw [if_neg (by simp), hidx, hfeeds, Array.getD_eq_getD_getElem?, List.getElem?_toArray,
      List.getElem?_append_right (le_refl _), Nat.sub_self]
    simp [hnl]

theorem lastLine_append {head line : List Char} (hline : '\n' ∉ line)
    (hhead : head = [] ∨ ∃ h', head = h' ++ ['\n']) :
    ((head ++ line).reverse.takeWhile (· ≠ '\n')).reverse = line := by
  have hpos : ∀ c ∈ line.reverse, decide (c ≠ '\n') = true := by
    intro c hc
    have hne : c ≠ '\n' := fun h => hline (h ▸ List.mem_reverse.mp hc)
    simpa using hne
  rw [List.reverse_append, List.takeWhile_append_of_pos hpos]
  rcases hhead with rfl | ⟨h', rfl⟩ <;> simp

theorem offsetToLocation_new_eq_locate (content : String) (offset : Nat) :
    (new content).offsetToLocation offset content = locate content offset := by
  unfold offsetToLocation
  rw [row_new]
  dsimp only
  have hlen : (new content).totalLength = byteLength content.toList := (byteLength_toList content).symm
  rw [hlen, show (new content).lineBreaks = (lineFeedOffsets content.toList 0).toArray from rfl]
  split
  · next hpast =>
    have hnone : prefixBytes content.toList offset = none := by
      rcases hp : prefixBytes content.toList offset with _ | p
      · rfl
      · obtain ⟨rest, hcs, rfl⟩ := append_of_prefixBytes hp
        rw [hcs, byteLength_append] at hpast
        omega
    simp [locate, hnone]
  · rcases hp : prefixBytes content.toList offset with _ | pre
    · simp [sliceBytes, locate, hp]
    · obtain ⟨post, hcs, rfl⟩ := append_of_prefixBytes hp
      obtain ⟨head, hpre, hhead⟩ := split_last_line pre
      have hline : '\n' ∉ (pre.reverse.takeWhile (· ≠ '\n')).reverse := by
        intro hmem
        have := List.mem_takeWhile_imp (List.mem_reverse.mp hmem)
        simp at this
      generalize (pre.reverse.takeWhile (· ≠ '\n')).reverse = line at hpre hline
      subst hpre
      rw [hcs, countP_lineFeedOffsets, lineStart_new hline hhead]
      have hslice : sliceBytes (head ++ line ++ post) (byteLength head) (byteLength (head ++ line)) =
          some line := by
        rw [sliceBytes, Css.prefixBytes_append (head ++ line) post]
        show (prefixBytes (head ++ line) (byteLength head)).bind _ = _
        rw [Css.prefixBytes_append head line]
        simp
      rw [hslice, locate, hcs, Css.prefixBytes_append, Option.map_some, Option.map_some,
        lastLine_append hline hhead]

/-- A line index finds a location for an offset exactly when the offset is a position of the
text, and then the row counts the line feeds before the offset and the column the UTF-16 units
after the last of them; the index counts one row more than line feeds. -/
theorem offsetToLocation_new (content : String) (offset : Nat) :
    ((new content).offsetToLocation offset content = none ↔
        content.utf8ByteSize < offset ∨ ¬ String.Pos.Raw.IsValid content ⟨offset⟩) ∧
    (∀ before after : String, content = before ++ after → before.utf8ByteSize = offset →
        (new content).offsetToLocation offset content =
          some ⟨offset, before.toList.count '\n',
            length16 (before.toList.reverse.takeWhile (· ≠ '\n')).reverse⟩) ∧
    (new content).lineCount = content.toList.count '\n' + 1 := by
  rw [offsetToLocation_new_eq_locate]
  refine ⟨?_, fun before after hsplit hoff => ?_, ?_⟩
  · have hnone : locate content offset = none ↔ ¬ String.Pos.Raw.IsValid content ⟨offset⟩ := by
      rw [isValid_iff_prefixBytes, locate, Option.map_eq_none_iff, Option.not_isSome_iff_eq_none]
    rw [hnone]
    constructor
    · exact Or.inr
    · rintro (hpast | hinvalid)
      · intro hvalid
        obtain ⟨p, hp⟩ := Option.isSome_iff_exists.mp (isValid_iff_prefixBytes.mp hvalid)
        obtain ⟨rest, hcs, rfl⟩ := append_of_prefixBytes hp
        rw [← byteLength_toList, hcs, byteLength_append] at hpast
        omega
      · exact hinvalid
  · rw [locate, hsplit, String.toList_append, ← hoff, ← byteLength_toList, Css.prefixBytes_append]
    rfl
  · simp [lineCount, new, length_lineFeedOffsets]

/-- In `é\n😀x`, byte 7 is on the second row, two UTF-16 units in: `😀` counts as two. -/
theorem offsetToLocation_new_sample :
    (new "é\n😀x").offsetToLocation 7 "é\n😀x" = some ⟨7, 1, 2⟩ := by
  have h := (offsetToLocation_new "é\n😀x" 7).2.1 "é\n😀" "x" (by decide) (by decide)
  rw [h]
  decide
end FileInformation


end CssBundle
