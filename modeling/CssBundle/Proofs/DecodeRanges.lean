import Mathlib
import CssBundle.Proofs.MapRoundTrip

/-!
# Decoding a mappings string stays in range

The decoder of a `mappings` string carries running values from segment to segment: the generated
column along a line, and the source index, source line, source column and name index along the
whole string. Each segment adds its fields to them, and the decoder checks every value it changed
before going on: positions back into 32 bits, indices back below their counts. So whenever the
decoder reaches a segment, the values it carries in are in those ranges (`Running.Checked`).

Each field of a segment is a VLQ whose sign-folded form passed a 32-bit check, so its magnitude is
at most `2 ^ 31 - 1`, and a non-empty segment reads as at least one field or fails. Together these
bound every sum the decoder forms (`segmentSums`) well inside 64 bits, and the branch for a segment
of no fields, where a first field would be missing, is never taken.

Main statement: `decodeMappings_checked`.
-/

namespace CssBundle.SourceMap

def FitsInt64 (v : Int) : Prop := -(2 ^ 63) ≤ v ∧ v < 2 ^ 63

theorem exists_step_of_foldlM_error {α β ε : Type} {f : α → β → Except ε α} :
    ∀ {xs : List β} {a : α} {e : ε}, xs.foldlM f a = .error e → ∃ b, ∃ x ∈ xs, f b x = .error e
  | [], a, e, h => by cases h
  | x :: xs, a, e, h => by
    rw [List.foldlM_cons] at h
    cases hx : f a x with
    | error e' =>
      simp only [hx, bind, Except.bind, Except.error.injEq] at h
      exact ⟨a, x, List.mem_cons_self, h ▸ hx⟩
    | ok a' =>
      simp only [hx, bind, Except.bind] at h
      obtain ⟨b, y, hy, hb⟩ := exists_step_of_foldlM_error h
      exact ⟨b, y, List.mem_cons_of_mem x hy, hb⟩

theorem foldlM_append_cons_error {α β ε : Type} {f : α → β → Except ε α} {xs ys : List β} {y : β}
    {a b : α} {e : ε} (hxs : xs.foldlM f a = .ok b) (hy : f b y = .error e) :
    (xs ++ y :: ys).foldlM f a = .error e := by
  rw [List.foldlM_append, hxs]
  simp [List.foldlM_cons, hy, bind, Except.bind]

/-! ## The values of one segment -/

namespace Vlq

theorem natAbs_unzigzag_le {n : Nat} (h : n ≤ 2 ^ 32 - 1) : (unzigzag n).natAbs ≤ 2 ^ 31 - 1 := by
  unfold unzigzag
  split <;> omega

theorem natAbs_of_decodeBytes :
    ∀ {bs : List Nat} {acc vs : List Int} {total shift : Nat} {inside : Bool},
      (∀ v ∈ acc, v.natAbs ≤ 2 ^ 31 - 1) → decodeBytes bs acc total shift inside = .ok vs →
        ∀ v ∈ vs, v.natAbs ≤ 2 ^ 31 - 1
  | [], acc, vs, _, _, inside, hacc, h => by
    unfold decodeBytes at h
    split at h
    · cases h
    · cases h
      simpa using hacc
  | b :: rest, acc, vs, total, shift, _, hacc, h => by
    unfold decodeBytes at h
    split at h
    · cases h
    · next d _ =>
      dsimp only at h
      split at h
      · cases h
      · next hfit =>
        split at h
        · refine natAbs_of_decodeBytes (fun v hv => ?_) h
          rcases List.mem_cons.mp hv with rfl | hv
          · exact natAbs_unzigzag_le (by simp only [UInt32.size] at hfit; omega)
          · exact hacc v hv
        · split at h
          · cases h
          · exact natAbs_of_decodeBytes hacc h

theorem ne_nil_of_decodeBytes :
    ∀ {bs : List Nat} {acc vs : List Int} {total shift : Nat} {inside : Bool},
      (bs ≠ [] ∨ inside = true ∨ acc ≠ []) → decodeBytes bs acc total shift inside = .ok vs →
        vs ≠ []
  | [], acc, vs, _, _, inside, hne, h => by
    unfold decodeBytes at h
    split at h
    · cases h
    · next hin =>
      cases h
      simp only [ne_eq, not_true_eq_false, false_or] at hne
      rcases hne with hin' | hacc
      · exact absurd hin' hin
      · simpa using hacc
  | b :: rest, acc, vs, total, shift, _, _, h => by
    unfold decodeBytes at h
    split at h
    · cases h
    · dsimp only at h
      split at h
      · cases h
      · split at h
        · exact ne_nil_of_decodeBytes (.inr (.inr (List.cons_ne_nil _ _))) h
        · split at h
          · cases h
          · exact ne_nil_of_decodeBytes (.inr (.inl rfl)) h

theorem bytes_ne_nil {seg : String} (h : seg.isEmpty = false) :
    seg.toUTF8.data.toList.map UInt8.toNat ≠ [] := by
  have hsize : seg.utf8ByteSize ≠ 0 := by
    simpa [String.isEmpty] using h
  rw [← String.size_toByteArray] at hsize
  simpa [ByteArray.size, List.map_eq_nil_iff, ← Array.length_toList] using hsize

/-- A segment that is not empty reads as at least one value, each of magnitude below `2 ^ 31`,
or fails. -/
theorem decode_values {seg : String} (h : seg.isEmpty = false) {vs : List Int}
    (hd : decode seg = .ok vs) : vs ≠ [] ∧ ∀ v ∈ vs, v.natAbs ≤ 2 ^ 31 - 1 :=
  ⟨ne_nil_of_decodeBytes (.inl (bytes_ne_nil h)) hd, natAbs_of_decodeBytes (by simp) hd⟩

/-- Reading a segment fails only on a byte outside the alphabet, a value past its bounds, or a
value cut short. -/
theorem decodeBytes_error :
    ∀ {bs : List Nat} {acc : List Int} {total shift : Nat} {inside : Bool} {e : MapError},
      decodeBytes bs acc total shift inside = .error e →
        e = .vlqOverflow ∨ e = .unterminatedVlq ∨ ∃ c, e = .invalidBase64 c
  | [], acc, _, _, inside, e, h => by
    unfold decodeBytes at h
    split at h
    · cases h
      exact .inr (.inl rfl)
    · cases h
  | b :: rest, acc, total, shift, _, e, h => by
    unfold decodeBytes at h
    split at h
    · cases h
      exact .inr (.inr ⟨_, rfl⟩)
    · dsimp only at h
      split at h
      · cases h
        exact .inl rfl
      · split at h
        · exact decodeBytes_error h
        · split at h
          · cases h
            exact .inl rfl
          · exact decodeBytes_error h

end Vlq

/-! ## The running values -/

/-- The running source fields in the ranges the decoder's checks leave them in: the source and name
indices are 0, where they start, or listed; the source line and column are 32-bit numbers. -/
structure Running.Checked (sc nc : Nat) (run : Running) : Prop where
  source : 0 ≤ run.source ∧ (run.source = 0 ∨ run.source < sc)
  line : 0 ≤ run.line ∧ run.line < 2 ^ 32
  column : 0 ≤ run.column ∧ run.column < 2 ^ 32
  name : 0 ≤ run.name ∧ (run.name = 0 ∨ run.name < nc)

theorem checked_start (sc nc : Nat) : ({} : Running).Checked sc nc :=
  ⟨by simp, by simp, by simp, by simp⟩

theorem bounds_of_checkU32 {v : Int} {what : Coordinate} {n : Nat} (h : checkU32 v what = .ok n) :
    0 ≤ v ∧ v < 2 ^ 32 := by
  obtain ⟨h0, hlt, -⟩ := checkU32_eq_ok.mp h
  exact ⟨h0, hlt⟩

/-- A segment decoded after checked running values moves the generated column to a 32-bit
number and leaves checked running values. -/
theorem decodeSegment_checked {sc nc line : Nat} {col : Int} {run : Running} {seg : String}
    {x : Mapping} {col' : Int} {run' : Running} (hrun : run.Checked sc nc)
    (h : decodeSegment sc nc line col run seg = .ok (x, col', run')) :
    (0 ≤ col' ∧ col' < 2 ^ 32) ∧ run'.Checked sc nc := by
  obtain ⟨gl, gc, -, hgc, -, ⟨-, rfl⟩ | ⟨pl, pc, hs0, hs, hpl, hpc, hname⟩⟩ := decodeSegment_ok h
  · exact ⟨bounds_of_checkU32 hgc, hrun⟩
  · refine ⟨bounds_of_checkU32 hgc, ⟨hs0, .inr hs⟩, bounds_of_checkU32 hpl,
      bounds_of_checkU32 hpc, ?_⟩
    rcases hname with ⟨hn, -⟩ | ⟨hn0, hn, -⟩
    · rw [hn]
      exact hrun.name
    · exact ⟨hn0, .inr hn⟩

theorem checkU32_error {v : Int} {what : Coordinate} {e : MapError} (h : checkU32 v what = .error e) :
    e = .negative what ∨ e = .tooLarge what := by
  unfold checkU32 at h
  split at h
  · cases h
    exact .inl rfl
  · split at h
    · cases h
      exact .inr rfl
    · cases h

/-- The error for a segment of the wrong number of fields names the number of fields read, and
only a segment that reads as no field at all names none. -/
theorem decodeSegment_invalidSegment {sc nc line : Nat} {col : Int} {run : Running} {seg : String}
    {n : Nat} (h : decodeSegment sc nc line col run seg = .error (.invalidSegment n)) :
    ∃ fields, Vlq.decode seg = .ok fields ∧ fields.length = n := by
  unfold decodeSegment at h
  rcases hd : Vlq.decode seg with e | fields
  · simp only [hd, bind, Except.bind, Except.error.injEq] at h
    subst h
    rcases Vlq.decodeBytes_error hd with h | h | ⟨c, h⟩ <;> cases h
  refine ⟨fields, rfl, ?_⟩
  rcases fields with _ | ⟨d0, rest⟩
  · simpa [hd, bind, Except.bind, throw, throwThe, MonadExceptOf.throw] using h
  rcases hl : checkU32 (line : Int) .generatedLine with e | gl
  · simp only [hd, hl, bind, Except.bind, Except.error.injEq] at h
    obtain he | he := checkU32_error hl <;> subst he <;> cases h
  rcases hc : checkU32 (col + d0) .generatedColumn with e | gc
  · simp only [hd, hl, hc, bind, Except.bind, Except.error.injEq] at h
    obtain he | he := checkU32_error hc <;> subst he <;> cases h
  simp only [hd, hl, hc, bind, Except.bind] at h
  rcases rest with _ | ⟨d1, _ | ⟨d2, _ | ⟨d3, _ | ⟨d4, _ | ⟨d5, rest⟩⟩⟩⟩⟩
  · cases h
  · simpa [throw, throwThe, MonadExceptOf.throw] using h
  · simpa [throw, throwThe, MonadExceptOf.throw] using h
  · simp only at h
    split at h
    · simp [throw, throwThe, MonadExceptOf.throw] at h
    · rcases hpl : checkU32 (run.line + d2) .sourceLine with e | pl <;> simp only [hpl] at h
      · obtain he | he := checkU32_error hpl <;> subst he <;> cases h
      rcases hpc : checkU32 (run.column + d3) .sourceColumn with e | pc <;> simp only [hpc] at h
      · obtain he | he := checkU32_error hpc <;> subst he <;> cases h
      cases h
  · simp only at h
    split at h
    · simp [throw, throwThe, MonadExceptOf.throw] at h
    · rcases hpl : checkU32 (run.line + d2) .sourceLine with e | pl <;> simp only [hpl] at h
      · obtain he | he := checkU32_error hpl <;> subst he <;> cases h
      rcases hpc : checkU32 (run.column + d3) .sourceColumn with e | pc <;> simp only [hpc] at h
      · obtain he | he := checkU32_error hpc <;> subst he <;> cases h
      split at h
      · simp [throw, throwThe, MonadExceptOf.throw] at h
      · cases h
  · simpa [throw, throwThe, MonadExceptOf.throw] using h

/-! ## Along the string -/

/-- The decoder reads the non-empty segment `seg` of generated line `line`, carrying in the
generated column `col` and the running fields `run`: the lines before it and the segments before
it on its line were decoded without an error. -/
def Reaches (text : String) (sc nc line : Nat) (col : Int) (run : Running) (seg : String) : Prop :=
  ∃ before t after run₀ acc₀ segsBefore segsAfter acc,
    splitText text ';' = before ++ t :: after ∧
    before.foldlM (lineStep sc nc) (0, {}, []) = .ok (line, run₀, acc₀) ∧
    splitText t ',' = segsBefore ++ seg :: segsAfter ∧
    segsBefore.foldlM (segmentStep sc nc line) (0, run₀, acc₀) = .ok (col, run, acc) ∧
    seg.isEmpty = false

/-- What holds between the segments of a line: a 32-bit generated column and checked running
fields. -/
def SegmentInv (sc nc : Nat) (s : Int × Running × List Mapping) : Prop :=
  (0 ≤ s.1 ∧ s.1 < 2 ^ 32) ∧ s.2.1.Checked sc nc

theorem segmentStep_inv {sc nc line : Nat} {s s' : Int × Running × List Mapping} {seg : String}
    (hs : SegmentInv sc nc s) (h : segmentStep sc nc line s seg = .ok s') : SegmentInv sc nc s' := by
  unfold segmentStep at h
  split at h
  · cases h
    exact hs
  · rcases hd : decodeSegment sc nc line s.1 s.2.1 seg with e | ⟨x, col, run⟩ <;>
      simp only [hd, bind, Except.bind] at h
    · cases h
    · cases h
      exact decodeSegment_checked hs.2 hd

theorem lineStep_checked {sc nc : Nat} {s s' : Nat × Running × List Mapping} {text : String}
    (hs : s.2.1.Checked sc nc) (h : lineStep sc nc s text = .ok s') : s'.2.1.Checked sc nc := by
  unfold lineStep at h
  rcases hf : (splitText text ',').foldlM (segmentStep sc nc s.1) (0, s.2.1, s.2.2) with
    e | ⟨col, run, acc⟩ <;> simp only [hf, bind, Except.bind] at h
  · cases h
  · cases h
    exact (foldlM_except_invariant (SegmentInv sc nc) (fun _ _ _ ha hb => segmentStep_inv ha hb)
      _ _ _ ⟨by simp, hs⟩ hf).2

theorem Reaches.inv {text : String} {sc nc line : Nat} {col : Int} {run : Running} {seg : String}
    (h : Reaches text sc nc line col run seg) : (0 ≤ col ∧ col < 2 ^ 32) ∧ run.Checked sc nc := by
  obtain ⟨before, t, after, run₀, acc₀, segsBefore, segsAfter, acc, -, hlines, -, hsegs, -⟩ := h
  have h₀ : run₀.Checked sc nc :=
    foldlM_except_invariant (fun s : Nat × Running × List Mapping => s.2.1.Checked sc nc)
      (fun _ _ _ ha hb => lineStep_checked ha hb) before (0, {}, []) (line, run₀, acc₀)
      (checked_start sc nc) hlines
  exact foldlM_except_invariant (SegmentInv sc nc) (fun _ _ _ ha hb => segmentStep_inv ha hb)
    segsBefore (0, run₀, acc₀) (col, run, acc) ⟨by simp, h₀⟩ hsegs

theorem Reaches.error {text : String} {sc nc line : Nat} {col : Int} {run : Running} {seg : String}
    (h : Reaches text sc nc line col run seg) {e : MapError}
    (he : decodeSegment sc nc line col run seg = .error e) : decodeMappings text sc nc = .error e := by
  obtain ⟨before, t, after, run₀, acc₀, segsBefore, segsAfter, acc, htext, hlines, ht, hsegs, hne⟩ := h
  have hseg : segmentStep sc nc line (col, run, acc) seg = .error e := by
    simp [segmentStep, hne, he, bind, Except.bind]
  have hline : lineStep sc nc (line, run₀, acc₀) t = .error e := by
    simp only [lineStep, ht, foldlM_append_cons_error hsegs hseg, bind, Except.bind]
  rw [decodeMappings, decodeLines_eq_foldlM, htext, foldlM_append_cons_error hlines hline]
  rfl

theorem decodeMappings_ne_invalidSegment_zero (text : String) (sc nc : Nat) :
    decodeMappings text sc nc ≠ .error (.invalidSegment 0) := by
  intro h
  rw [decodeMappings, decodeLines_eq_foldlM] at h
  rcases hf : (splitText text ';').foldlM (lineStep sc nc) (0, {}, []) with e | s <;>
    simp only [hf, Except.map] at h
  · simp only [Except.error.injEq] at h
    subst h
    obtain ⟨s, t, -, ht⟩ := exists_step_of_foldlM_error hf
    rcases hsegs : (splitText t ',').foldlM (segmentStep sc nc s.1) (0, s.2.1, s.2.2) with
      e | s' <;> simp only [lineStep, hsegs, bind, Except.bind] at ht
    · cases ht
      obtain ⟨s'', seg, -, hseg⟩ := exists_step_of_foldlM_error hsegs
      unfold segmentStep at hseg
      split at hseg
      · cases hseg
      · next hne =>
        rcases hd : decodeSegment sc nc s.1 s''.1 s''.2.1 seg with e | r <;>
          simp only [hd, bind, Except.bind] at hseg
        · cases hseg
          obtain ⟨fields, hfields, hlen⟩ := decodeSegment_invalidSegment hd
          have := (Vlq.decode_values (Bool.eq_false_iff.mpr hne) hfields).1
          exact this (List.length_eq_zero_iff.mp hlen)
        · cases hseg
    · cases ht
  · cases h

/-- The sums of a segment's fields with the running values carried into it, in the order the
decoder forms them: the generated column first, then, for a segment with a source position, the
source index, line and column, and, for one with a name as well, the name index. -/
def segmentSums (col : Int) (run : Running) : List Int → List Int
  | [d0, d1, d2, d3] => [col + d0, run.source + d1, run.line + d2, run.column + d3]
  | [d0, d1, d2, d3, d4] =>
    [col + d0, run.source + d1, run.line + d2, run.column + d3, run.name + d4]
  | d0 :: _ => [col + d0]
  | [] => []

/-- Checked running values and fields of magnitude below `2 ^ 31` make sums above `-2 ^ 31` and
below `2 ^ 33` plus the counts. -/
theorem segmentSums_bounds {sc nc : Nat} {col : Int} {run : Running}
    (hcol : 0 ≤ col ∧ col < 2 ^ 32) (hrun : run.Checked sc nc) {fields : List Int}
    (hf : ∀ d ∈ fields, d.natAbs ≤ 2 ^ 31 - 1) :
    ∀ s ∈ segmentSums col run fields, -(2 ^ 31) < s ∧ s < 2 ^ 33 + sc + nc := by
  obtain ⟨⟨hs0, hs1⟩, ⟨hl0, hl1⟩, ⟨hc0, hc1⟩, ⟨hn0, hn1⟩⟩ := hrun
  match fields, hf with
  | [d0, d1, d2, d3], hf =>
    simp only [List.mem_cons, List.not_mem_nil, or_false, forall_eq_or_imp, forall_eq] at hf
    simp only [segmentSums, List.mem_cons, List.not_mem_nil, or_false, forall_eq_or_imp, forall_eq]
    omega
  | [d0, d1, d2, d3, d4], hf =>
    simp only [List.mem_cons, List.not_mem_nil, or_false, forall_eq_or_imp, forall_eq] at hf
    simp only [segmentSums, List.mem_cons, List.not_mem_nil, or_false, forall_eq_or_imp, forall_eq]
    omega
  | [d0], hf | [d0, _], hf | [d0, _, _], hf | d0 :: _ :: _ :: _ :: _ :: _ :: _, hf =>
    have h0 := hf d0 List.mem_cons_self
    simp only [segmentSums, List.mem_cons, List.not_mem_nil, or_false, forall_eq]
    omega
  | [], _ => simp [segmentSums]

/-- Decoding a `mappings` string never meets a segment with no fields, where the first field would
be missing. Wherever it reads a segment, the generated column it carries in is a 32-bit number and
the running source fields are checked: the source and name indices are 0 or listed, the source
line and column 32-bit numbers. A segment it cannot decode makes the whole string fail. Every
segment it reads, which is never empty, reads as at least one field or fails; every field has
magnitude at most `2 ^ 31 - 1`; and every sum the decoder forms with them lies between `-2 ^ 31`
and `2 ^ 33` plus the counts, so inside 64 bits whenever the counts, being lengths of lists held
in memory, are at most `2 ^ 62` together. -/
theorem decodeMappings_checked (text : String) (sc nc : Nat) :
    decodeMappings text sc nc ≠ .error (.invalidSegment 0) ∧
    ∀ line col run seg, Reaches text sc nc line col run seg →
      (0 ≤ col ∧ col < 2 ^ 32) ∧ run.Checked sc nc ∧
      (∀ e, decodeSegment sc nc line col run seg = .error e → decodeMappings text sc nc = .error e) ∧
      ∀ fields, Vlq.decode seg = .ok fields →
        fields ≠ [] ∧ (∀ d ∈ fields, d.natAbs ≤ 2 ^ 31 - 1) ∧
        ∀ s ∈ segmentSums col run fields, -(2 ^ 31) < s ∧ s < 2 ^ 33 + sc + nc ∧
          (sc + nc ≤ 2 ^ 62 → FitsInt64 s) := by
  refine ⟨decodeMappings_ne_invalidSegment_zero text sc nc, fun line col run seg h => ?_⟩
  have hinv := h.inv
  refine ⟨hinv.1, hinv.2, fun e he => h.error he, fun fields hd => ?_⟩
  obtain ⟨-, t, -, -, -, -, -, -, -, -, -, -, hne⟩ := h
  obtain ⟨hnil, hvals⟩ := Vlq.decode_values hne hd
  refine ⟨hnil, hvals, fun s hs => ?_⟩
  obtain ⟨hlo, hhi⟩ := segmentSums_bounds hinv.1 hinv.2 hvals s hs
  exact ⟨hlo, hhi, fun hcount => ⟨by omega, by omega⟩⟩


/-- In `AAAA,CAAC` over one source, `CAAC` is read after the first segment left every running
value at 0, as the fields `1, 0, 0, 1`, all within range. -/
theorem decodeMappings_checked_sample :
    Reaches "AAAA,CAAC" 1 0 0 0 {} "CAAC" ∧ ({} : Running).Checked 1 0 ∧
      Vlq.decode "CAAC" = .ok [1, 0, 0, 1] ∧
      ∀ s ∈ segmentSums 0 {} [1, 0, 0, 1], -(2 ^ 31) < s ∧ s < 2 ^ 33 + 1 + 0 := by
  have h : Reaches "AAAA,CAAC" 1 0 0 0 {} "CAAC" :=
    ⟨[], "AAAA,CAAC", [], {}, [], ["AAAA"], [], [⟨⟨0, 0⟩, some ⟨0, ⟨0, 0⟩, none⟩⟩],
      by cbv, rfl, by cbv, by cbv, by cbv⟩
  have hd : Vlq.decode "CAAC" = .ok [1, 0, 0, 1] := by cbv
  obtain ⟨-, hrun, -, hfields⟩ := (decodeMappings_checked "AAAA,CAAC" 1 0).2 _ _ _ _ h
  exact ⟨h, hrun, hd, fun s hs => ((hfields _ hd).2.2 s hs).imp_right And.left⟩

end CssBundle.SourceMap
