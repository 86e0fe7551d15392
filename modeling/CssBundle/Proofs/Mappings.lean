import Mathlib
import CssBundle.SourceMap.Document
import CssBundle.Proofs.Vlq

/-!
# Reading back the mappings string

The mappings string lists segments, lines apart by `;` and segments apart by `,`. Each field
of a segment is the difference to the same field before it: the generated column to the one
before it on the line, the source fields to those of the last segment with a source anywhere
before. This module follows the encoder mapping by mapping and keeps, as `EncodeInv`, the
fact that what it has written so far reads back line by line as the mappings written.

Main statement: `decodeMappings_encodeMappings`, mappings sorted by generated position whose
numbers are below `2 ^ 31` read back from their string.
-/

namespace CssBundle.LineColumn

theorem line_le_of_le {a b : LineColumn} (h : a.le b = true) : a.line ≤ b.line := by
  simp only [le, Bool.or_eq_true, decide_eq_true_eq, Bool.and_eq_true, beq_iff_eq] at h
  omega

theorem le_trans {a b c : LineColumn} (hab : a.le b = true) (hbc : b.le c = true) :
    a.le c = true := by
  simp only [le, Bool.or_eq_true, decide_eq_true_eq, Bool.and_eq_true, beq_iff_eq] at hab hbc ⊢
  omega

theorem le_total (a b : LineColumn) : (a.le b || b.le a) = true := by
  simp only [le, Bool.or_eq_true, decide_eq_true_eq, Bool.and_eq_true, beq_iff_eq]
  omega

end CssBundle.LineColumn

namespace CssBundle.SourceMap

/-- The running fields after a mapping: a mapping with an origin sets the source fields, and the
name field too when it has a name. -/
def Running.advance (run : Running) (m : Mapping) : Running :=
  match m.origin with
  | none => run
  | some o =>
    { source := o.source, line := o.position.line, column := o.position.column,
      name := match o.name with
        | some n => n
        | none => run.name }

/-- The fields a mapping is written with after the generated column `column` and the running
fields `run`: each is the difference to the value before it. -/
def fieldsOf (column : Int) (run : Running) (m : Mapping) : List Int :=
  (m.generated.column - column) :: match m.origin with
  | none => []
  | some o => (o.source - run.source) :: (o.position.line - run.line) ::
      (o.position.column - run.column) :: match o.name with
        | none => []
        | some n => [n - run.name]

def encodeRun (ms : List Mapping) : String × EncodeState :=
  ms.foldl (fun acc m => (acc.1 ++ (encodeOne acc.2 m).1, (encodeOne acc.2 m).2)) ("", {})

theorem encodeMappings_eq (ms : List Mapping) : encodeMappings ms = (encodeRun ms).1 := rfl

theorem encodeRun_concat (ms : List Mapping) (m : Mapping) :
    encodeRun (ms ++ [m]) =
      ((encodeRun ms).1 ++ (encodeOne (encodeRun ms).2 m).1, (encodeOne (encodeRun ms).2 m).2) := by
  simp [encodeRun, List.foldl_append]

theorem encodeOne_snd (st : EncodeState) (m : Mapping) :
    (encodeOne st m).2 =
      ({ line := max st.line m.generated.line, column := m.generated.column,
         run := st.run.advance m, fresh := false } : EncodeState) := by
  unfold encodeOne
  rcases h : m.origin with _ | o
  · simp [Running.advance, h]
  · rcases hn : o.name with _ | n <;> simp [Running.advance, h, hn]

theorem encodeOne_fst_of_line_eq {st : EncodeState} {m : Mapping} (h : m.generated.line ≤ st.line) :
    (encodeOne st m).1 =
      (if st.fresh then "" else ",") ++ Vlq.encodeAll (fieldsOf st.column st.run m) := by
  unfold encodeOne
  have hgap : m.generated.line - st.line = 0 := by omega
  rcases ho : m.origin with _ | o
  · simp [fieldsOf, ho, hgap, Vlq.encodeAll, String.join_cons]
  · rcases hn : o.name with _ | n <;>
      simp [fieldsOf, ho, hn, hgap, Vlq.encodeAll, String.join_cons, String.append_assoc]

theorem encodeOne_fst_of_lt {st : EncodeState} {m : Mapping} (h : st.line < m.generated.line) :
    (encodeOne st m).1 =
      String.ofList (List.replicate (m.generated.line - st.line) ';') ++
        Vlq.encodeAll (fieldsOf 0 st.run m) := by
  unfold encodeOne
  have hgap : 0 < m.generated.line - st.line := by omega
  rcases ho : m.origin with _ | o
  · simp [fieldsOf, ho, hgap, Vlq.encodeAll, String.join_cons]
  · rcases hn : o.name with _ | n <;>
      simp [fieldsOf, ho, hn, hgap, Vlq.encodeAll, String.join_cons, String.append_assoc]

/-- One step of reading a line: an empty segment is skipped, any other is decoded after the
previous generated column and the running fields. -/
def segmentStep (sc nc line : Nat) (s : Int × Running × List Mapping) (seg : String) :
    Except MapError (Int × Running × List Mapping) :=
  if seg.isEmpty then pure s
  else do
    let (m, col, run) ← decodeSegment sc nc line s.1 s.2.1 seg
    pure (col, run, m :: s.2.2)

/-- One step of reading the lines: the segments of a line are read from column 0 on, and the
line number moves on. -/
def lineStep (sc nc : Nat) (s : Nat × Running × List Mapping) (text : String) :
    Except MapError (Nat × Running × List Mapping) := do
  let (_, run, acc) ← (splitText text ',').foldlM (segmentStep sc nc s.1) (0, s.2.1, s.2.2)
  pure (s.1 + 1, run, acc)

theorem decodeLine_eq_foldlM (sc nc line : Nat) (segs : List String) (col : Int) (run : Running)
    (acc : List Mapping) :
    decodeLine sc nc line segs col run acc =
      (segs.foldlM (segmentStep sc nc line) (col, run, acc)).map fun s => (s.2.2, s.2.1) := by
  induction segs generalizing col run acc with
  | nil => rfl
  | cons seg segs ih =>
    by_cases he : seg.isEmpty
    · simp [decodeLine, segmentStep, he, ih]
    · rcases hd : decodeSegment sc nc line col run seg with e | ⟨m, col', run'⟩
      · simp [decodeLine, segmentStep, he, hd, bind, Except.bind, Except.map]
      · simp [decodeLine, segmentStep, he, hd, bind, Except.bind, pure, Except.pure, ih]

theorem decodeLines_eq_foldlM (sc nc line : Nat) (texts : List String) (run : Running)
    (acc : List Mapping) :
    decodeLines sc nc line texts run acc =
      (texts.foldlM (lineStep sc nc) (line, run, acc)).map fun s => s.2.2.reverse := by
  induction texts generalizing line run acc with
  | nil => rfl
  | cons text texts ih =>
    rw [decodeLines, decodeLine_eq_foldlM, List.foldlM_cons, lineStep]
    rcases hl : (splitText text ',').foldlM (segmentStep sc nc line) (0, run, acc) with
      e | ⟨col', run', acc'⟩
    · simp [bind, Except.bind, Except.map]
    · simp [bind, Except.bind, Except.map, pure, Except.pure, ih]

theorem splitOn_append_of_not_mem {a : Char} {ys : List Char} (hy : a ∉ ys) (xs : List Char) :
    ∀ {init : List (List Char)} {last : List Char}, xs.splitOn a = init ++ [last] →
      (xs ++ ys).splitOn a = init ++ [last ++ ys] := by
  induction xs with
  | nil =>
    intro init last hx
    obtain ⟨rfl, h2⟩ := List.append_inj' (show [] ++ [[]] = init ++ [last] from hx) (by simp)
    cases h2
    simpa using List.splitOn_eq_singleton hy
  | cons x xs ih =>
    intro init last hx
    obtain ⟨init0, last0, h0⟩ : ∃ init0 last0, xs.splitOn a = init0 ++ [last0] :=
      ⟨_, _, (List.dropLast_concat_getLast (List.splitOn_ne_nil a xs)).symm⟩
    rw [List.splitOn_cons_eq_if_modifyHead, h0] at hx
    rw [List.cons_append, List.splitOn_cons_eq_if_modifyHead, ih h0]
    by_cases hxa : x == a
    · rw [if_pos hxa] at hx ⊢
      obtain ⟨rfl, h2⟩ :=
        List.append_inj' (show ([] :: init0) ++ [last0] = init ++ [last] from hx) (by simp)
      cases h2
      rfl
    · rw [if_neg hxa] at hx ⊢
      cases init0 with
      | nil =>
        obtain ⟨rfl, h2⟩ :=
          List.append_inj' (show [] ++ [x :: last0] = init ++ [last] from hx) (by simp)
        cases h2
        rfl
      | cons i is =>
        obtain ⟨rfl, h2⟩ :=
          List.append_inj' (show ((x :: i) :: is) ++ [last0] = init ++ [last] from hx) (by simp)
        cases h2
        rfl

theorem splitOn_replicate_append (a : Char) (k : Nat) (ys : List Char) :
    (List.replicate k a ++ ys).splitOn a = List.replicate k [] ++ ys.splitOn a := by
  induction k with
  | zero => rfl
  | succ k ih =>
    rw [List.replicate_succ, List.cons_append, List.splitOn_cons_eq_if_modifyHead, if_pos (by simp), ih]
    rfl

theorem toList_splitText (s : String) (c : Char) :
    (splitText s c).map String.toList = s.toList.splitOn c := by
  simp [splitText]

theorem splitText_append_of_not_mem {s t : String} {c : Char} {init : List String} {last : String}
    (h : splitText s c = init ++ [last]) (hc : c ∉ t.toList) :
    splitText (s ++ t) c = init ++ [last ++ t] := by
  have hs : s.toList.splitOn c = init.map String.toList ++ [last.toList] := by
    rw [← toList_splitText, h, List.map_append, List.map_singleton]
  simp [splitText, String.toList_append, splitOn_append_of_not_mem hc _ hs]

/-- The running fields fit when each lies in `[0, 2 ^ 31)`. -/
structure Running.Fits (run : Running) : Prop where
  source : 0 ≤ run.source ∧ run.source < 2 ^ 31
  line : 0 ≤ run.line ∧ run.line < 2 ^ 31
  column : 0 ≤ run.column ∧ run.column < 2 ^ 31
  name : 0 ≤ run.name ∧ run.name < 2 ^ 31

/-- A mapping fits a map of `sc` sources and `nc` names: its indices are listed and its
positions are 32-bit numbers. -/
structure Mapping.InRange (sc nc : Nat) (x : Mapping) : Prop where
  line : x.generated.line < 2 ^ 32
  column : x.generated.column < 2 ^ 32
  origin : ∀ o, x.origin = some o →
    o.source < sc ∧ o.position.line < 2 ^ 32 ∧ o.position.column < 2 ^ 32 ∧
      ∀ n, o.name = some n → n < nc

/-- A mapping whose generated column, source and name indices and source position are all
below `2 ^ 31`, so that its difference to any other such mapping has a VLQ. -/
structure Mapping.Small (x : Mapping) : Prop where
  column : x.generated.column < 2 ^ 31
  origin : ∀ o, x.origin = some o →
    o.source < 2 ^ 31 ∧ o.position.line < 2 ^ 31 ∧ o.position.column < 2 ^ 31 ∧
      ∀ n, o.name = some n → n < 2 ^ 31

theorem Running.Fits.advance {run : Running} (h : run.Fits) {m : Mapping} (hs : m.Small) :
    (run.advance m).Fits := by
  rcases ho : m.origin with _ | o
  · simpa [Running.advance, ho] using h
  · obtain ⟨hsrc, hl, hc, hn⟩ := hs.origin o ho
    rcases hno : o.name with _ | n
    · exact ⟨by simp [Running.advance, ho]; omega, by simp [Running.advance, ho]; omega,
        by simp [Running.advance, ho]; omega, by simpa [Running.advance, ho, hno] using h.name⟩
    · have := hn n hno
      exact ⟨by simp [Running.advance, ho]; omega, by simp [Running.advance, ho]; omega,
        by simp [Running.advance, ho]; omega, by simp [Running.advance, ho, hno]; omega⟩

@[simp] theorem add_sub_running (run v : Int) : run + (v - run) = v := by omega

theorem size_u32 : (UInt32.size : Int) = 2 ^ 32 := rfl

theorem checkU32_natCast {n : Nat} (h : n < 2 ^ 32) (what : Coordinate) :
    checkU32 (n : Int) what = .ok n := by
  unfold checkU32
  rw [size_u32, if_neg (by omega), if_neg (by omega)]
  rfl

theorem natAbs_fieldsOf {col : Int} (hcol : 0 ≤ col ∧ col < 2 ^ 31) {run : Running}
    (hrun : run.Fits) {m : Mapping} (hs : m.Small) : ∀ v ∈ fieldsOf col run m, v.natAbs < 2 ^ 31 := by
  have hc := hs.column
  obtain ⟨⟨hs0, hs1⟩, ⟨hl0, hl1⟩, ⟨hc0, hc1⟩, ⟨hn0, hn1⟩⟩ := hrun
  rcases ho : m.origin with _ | o
  · simp [fieldsOf, ho]
    omega
  · obtain ⟨hsrc, hl, hcl, hn⟩ := hs.origin o ho
    rcases hno : o.name with _ | n
    · simp [fieldsOf, ho, hno]
      omega
    · have := hn n hno
      simp [fieldsOf, ho, hno]
      omega

/-- A mapping's segment reads back as the mapping, with its column and the running fields it
leaves, when it is read after the column and running fields it was written after. -/
theorem decodeSegment_fieldsOf {sc nc : Nat} {m : Mapping} (hr : m.InRange sc nc) (hs : m.Small)
    {col : Int} (hcol : 0 ≤ col ∧ col < 2 ^ 31) {run : Running} (hrun : run.Fits) :
    decodeSegment sc nc m.generated.line col run (Vlq.encodeAll (fieldsOf col run m)) =
      .ok (m, m.generated.column, run.advance m) := by
  rw [decodeSegment, Vlq.decode_encodeAll (natAbs_fieldsOf hcol hrun hs)]
  have hgl := checkU32_natCast hr.line
  have hgc := checkU32_natCast hr.column
  rcases m with ⟨⟨gl, gc⟩, _ | ⟨src, ⟨pl, pc⟩, _ | n⟩⟩
  · simp [fieldsOf, hgl, hgc, bind, Except.bind, pure, Except.pure, Running.advance]
  · obtain ⟨hsrc, hl, hcl, -⟩ := hr.origin _ rfl
    simp [fieldsOf, hgl, hgc, bind, Except.bind, pure, Except.pure, Running.advance,
      checkU32_natCast hl, checkU32_natCast hcl, Nat.not_le.mpr hsrc]
  · obtain ⟨hsrc, hl, hcl, hn⟩ := hr.origin _ rfl
    have hsrc0 : ¬ (src : Int) < 0 := by omega
    have hn0 : ¬ (n : Int) < 0 := by omega
    simp [fieldsOf, hgl, hgc, bind, Except.bind, pure, Except.pure, Running.advance,
      checkU32_natCast hl, checkU32_natCast hcl, Nat.not_le.mpr hsrc, Nat.not_le.mpr (hn n rfl),
      hsrc0, hn0]

theorem splitText_of_not_mem {t : String} {c : Char} (h : c ∉ t.toList) : splitText t c = [t] := by
  simp [splitText, List.splitOn_eq_singleton h]

theorem splitText_append_sep {s sep t : String} {c : Char} (hsep : sep.toList = [c])
    (h : c ∉ t.toList) : splitText (s ++ (sep ++ t)) c = splitText s c ++ [t] := by
  simp [splitText, String.toList_append, hsep, List.splitOn_append_cons_self,
    List.splitOn_eq_singleton h]

theorem splitText_append_breaks (s t : String) (k : Nat) (h : ';' ∉ t.toList) :
    splitText (s ++ (String.ofList (List.replicate (k + 1) ';') ++ t)) ';' =
      splitText s ';' ++ List.replicate k "" ++ [t] := by
  simp only [splitText, String.toList_append, String.toList_ofList, List.replicate_succ,
    List.cons_append, List.splitOn_append_cons_self, splitOn_replicate_append,
    List.splitOn_eq_singleton h, List.map_append, List.map_replicate]
  simp

theorem separators_not_mem_encodeAll (vs : List Int) :
    ';' ∉ (Vlq.encodeAll vs).toList ∧ ',' ∉ (Vlq.encodeAll vs).toList := by
  constructor <;> intro h <;> exact absurd (Vlq.digitOf_encodeAll vs _ h) (by decide)

theorem lineStep_empty (sc nc l : Nat) (run : Running) (acc : List Mapping) :
    lineStep sc nc (l, run, acc) "" = .ok (l + 1, run, acc) := rfl

theorem foldlM_lineStep_replicate (sc nc : Nat) (k : Nat) :
    ∀ (l : Nat) (run : Running) (acc : List Mapping),
      (List.replicate k "").foldlM (lineStep sc nc) (l, run, acc) = .ok (l + k, run, acc) := by
  induction k with
  | zero => intro l run acc; rfl
  | succ k ih =>
    intro l run acc
    rw [List.replicate_succ, List.foldlM_cons, lineStep_empty]
    simp only [bind, Except.bind]
    rw [ih]
    congr 2
    omega

theorem segmentStep_fieldsOf {sc nc : Nat} {m : Mapping} (hr : m.InRange sc nc) (hs : m.Small)
    {col : Int} (hcol : 0 ≤ col ∧ col < 2 ^ 31) {run : Running} (hrun : run.Fits)
    (acc : List Mapping) :
    segmentStep sc nc m.generated.line (col, run, acc) (Vlq.encodeAll (fieldsOf col run m)) =
      .ok (m.generated.column, run.advance m, m :: acc) := by
  have hne : (Vlq.encodeAll (fieldsOf col run m)).isEmpty = false := by
    rw [fieldsOf]
    simpa using Vlq.encodeAll_cons_ne_empty _ _
  simp [segmentStep, hne, decodeSegment_fieldsOf hr hs hcol hrun, bind, Except.bind, pure,
    Except.pure]

/-- What the encoder keeps true while it writes mappings `ms`, with `text` written so far and
state `st`. Decoding `text` line by line ends on the encoder's line, and reading the segments
of that last line gives back the mappings written, with the encoder's column and running
fields. The encoder's numbers stay in the range the next segment's differences need. -/
structure EncodeInv (sc nc : Nat) (ms : List Mapping) (text : String) (st : EncodeState) :
    Prop where
  decodes : ∃ init last run0 acc0, splitText text ';' = init ++ [last] ∧
    init.foldlM (lineStep sc nc) (0, {}, []) = .ok (st.line, run0, acc0) ∧
    (splitText last ',').foldlM (segmentStep sc nc st.line) (0, run0, acc0) =
      .ok (st.column, st.run, ms.reverse)
  run : st.run.Fits
  column : 0 ≤ st.column ∧ st.column < 2 ^ 31
  line : ∀ L, (∀ x ∈ ms, x.generated.line ≤ L) → st.line ≤ L
  fresh : st.fresh = true → text = "" ∧ st = {} ∧ ms = []

theorem encodeInv_nil (sc nc : Nat) : EncodeInv sc nc [] "" {} where
  decodes := ⟨[], "", {}, [], rfl, rfl, rfl⟩
  run := ⟨by decide, by decide, by decide, by decide⟩
  column := by decide
  line := fun L _ => Nat.zero_le L
  fresh := fun _ => ⟨rfl, rfl, rfl⟩

theorem EncodeInv.step {sc nc : Nat} {ms : List Mapping} {text : String} {st : EncodeState}
    (h : EncodeInv sc nc ms text st) {m : Mapping} (hr : m.InRange sc nc) (hs : m.Small)
    (hline : st.line ≤ m.generated.line) :
    EncodeInv sc nc (ms ++ [m]) (text ++ (encodeOne st m).1) (encodeOne st m).2 := by
  obtain ⟨init, last, run0, acc0, hsplit, hinit, hlast⟩ := h.decodes
  have hsep := separators_not_mem_encodeAll
  rw [encodeOne_snd]
  refine ⟨?_, h.run.advance hs, ⟨by simp, by have := hs.column; dsimp only; omega⟩, ?_, by simp⟩
  · by_cases hgap : st.line < m.generated.line
    · obtain ⟨k, hk⟩ : ∃ k, m.generated.line - st.line = k + 1 := ⟨_, (Nat.sub_add_cancel (by omega)).symm⟩
      have hmax : max st.line m.generated.line = m.generated.line := by omega
      rw [encodeOne_fst_of_lt hgap, hk, splitText_append_breaks _ _ _ (hsep _).1, hsplit, hmax]
      refine ⟨init ++ [last] ++ List.replicate k "", _, st.run, ms.reverse, rfl, ?_, ?_⟩
      · rw [List.foldlM_append, List.foldlM_append, hinit]
        simp only [bind, Except.bind, List.foldlM_cons, List.foldlM_nil, lineStep, hlast, pure,
          Except.pure, foldlM_lineStep_replicate]
        congr 2
        omega
      · rw [splitText_of_not_mem (hsep _).2, List.foldlM_cons]
        dsimp only
        rw [segmentStep_fieldsOf hr hs (by decide) h.run]
        simp [bind, Except.bind, pure, Except.pure]
    · have hl : m.generated.line = st.line := by omega
      have hmax : max st.line m.generated.line = st.line := by omega
      rw [encodeOne_fst_of_line_eq (by omega), hmax]
      by_cases hf : st.fresh
      · obtain ⟨rfl, rfl, rfl⟩ := h.fresh hf
        refine ⟨[], Vlq.encodeAll (fieldsOf 0 {} m), {}, [], ?_, rfl, ?_⟩
        · simp [splitText_of_not_mem (hsep _).1]
        · rw [splitText_of_not_mem (hsep _).2, List.foldlM_cons, ← hl]
          dsimp only
          rw [segmentStep_fieldsOf hr hs (by decide) h.run]
          simp [bind, Except.bind, pure, Except.pure]
      · have hcomma : ",".toList = [','] := rfl
        simp only [Bool.not_eq_true] at hf
        simp only [hf, Bool.false_eq_true, if_false]
        refine ⟨init, last ++ ("," ++ Vlq.encodeAll (fieldsOf st.column st.run m)), run0, acc0, ?_,
          hinit, ?_⟩
        · refine splitText_append_of_not_mem hsplit ?_
          simp [String.toList_append, hcomma, (hsep _).1]
        · rw [splitText_append_sep hcomma (hsep _).2, List.foldlM_append, hlast, ← hl]
          simp only [bind, Except.bind, List.foldlM_cons, List.foldlM_nil]
          rw [segmentStep_fieldsOf hr hs h.column h.run]
          simp [pure, Except.pure]
  · intro L hL
    have := hL m (by simp)
    have := h.line L (fun x hx => hL x (by simp [hx]))
    simp only
    omega

theorem encodeInv_encodeRun (sc nc : Nat) (ms : List Mapping)
    (hsorted : ms.Pairwise fun a b => a.generated.line ≤ b.generated.line)
    (hr : ∀ x ∈ ms, x.InRange sc nc) (hs : ∀ x ∈ ms, x.Small) :
    EncodeInv sc nc ms (encodeRun ms).1 (encodeRun ms).2 := by
  induction ms using List.reverseRecOn with
  | nil => exact encodeInv_nil sc nc
  | append_singleton ms m ih =>
    rw [List.pairwise_append] at hsorted
    have h := ih hsorted.1 (fun x hx => hr x (by simp [hx])) (fun x hx => hs x (by simp [hx]))
    rw [encodeRun_concat]
    exact h.step (hr m (by simp)) (hs m (by simp))
      (h.line _ fun x hx => hsorted.2.2 x hx m (by simp))

theorem EncodeInv.decodeMappings_eq {sc nc : Nat} {ms : List Mapping} {text : String}
    {st : EncodeState} (h : EncodeInv sc nc ms text st) : decodeMappings text sc nc = .ok ms := by
  obtain ⟨init, last, run0, acc0, hsplit, hinit, hlast⟩ := h.decodes
  rw [decodeMappings, decodeLines_eq_foldlM, hsplit, List.foldlM_append, hinit]
  simp [bind, Except.bind, lineStep, hlast, pure, Except.pure, Except.map]

/-- Mappings sorted by generated position, whose indices are listed and whose numbers are below
`2 ^ 31`, read back from the `mappings` string they are written as. -/
theorem decodeMappings_encodeMappings {sc nc : Nat} {ms : List Mapping}
    (hsorted : ms.Pairwise fun a b => a.generated.le b.generated)
    (hr : ∀ x ∈ ms, x.InRange sc nc) (hs : ∀ x ∈ ms, x.Small) :
    decodeMappings (encodeMappings ms) sc nc = .ok ms := by
  rw [encodeMappings_eq]
  exact (encodeInv_encodeRun sc nc ms (hsorted.imp LineColumn.line_le_of_le) hr hs).decodeMappings_eq

end CssBundle.SourceMap
