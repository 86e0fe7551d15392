import CssBundle.SourceMap.Builder
import CssBundle.Proofs.Mappings

/-!
# Writing a source map and reading it back

A map written as JSON reads back as itself when it keeps the map invariant (`WellFormed`: its
mappings sorted by generated position, one content slot per source, every index listed, every
position a 32-bit number, and no empty source root) and, beyond that, every number its mappings
string carries as a difference is below `2 ^ 31` (`Mapping.Small`). The second condition is
needed: the decoder takes VLQs of 32-bit signed values only, while positions may use all 32 bits,
so a well-formed map with an original line of `2 ^ 32 - 1` writes a VLQ it cannot read back.

Main statements: `ofWritten_toWritten`, reading back the written form, and `ofJson_toJson`, the
same through JSON text for a JSON layer that reads back what it writes.
-/

namespace CssBundle.SourceMap

open Json


/-- The map invariant: what every map this library reads or builds keeps. -/
structure WellFormed (m : SourceMap) : Prop where
  sorted : m.mappings.Pairwise fun a b => a.generated.le b.generated
  contents_length : m.contents.length = m.sources.length
  inRange : ∀ x ∈ m.mappings, x.InRange m.sources.length m.names.length
  sourceRoot : m.sourceRoot ≠ some ""

theorem sorted_sortMappings (ms : List Mapping) :
    (sortMappings ms).Pairwise fun a b => a.generated.le b.generated :=
  @List.pairwise_mergeSort _ (fun a b => a.generated.le b.generated)
    (fun _ _ _ => LineColumn.le_trans) (fun a b => LineColumn.le_total a.generated b.generated) ms

theorem mem_sortMappings {x : Mapping} {ms : List Mapping} : x ∈ sortMappings ms ↔ x ∈ ms :=
  (List.mergeSort_perm ms _).mem_iff

/-- A builder whose mappings name listed sources and 32-bit positions builds a well-formed
map. -/
theorem Builder.wellFormed_build {b : Builder} (hc : b.contents.length = b.sources.length)
    (hr : ∀ x ∈ b.mappings.toList, x.InRange b.sources.length 0) : b.build.WellFormed where
  sorted := sorted_sortMappings _
  contents_length := hc
  inRange := fun x hx => hr x (mem_sortMappings.mp hx)
  sourceRoot := nofun

theorem filter_sourceRoot {root : Option String} (h : root ≠ some "") :
    root.filter (· ≠ "") = root := by
  cases root with
  | none => rfl
  | some r =>
    have hr : r ≠ "" := fun e => h (e ▸ rfl)
    simp [Option.filter_some, hr]

theorem fitTo_contents {contents : List (Option String)} {n : Nat} (h : contents.length = n) :
    fitTo ((if contents.any Option.isSome then some contents else none).getD []) n none =
      contents := by
  by_cases hany : contents.any Option.isSome
  · simp [hany, fitTo, ← h]
  · have hnone : ∀ c ∈ contents, c = none := by
      simpa using hany
    simp only [hany, Bool.false_eq_true, if_false, Option.getD_none, fitTo, List.take_nil,
      List.length_nil, Nat.sub_zero, List.nil_append]
    exact (List.eq_replicate_iff.mpr ⟨h, hnone⟩).symm

theorem ofWritten_toWritten {m : SourceMap} (hm : m.WellFormed)
    (hs : ∀ x ∈ m.mappings, x.Small) : SourceMap.ofWritten m.toWritten = .ok m := by
  have hdec : decodeMappings (encodeMappings m.mappings) m.sources.length m.names.length =
      .ok m.mappings :=
    decodeMappings_encodeMappings hm.sorted hm.inRange hs
  have hsort : sortMappings m.mappings = m.mappings := List.mergeSort_of_pairwise hm.sorted
  simp only [SourceMap.ofWritten, SourceMap.toWritten, hdec, ne_eq, not_true_eq_false,
    if_false, bind, Except.bind, pure, Except.pure, hsort, filter_sourceRoot hm.sourceRoot,
    fitTo_contents hm.contents_length]

/-- A well-formed map whose mappings are small reads back from its JSON text, when the JSON
layer reads back the written form it printed. -/
theorem ofJson_toJson {m : SourceMap} (hm : m.WellFormed) (hs : ∀ x ∈ m.mappings, x.Small)
    (hjson : decodeText (readWritten true) m.toJson = .ok m.toWritten) :
    SourceMap.ofJson m.toJson = .ok m := by
  rw [SourceMap.ofJson, hjson]
  exact ofWritten_toWritten hm hs

section Read

theorem foldlM_except_invariant {α β ε : Type} (P : α → Prop) {f : α → β → Except ε α}
    (hf : ∀ a b a', P a → f a b = .ok a' → P a') :
    ∀ (l : List β) (a r : α), P a → l.foldlM f a = .ok r → P r := by
  intro l
  induction l with
  | nil => intro a r ha h; cases h; exact ha
  | cons b l ih =>
    intro a r ha h
    rw [List.foldlM_cons] at h
    cases hb : f a b with
    | error e => simp [hb, bind, Except.bind] at h
    | ok a' =>
      simp only [hb, bind, Except.bind] at h
      exact ih a' r (hf a b a' ha hb) h

theorem checkU32_eq_ok {v : Int} {what : Coordinate} {n : Nat} :
    checkU32 v what = .ok n ↔ 0 ≤ v ∧ v < 2 ^ 32 ∧ (n : Int) = v := by
  unfold checkU32
  rw [size_u32]
  split
  · simp only [reduceCtorEq, false_iff]
    omega
  · split
    · simp only [reduceCtorEq, false_iff]
      omega
    · rw [Except.ok.injEq]
      omega

theorem lt_of_checkU32 {v : Int} {what : Coordinate} {n : Nat} (h : checkU32 v what = .ok n) :
    n < 2 ^ 32 := by
  obtain ⟨-, hlt, hn⟩ := checkU32_eq_ok.mp h
  omega

/-- What a decoded segment is. Its generated line, and its generated column moved by the first
field, pass `checkU32`. A segment of one field has no origin and leaves the running fields as they
were; one of four or five fields moves the source index into range and the source position to
values that pass `checkU32`, and either keeps the name index and names nothing, or, with five,
moves the name index into range and names it. -/
theorem decodeSegment_ok {sc nc line : Nat} {col : Int} {run : Running} {seg : String}
    {x : Mapping} {col' : Int} {run' : Running}
    (h : decodeSegment sc nc line col run seg = .ok (x, col', run')) :
    ∃ gl gc, checkU32 line .generatedLine = .ok gl ∧ checkU32 col' .generatedColumn = .ok gc ∧
      x.generated = ⟨gl, gc⟩ ∧
      ((x.origin = none ∧ run' = run) ∨
        ∃ pl pc, 0 ≤ run'.source ∧ run'.source < sc ∧
          checkU32 run'.line .sourceLine = .ok pl ∧ checkU32 run'.column .sourceColumn = .ok pc ∧
          ((run'.name = run.name ∧ x.origin = some ⟨run'.source.toNat, ⟨pl, pc⟩, none⟩) ∨
            (0 ≤ run'.name ∧ run'.name < nc ∧
              x.origin = some ⟨run'.source.toNat, ⟨pl, pc⟩, some run'.name.toNat⟩))) := by
  unfold decodeSegment at h
  rcases hd : Vlq.decode seg with e | fields
  · simp [hd, bind, Except.bind] at h
  rcases fields with _ | ⟨d0, rest⟩
  · simp [hd, bind, Except.bind, throw, throwThe, MonadExceptOf.throw] at h
  rcases hl : checkU32 (line : Int) .generatedLine with e | gl
  · simp [hd, hl, bind, Except.bind] at h
  rcases hc : checkU32 (col + d0) .generatedColumn with e | gc
  · simp [hd, hl, hc, bind, Except.bind] at h
  simp only [hd, hl, hc, bind, Except.bind] at h
  rcases rest with _ | ⟨d1, _ | ⟨d2, _ | ⟨d3, _ | ⟨d4, _ | ⟨d5, rest⟩⟩⟩⟩⟩
  · simp only [pure, Except.pure, Except.ok.injEq, Prod.mk.injEq] at h
    obtain ⟨rfl, rfl, rfl⟩ := h
    exact ⟨gl, gc, rfl, hc, rfl, .inl ⟨rfl, rfl⟩⟩
  · simp [throw, throwThe, MonadExceptOf.throw] at h
  · simp [throw, throwThe, MonadExceptOf.throw] at h
  · simp only at h
    split at h
    · simp [throw, throwThe, MonadExceptOf.throw] at h
    · next hsrc =>
      rcases hsl : checkU32 (run.line + d2) .sourceLine with e | pl <;> simp only [hsl] at h
      · cases h
      rcases hsc : checkU32 (run.column + d3) .sourceColumn with e | pc <;> simp only [hsc] at h
      · cases h
      simp only [pure, Except.pure, Except.ok.injEq, Prod.mk.injEq] at h
      obtain ⟨rfl, rfl, rfl⟩ := h
      exact ⟨gl, gc, rfl, hc, rfl,
        .inr ⟨pl, pc, by dsimp only; omega, by dsimp only; omega, hsl, hsc, .inl ⟨rfl, rfl⟩⟩⟩
  · simp only at h
    split at h
    · simp [throw, throwThe, MonadExceptOf.throw] at h
    · next hsrc =>
      rcases hsl : checkU32 (run.line + d2) .sourceLine with e | pl <;> simp only [hsl] at h
      · cases h
      rcases hsc : checkU32 (run.column + d3) .sourceColumn with e | pc <;> simp only [hsc] at h
      · cases h
      split at h
      · simp [throw, throwThe, MonadExceptOf.throw] at h
      · next hname =>
        simp only [pure, Except.pure, Except.ok.injEq, Prod.mk.injEq] at h
        obtain ⟨rfl, rfl, rfl⟩ := h
        exact ⟨gl, gc, rfl, hc, rfl, .inr ⟨pl, pc, by dsimp only; omega, by dsimp only; omega,
          hsl, hsc, .inr ⟨by dsimp only; omega, by dsimp only; omega, rfl⟩⟩⟩
  · simp [throw, throwThe, MonadExceptOf.throw] at h

theorem inRange_of_decodeSegment {sc nc line : Nat} {col : Int} {run : Running} {seg : String}
    {x : Mapping} {col' : Int} {run' : Running}
    (h : decodeSegment sc nc line col run seg = .ok (x, col', run')) : x.InRange sc nc := by
  obtain ⟨gl, gc, hgl, hgc, hgen, ⟨hnone, -⟩ | ⟨pl, pc, hs0, hs, hpl, hpc, hname⟩⟩ :=
    decodeSegment_ok h
  · refine ⟨by rw [hgen]; exact lt_of_checkU32 hgl, by rw [hgen]; exact lt_of_checkU32 hgc,
      fun o ho => ?_⟩
    rw [hnone] at ho
    cases ho
  · refine ⟨by rw [hgen]; exact lt_of_checkU32 hgl, by rw [hgen]; exact lt_of_checkU32 hgc,
      fun o ho => ?_⟩
    have hsrc : run'.source.toNat < sc := by omega
    rcases hname with ⟨-, hx⟩ | ⟨hn0, hn, hx⟩ <;> rw [hx] at ho <;> cases ho
    · exact ⟨hsrc, lt_of_checkU32 hpl, lt_of_checkU32 hpc, nofun⟩
    · refine ⟨hsrc, lt_of_checkU32 hpl, lt_of_checkU32 hpc, fun n hn' => ?_⟩
      cases hn'
      omega

theorem segmentStep_inRange {sc nc line : Nat} {s s' : Int × Running × List Mapping} {seg : String}
    (hs : ∀ x ∈ s.2.2, x.InRange sc nc) (h : segmentStep sc nc line s seg = .ok s') :
    ∀ x ∈ s'.2.2, x.InRange sc nc := by
  unfold segmentStep at h
  split at h
  · cases h
    exact hs
  · rcases hd : decodeSegment sc nc line s.1 s.2.1 seg with e | ⟨x, col, run⟩ <;>
      simp only [hd, bind, Except.bind] at h
    · cases h
    · cases h
      intro y hy
      rcases List.mem_cons.mp hy with rfl | hy
      · exact inRange_of_decodeSegment hd
      · exact hs y hy

theorem lineStep_inRange {sc nc : Nat} {s s' : Nat × Running × List Mapping} {text : String}
    (hs : ∀ x ∈ s.2.2, x.InRange sc nc) (h : lineStep sc nc s text = .ok s') :
    ∀ x ∈ s'.2.2, x.InRange sc nc := by
  unfold lineStep at h
  rcases hf : (splitText text ',').foldlM (segmentStep sc nc s.1) (0, s.2.1, s.2.2) with
    e | ⟨col, run, acc⟩ <;> simp only [hf, bind, Except.bind] at h
  · cases h
  · cases h
    exact foldlM_except_invariant (fun t : Int × Running × List Mapping => ∀ x ∈ t.2.2, x.InRange sc nc)
      (fun _ _ _ ht h => segmentStep_inRange ht h) _ _ _ hs hf

theorem inRange_of_decodeMappings {text : String} {sc nc : Nat} {ms : List Mapping}
    (h : decodeMappings text sc nc = .ok ms) : ∀ x ∈ ms, x.InRange sc nc := by
  rw [decodeMappings, decodeLines_eq_foldlM] at h
  rcases hf : (splitText text ';').foldlM (lineStep sc nc) (0, {}, []) with e | ⟨line, run, acc⟩ <;>
    simp only [hf, Except.map] at h
  · cases h
  · cases h
    have hacc := foldlM_except_invariant (fun t : Nat × Running × List Mapping => ∀ x ∈ t.2.2, x.InRange sc nc)
      (fun _ _ _ ht h => lineStep_inRange ht h) _ _ _ (by simp) hf
    intro x hx
    exact hacc x (List.mem_reverse.mp hx)

theorem length_fitTo {α : Type} (xs : List α) (n : Nat) (filler : α) :
    (fitTo xs n filler).length = n := by
  simp only [fitTo, List.length_append, List.length_take, List.length_replicate]
  omega

theorem wellFormed_of_ofWritten {w : Written} {m : SourceMap} (h : SourceMap.ofWritten w = .ok m) :
    m.WellFormed := by
  unfold SourceMap.ofWritten at h
  split at h
  · cases h
  · rcases hd : decodeMappings w.mappings w.sources.length w.names.length with e | ms <;>
      simp only [hd, bind, Except.bind] at h
    · cases h
    · cases h
      exact ⟨sorted_sortMappings ms, length_fitTo _ _ _,
        fun x hx => inRange_of_decodeMappings hd x (mem_sortMappings.mp hx), by simp⟩

theorem wellFormed_of_ofJson {text : String} {m : SourceMap} (h : SourceMap.ofJson text = .ok m) :
    m.WellFormed := by
  unfold SourceMap.ofJson at h
  split at h
  · cases h
  · exact wellFormed_of_ofWritten h

end Read

set_option maxRecDepth 20000 in
/-- A map with two mappings at one generated position, an unmapped segment, an empty line, and
a name carried past a segment without one is read back as written. -/
theorem ofJson_toJson_sample :
    let m : SourceMap :=
      { file := none, sourceRoot := none, sources := ["a", "b"], contents := [some "x", none],
        names := ["n"],
        mappings := [⟨⟨0, 0⟩, some ⟨0, ⟨0, 0⟩, some 0⟩⟩, ⟨⟨0, 0⟩, some ⟨1, ⟨3, 1⟩, none⟩⟩,
          ⟨⟨0, 4⟩, none⟩, ⟨⟨2, 1⟩, some ⟨0, ⟨1, 2⟩, some 0⟩⟩] }
    m.WellFormed ∧ (∀ x ∈ m.mappings, x.Small) ∧
      decodeText (readWritten true) m.toJson = .ok m.toWritten ∧ SourceMap.ofJson m.toJson = .ok m := by
  intro m
  have hm : m.WellFormed := by
    refine ⟨by decide, rfl, ?_, by decide⟩
    intro x hx
    simp only [m, List.mem_cons, List.not_mem_nil, or_false] at hx
    rcases hx with rfl | rfl | rfl | rfl <;> exact ⟨by decide, by decide, by simp [m]⟩
  have hs : ∀ x ∈ m.mappings, x.Small := by
    intro x hx
    simp only [m, List.mem_cons, List.not_mem_nil, or_false] at hx
    rcases hx with rfl | rfl | rfl | rfl <;> exact ⟨by decide, by simp⟩
  have hj : decodeText (readWritten true) m.toJson = .ok m.toWritten := by
    cbv
  exact ⟨hm, hs, hj, ofJson_toJson hm hs hj⟩

set_option maxRecDepth 20000 in
/-- A well-formed map, built with one source and no names, whose JSON text the JSON layer reads
back but whose mappings string does not decode: the original line `2 ^ 32 - 1` after the line
`0` is a difference whose VLQ is past 32 bits. -/
theorem ofJson_toJson_wide_line :
    let m := ((((Builder.empty none).addSource "a").1.addMapping
      ⟨⟨0, 0⟩, some ⟨0, ⟨0, 0⟩, none⟩⟩).addMapping ⟨⟨0, 1⟩, some ⟨0, ⟨2 ^ 32 - 1, 0⟩, none⟩⟩).build
    m.WellFormed ∧ decodeText (readWritten true) m.toJson = .ok m.toWritten ∧
      SourceMap.ofJson m.toJson = .error .vlqOverflow := by
  intro m
  have hj : decodeText (readWritten true) m.toJson = .ok m.toWritten := by
    cbv
  refine ⟨Builder.wellFormed_build rfl ?_, hj, ?_⟩
  · intro x hx
    simp only [Builder.addMapping, Builder.mappings_addSource, Builder.empty,
      Array.toList_push, List.mem_append, List.mem_singleton, List.nil_append] at hx
    rcases hx with rfl | rfl <;>
      exact ⟨by decide, by decide, by simp [Builder.addMapping, Builder.sources_addSource, Builder.empty]⟩
  · rw [SourceMap.ofJson, hj]
    cbv

end CssBundle.SourceMap
