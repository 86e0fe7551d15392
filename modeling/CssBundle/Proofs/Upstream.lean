import CssBundle.Bundle.Compose
import CssBundle.Proofs.Compose
import CssBundle.Proofs.MapRoundTrip

/-!
# Tracing the merged output through the input files' own maps

Printing the merged stylesheet records a map from the output to the input files (`mergeMap`).
Composing then takes the sources of that map one by one and traces every mapping that points
into a source through the map that source's file came with (`upstreamMap`), when it reads.

Tracing is by source name, so a mapping already traced into one file can be traced again when
that file comes later and has a map of its own. When no upstream map leads into another source
that has one (`UpstreamsApart`), each generated position is traced through exactly the map of
the file it was printed from, and every input file listed keeps its content unless an applied
map embedded content under its name.

Main statement: `compose_traces_once`. It rests on `Traced.step`: one composing step keeps the
description of the map after the sources processed so far.
-/

/-! ## Recording the merged output -/

namespace CssBundle.SourceMap.Builder

/-- What recording keeps of a builder: its sources are distinct and each is used by a mapping,
every mapping points at a listed source with no name, and there is one content per source. -/
structure Recording (b : Builder) : Prop where
  nodup : b.sources.Nodup
  indexed : ∀ x ∈ b.mappings.toList, x.Indexed b.sources.length 0
  unnamed : ∀ x ∈ b.mappings.toList, ∀ o, x.origin = some o → o.name = none
  used : ∀ s ∈ b.sources, ∃ x ∈ b.mappings.toList, ∃ o, x.origin = some o ∧
    b.sources[o.source]? = some s
  contents_length : b.contents.length = b.sources.length

theorem addSource_eq_intern (b : Builder) (s : String) :
    (b.addSource s).1.sources = (intern b.sources s).1 ∧ (b.addSource s).2 = (intern b.sources s).2 := by
  rw [Builder.sources_addSource, Builder.snd_addSource]
  rcases h : b.sources.idxOf? s with _ | i
  · simp [intern, h, List.idxOf?_eq_none_iff.mp h]
  · have hmem : s ∈ b.sources := List.isSome_idxOf?.mp (by simp [h])
    simp [intern, h, hmem]

theorem contents_length_addSource {b : Builder} (h : b.contents.length = b.sources.length)
    (s : String) : (b.addSource s).1.contents.length = (b.addSource s).1.sources.length := by
  rw [Builder.contents_addSource, Builder.sources_addSource]
  split <;> simp [h]

theorem recording_empty (file : Option String) : (Builder.empty file).Recording :=
  ⟨List.nodup_nil, by simp [Builder.empty], by simp [Builder.empty], by simp [Builder.empty], rfl⟩

theorem Recording.record {b : Builder} (h : b.Recording) (s : String) (gen pos : LineColumn) :
    ((b.addSource s).1.addMapping ⟨gen, some ⟨(b.addSource s).2, pos, none⟩⟩).Recording := by
  obtain ⟨hsrc, hid⟩ := addSource_eq_intern b s
  have hpre : b.sources <+: (b.addSource s).1.sources := hsrc ▸ prefix_intern
  have hget : (b.addSource s).1.sources[(b.addSource s).2]? = some s := by
    rw [hsrc, hid]
    exact getElem?_intern
  have hlt : (b.addSource s).2 < (b.addSource s).1.sources.length :=
    (List.getElem?_eq_some_iff.mp hget).1
  constructor
  · simpa [Builder.addMapping, hsrc] using nodup_intern h.nodup
  · intro x hx
    simp only [Builder.addMapping, Array.toList_push, mappings_addSource, List.mem_append,
      List.mem_singleton] at hx
    rcases hx with hx | rfl
    · exact (h.indexed x hx).mono hpre.length_le (Nat.le_refl 0)
    · intro o ho
      cases ho
      exact ⟨hlt, fun _ hn => by cases hn⟩
  · intro x hx o ho
    simp only [Builder.addMapping, Array.toList_push, mappings_addSource, List.mem_append,
      List.mem_singleton] at hx
    rcases hx with hx | rfl
    · exact h.unnamed x hx o ho
    · cases ho
      rfl
  · intro s' hs'
    simp only [Builder.addMapping] at hs'
    rw [hsrc, mem_intern] at hs'
    simp only [Builder.addMapping, Array.toList_push, mappings_addSource, List.mem_append,
      List.mem_singleton]
    rcases hs' with hs' | rfl
    · obtain ⟨x, hx, o, ho, hos⟩ := h.used s' hs'
      have hlt' : o.source < b.sources.length := (List.getElem?_eq_some_iff.mp hos).1
      exact ⟨x, Or.inl hx, o, ho, by rw [getElem?_of_extension hpre hlt', hos]⟩
    · exact ⟨_, Or.inr rfl, _, rfl, hget⟩
  · exact contents_length_addSource h.contents_length s

theorem Recording.renderWithMap {b : Builder} (h : b.Recording) (sheet : Css.Stylesheet) :
    (sheet.renderWithMap b).2.Recording := by
  unfold Css.Stylesheet.renderWithMap
  dsimp only
  rw [← Array.foldl_toList]
  induction sheet.write.marks.toList generalizing b with
  | nil => exact h
  | cons mk marks ih => exact ih (h.record mk.span.source mk.generated mk.span.start.lineColumn)

theorem setContent_sources (b : Builder) (i : Nat) (c : String) :
    (b.setContent i c).sources = b.sources ∧ (b.setContent i c).mappings = b.mappings ∧
      (b.setContent i c).file = b.file := by
  unfold Builder.setContent
  split <;> exact ⟨rfl, rfl, rfl⟩

theorem contents_setContent (b : Builder) (i : Nat) (c : String) :
    (b.setContent i c).contents = b.contents.set i (some c) := by
  unfold Builder.setContent
  split
  · rfl
  · rw [List.set_eq_of_length_le (by omega)]

end CssBundle.SourceMap.Builder

namespace CssBundle.Bundle

open Css SourceMap

/-- The map printing the merged stylesheet records, from its output to the input files. -/
def mergeMap (merged : Stylesheet) : SourceMap :=
  (merged.renderWithMap (Builder.empty (some mergedPath))).2.build

def upstreamMap (files : List InputFile) (path : String) : Option SourceMap :=
  ((findInput files path).bind (·.sourceMap)).bind fun text => (SourceMap.ofJson text).toOption

/-- One composing step: the map traced through the upstream map of one source, if it has one. -/
def composeStep (files : List InputFile) (m : SourceMap) (source : String) : SourceMap :=
  match upstreamMap files source with
  | some up => m.composeWith up source
  | none => m

/-- No upstream map of a listed source leads into another listed source that has an upstream
map of its own. -/
def UpstreamsApart (files : List InputFile) (sources : List String) : Prop :=
  ∀ s ∈ sources, ∀ up, upstreamMap files s = some up →
    ∀ s' ∈ sources, s' ≠ s → (upstreamMap files s').isSome → ∀ i, up.resolvedSource i ≠ some s'

/-- Records the content of each of the first `k` sources that is an input file, as composing
does before it traces anything. -/
def fillContents (files : List InputFile) (b : Builder) (k : Nat) : Builder :=
  (List.range k).foldl (fun b i =>
    match b.sources[i]? |>.bind (findInput files) with
    | some f => b.setContent i f.content
    | none => b) b

/-- The map composing gives for a recording builder: contents filled in, then every source
traced through its upstream map, in the order the sources are listed. -/
def composedMap (files : List InputFile) (b : Builder) : SourceMap :=
  let m := (fillContents files b b.sources.length).build
  m.sources.foldl (composeStep files) m

/-- The composed map `m` traces every position through the upstream map of the file it was
printed from, and only through that one. Where the recorded map covers a position with a
position `r` of a file, `m` gives what that file's upstream map has for `r`, when it covers
`r` with an origin, and `r` otherwise; where the recorded map covers nothing, neither does `m`.
A recorded source still listed that is an input file carries that file's content, unless an
applied upstream map embedded content under its name. -/
structure TracesOnce (merged : Stylesheet) (files : List InputFile) (m : SourceMap) : Prop where
  uncovered : ∀ g, (mergeMap merged).originFor g = none → m.originFor g = none
  traced : ∀ g r up o, (mergeMap merged).originFor g = some r →
    upstreamMap files r.source = some up → (up.mappingFor r.position).bind (·.origin) = some o →
    ∃ s, up.resolvedSource o.source = some s ∧
      m.originFor g = some ⟨s, o.position, o.name.bind fun n => up.names[n]?⟩
  kept : ∀ g r, (mergeMap merged).originFor g = some r →
    (∀ up, upstreamMap files r.source = some up →
      (up.mappingFor r.position).bind (·.origin) = none) →
    m.originFor g = some r
  contents : ∀ s ∈ (mergeMap merged).sources, s ∈ m.sources → ∀ f, findInput files s = some f →
    m.sourceContent s = some f.content ∨
      ∃ s₁ ∈ (mergeMap merged).sources, ∃ up, upstreamMap files s₁ = some up ∧
        (up.contentsByResolved.lookup s).isSome ∧ m.sourceContent s = up.contentsByResolved.lookup s

def throughUpstream (files : List InputFile) (r : Resolved) : Resolved :=
  match upstreamMap files r.source with
  | some up => traceOne up r.source r
  | none => r

/-- A position traced through its file's upstream map when its source is among `done`. -/
def traceSources (files : List InputFile) (done : List String) (r : Resolved) : Resolved :=
  if r.source ∈ done then throughUpstream files r else r

/-- The map composing reaches after the sources `done`, described against the recorded map
`m0`: its indices are listed, its view is that of `m0` with the positions of `done` traced, and
each recorded source that is an input file carries that file's content unless one of the applied
upstream maps embedded content under its name. -/
structure Traced (files : List InputFile) (m0 : SourceMap) (done : List String) (m : SourceMap) :
    Prop where
  indexed : m.Indexed
  resolved : m.resolved = m0.resolved.map fun p => (p.1, p.2.map (traceSources files done))
  contents : ∀ s ∈ m.sources, s ∈ m0.sources → ∀ f, findInput files s = some f →
    m.sourceContent s = some f.content ∨
      ∃ s₁ ∈ done, ∃ up, upstreamMap files s₁ = some up ∧
        (up.contentsByResolved.lookup s).isSome ∧ m.sourceContent s = up.contentsByResolved.lookup s

theorem composeStep_eq (files : List InputFile) (m : SourceMap) (source : String) :
    composeStep files m source =
      match (findInput files source).bind (·.sourceMap) with
      | some text =>
        match SourceMap.ofJson text with
        | .ok up => m.composeWith up source
        | .error _ => m
      | none => m := by
  unfold composeStep upstreamMap
  rcases (findInput files source).bind (·.sourceMap) with _ | text
  · rfl
  · rcases h : SourceMap.ofJson text with e | up <;> simp [h, Except.toOption]

/-- Composing prints the merged stylesheet, and gives no map for an empty text and otherwise the
composed map of what printing recorded. -/
theorem compose_eq (merged : Stylesheet) (files : List InputFile) :
    compose merged files =
      if merged.render.isEmpty then ⟨merged.render, none⟩
      else ⟨merged.render,
        some (composedMap files (merged.renderWithMap (Builder.empty (some mergedPath))).2)⟩ := by
  unfold compose composedMap fillContents
  simp only [Css.Stylesheet.renderWithMap, Css.Stylesheet.render]
  by_cases h : merged.write.text.isEmpty = true
  · simp only [h, if_true]
  · simp only [h, Bool.false_eq_true, if_false]
    have hfun : composeStep files = fun m source =>
        match (findInput files source).bind (·.sourceMap) with
        | some text =>
          match SourceMap.ofJson text with
          | .ok up => m.composeWith up source
          | .error _ => m
        | none => m :=
      funext fun m => funext fun source => composeStep_eq files m source
    exact hfun ▸ rfl

theorem fillContents_succ (files : List InputFile) (b : Builder) (k : Nat) :
    fillContents files b (k + 1) =
      match (fillContents files b k).sources[k]? |>.bind (findInput files) with
      | some f => (fillContents files b k).setContent k f.content
      | none => fillContents files b k := by
  simp only [fillContents, List.range_succ, List.foldl_append, List.foldl_cons, List.foldl_nil]

/-- Filling in contents touches only the contents, and gives each of the first `k` sources that
is an input file that file's content. -/
theorem fillContents_spec (files : List InputFile) {b : Builder}
    (hlen : b.contents.length = b.sources.length) (k : Nat) :
    (fillContents files b k).sources = b.sources ∧ (fillContents files b k).mappings = b.mappings ∧
      (fillContents files b k).file = b.file ∧
      (fillContents files b k).contents.length = b.sources.length ∧
      ∀ i < k, ∀ s f, b.sources[i]? = some s → findInput files s = some f →
        (fillContents files b k).contents[i]? = some (some f.content) := by
  induction k with
  | zero => exact ⟨rfl, rfl, rfl, hlen, fun i hi => absurd hi (Nat.not_lt_zero i)⟩
  | succ k ih =>
    obtain ⟨hs, hm, hf, hl, hc⟩ := ih
    rw [fillContents_succ]
    rcases hk : (fillContents files b k).sources[k]?.bind (findInput files) with _ | f
    · refine ⟨hs, hm, hf, hl, fun i hi s f' hsi hf' => ?_⟩
      rcases Nat.lt_succ_iff_lt_or_eq.mp hi with hi | rfl
      · exact hc i hi s f' hsi hf'
      · simp [hs, hsi, hf'] at hk
    · obtain ⟨hs', hm', hf'⟩ := Builder.setContent_sources (fillContents files b k) k f.content
      refine ⟨hs'.trans hs, hm'.trans hm, hf'.trans hf, ?_, fun i hi s f' hsi hfi => ?_⟩
      · rw [Builder.contents_setContent, List.length_set, hl]
      · rw [Builder.contents_setContent]
        rcases Nat.lt_succ_iff_lt_or_eq.mp hi with hi | rfl
        · rw [List.getElem?_set_ne (by omega)]
          exact hc i hi s f' hsi hfi
        · have hfeq : f' = f := by simpa [hs, hsi, hfi] using hk
          have hlt : i < (fillContents files b i).contents.length :=
            hl ▸ (List.getElem?_eq_some_iff.mp hsi).1
          rw [List.getElem?_set_self hlt, hfeq]

/-! ## One composing step -/

theorem traceOne_of_ne {up : SourceMap} {t : String} {r : Resolved} (h : r.source ≠ t) :
    traceOne up t r = r := by
  simp [traceOne, h]

theorem source_traceOne (up : SourceMap) (t : String) (r : Resolved) :
    (traceOne up t r).source = r.source ∨ ∃ i, up.resolvedSource i = some (traceOne up t r).source := by
  unfold traceOne
  split
  · split
    · next uo _ =>
      split
      · next s hs => exact Or.inr ⟨uo.source, hs⟩
      · exact Or.inl rfl
    · exact Or.inl rfl
  · exact Or.inl rfl

theorem throughUpstream_of_none {files : List InputFile} {r : Resolved}
    (h : upstreamMap files r.source = none) : throughUpstream files r = r := by
  simp [throughUpstream, h]

theorem source_throughUpstream (files : List InputFile) (r : Resolved) :
    (throughUpstream files r).source = r.source ∨
      ∃ up i, upstreamMap files r.source = some up ∧
        up.resolvedSource i = some (throughUpstream files r).source := by
  unfold throughUpstream
  split
  · next up hup =>
    rcases source_traceOne up r.source r with h | ⟨i, hi⟩
    · exact Or.inl h
    · exact Or.inr ⟨up, i, hup, hi⟩
  · exact Or.inl rfl

section Step

variable {files : List InputFile} {m0 : SourceMap} {done : List String} {t : String}

theorem traceSources_concat_of_none (hnone : upstreamMap files t = none) (r : Resolved) :
    traceSources files (done ++ [t]) r = traceSources files done r := by
  by_cases hrt : r.source = t
  · have hthrough : throughUpstream files r = r := throughUpstream_of_none (hrt ▸ hnone)
    simp [traceSources, hthrough]
  · simp [traceSources, hrt]

/-- With the upstream map `up` of `t`, tracing the view after `done` through `up` traces exactly
the positions of `t` in addition: positions already traced never lead back into `t`. -/
theorem traceOne_traceSources (happart : UpstreamsApart files m0.sources)
    (ht : t ∈ m0.sources) (htd : t ∉ done)
    {up : SourceMap} (hup : upstreamMap files t = some up) {r : Resolved}
    (hr : r.source ∈ m0.sources) :
    traceOne up t (traceSources files done r) = traceSources files (done ++ [t]) r := by
  by_cases hrt : r.source = t
  · have hrd : r.source ∉ done := hrt ▸ htd
    have hthrough : throughUpstream files r = traceOne up t r := by
      simp [throughUpstream, hrt, hup]
    simp [traceSources, hrt, htd, hthrough]
  · by_cases hrd : r.source ∈ done
    · have hne : (throughUpstream files r).source ≠ t := by
        rcases source_throughUpstream files r with h | ⟨up', i, hup', hi⟩
        · rw [h]
          exact hrt
        · intro heq
          have hsome : (upstreamMap files t).isSome := by simp [hup]
          exact happart r.source hr up' hup' t ht (Ne.symm hrt) hsome i (heq ▸ hi)
      simp [traceSources, hrd, traceOne_of_ne hne]
    · simp [traceSources, hrd, hrt, traceOne_of_ne hrt]

/-- A recorded source still in the view untraced, because it is not done or has no upstream
map, is still listed. -/
theorem Traced.mem_sources {m : SourceMap} (h : Traced files m0 done m) {s : String}
    (hused : ∃ p ∈ m0.resolved, ∃ r, p.2 = some r ∧ r.source = s)
    (hs : s ∉ done ∨ upstreamMap files s = none) : s ∈ m.sources := by
  obtain ⟨p, hp, r, hpr, rfl⟩ := hused
  have hkept : traceSources files done r = r := by
    rcases hs with hs | hs
    · simp [traceSources, hs]
    · simp [traceSources, throughUpstream_of_none hs]
  have hmem : (p.1, p.2.map (traceSources files done)) ∈ m.resolved :=
    h.resolved ▸ List.mem_map_of_mem hp
  exact mem_sources_of_mem_resolved hmem (r := r) (by simp [hpr, hkept])

theorem Traced.step {m : SourceMap} (h : Traced files m0 done m)
    (happart : UpstreamsApart files m0.sources)
    (hused : ∀ s ∈ m0.sources, ∃ p ∈ m0.resolved, ∃ r, p.2 = some r ∧ r.source = s)
    (ht : t ∈ m0.sources) (htd : t ∉ done) :
    Traced files m0 (done ++ [t]) (composeStep files m t) := by
  unfold composeStep
  cases hup : upstreamMap files t with
  | none =>
    have hfun : traceSources files (done ++ [t]) = traceSources files done :=
      funext (traceSources_concat_of_none hup)
    refine ⟨h.indexed, hfun ▸ h.resolved, fun s hs hs0 f hf => ?_⟩
    rcases h.contents s hs hs0 f hf with h1 | ⟨s₁, hs₁, rest⟩
    · exact Or.inl h1
    · exact Or.inr ⟨s₁, List.mem_append_left _ hs₁, rest⟩
  | some up =>
    refine ⟨indexed_composeWith up t h.indexed, ?_, fun s hs hs0 f hf => ?_⟩
    · rw [resolved_composeWith up t h.indexed, h.resolved, List.map_map]
      apply List.map_congr_left
      rintro ⟨g, _ | r⟩ hp
      · rfl
      · simp [traceView, traceOne_traceSources happart ht htd hup
          (mem_sources_of_mem_resolved hp (r := r) rfl)]
    · rw [sourceContent_composeWith up t hs]
      cases hl : up.contentsByResolved.lookup s with
      | some c =>
        exact Or.inr ⟨t, List.mem_append_right _ List.mem_cons_self, up, hup, by simp [hl],
          by simp [hl]⟩
      | none =>
        have hlisted : s ∈ m.sources := by
          obtain ⟨p, hp, r, hpr, hrs⟩ := mem_sources_composeWith up t h.indexed hs
          have hr : r.source ∈ m.sources := mem_sources_of_mem_resolved hp hpr
          by_cases hrt : r.source = t
          · rcases source_traceOne up t r with hsrc | ⟨i, hi⟩
            · exact hrs ▸ hsrc ▸ hr
            · rw [hrs] at hi
              by_cases hst : s = t
              · exact hst ▸ hrt ▸ hr
              · have hnone : upstreamMap files s = none := by
                  by_contra hne
                  exact happart t ht up hup s hs0 hst (Option.ne_none_iff_isSome.mp hne) i hi
                exact h.mem_sources (hused s hs0) (Or.inr hnone)
          · exact hrs ▸ (traceOne_of_ne hrt).symm ▸ hr
        simp only [Option.orElse_none]
        rcases h.contents s hlisted hs0 f hf with h1 | ⟨s₁, hs₁, rest⟩
        · exact Or.inl h1
        · exact Or.inr ⟨s₁, List.mem_append_left _ hs₁, rest⟩

/-- Composing through the sources `rest` one by one, none of them done yet, keeps the
description, with all of `rest` done. -/
theorem Traced.foldl {m : SourceMap} (h : Traced files m0 done m)
    (happart : UpstreamsApart files m0.sources)
    (hused : ∀ s ∈ m0.sources, ∃ p ∈ m0.resolved, ∃ r, p.2 = some r ∧ r.source = s)
    (rest : List String) (hrest : ∀ t ∈ rest, t ∈ m0.sources) (hnd : (done ++ rest).Nodup) :
    Traced files m0 (done ++ rest) (rest.foldl (composeStep files) m) := by
  induction rest generalizing done m with
  | nil => simpa using h
  | cons t rest ih =>
    have htd : t ∉ done := by
      intro htd
      have := List.nodup_append.mp hnd
      exact this.2.2 t htd t List.mem_cons_self rfl
    have hstep := h.step happart hused (hrest t List.mem_cons_self) htd
    have hnd' : (done ++ [t] ++ rest).Nodup := by simpa using hnd
    simpa using ih hstep (fun u hu => hrest u (List.mem_cons_of_mem t hu)) hnd'

end Step

/-! ## The recorded map and the whole run -/

section Recorded

variable {b : Builder} (hb : b.Recording) (files : List InputFile)
include hb

theorem used_build :
    ∀ s ∈ b.build.sources, ∃ p ∈ b.build.resolved, ∃ r, p.2 = some r ∧ r.source = s := by
  intro s hs
  obtain ⟨x, hx, o, ho, hos⟩ := hb.used s hs
  refine ⟨resolveWith b.sources [] x, List.mem_map_of_mem (mem_sortMappings.mpr hx),
    ⟨s, o.position, none⟩, ?_, rfl⟩
  simp [resolveWith, ho, hos]

theorem resolved_fillContents (k : Nat) :
    (fillContents files b k).build.resolved = b.build.resolved := by
  obtain ⟨hs, hm, -, -, -⟩ := fillContents_spec files hb.contents_length k
  simp [SourceMap.resolved, Builder.build, hs, hm]

theorem traced_fillContents :
    Traced files b.build [] (fillContents files b b.sources.length).build := by
  obtain ⟨hs, hm, -, hl, hc⟩ := fillContents_spec files hb.contents_length b.sources.length
  refine ⟨?_, ?_, fun s hs' _ f hf => Or.inl ?_⟩
  · intro x hx
    simp only [Builder.build, hs, hm] at hx ⊢
    exact hb.indexed x (mem_sortMappings.mp hx)
  · have hnone : traceSources files [] = id := funext fun r => by simp [traceSources]
    rw [resolved_fillContents hb files, hnone]
    simp
  · simp only [Builder.build, hs] at hs' ⊢
    obtain ⟨i, hi⟩ : ∃ i, b.sources.idxOf? s = some i :=
      Option.isSome_iff_exists.mp (List.isSome_idxOf?.mpr hs')
    obtain ⟨hlt, hget, -⟩ := List.idxOf?_eq_some_iff.mp hi
    have hcontent := hc i hlt s f (by rw [List.getElem?_eq_getElem hlt, hget]) hf
    simp [SourceMap.sourceContent, hi, hcontent]

theorem traced_composedMap (happart : UpstreamsApart files b.build.sources) :
    Traced files b.build b.sources (composedMap files b) := by
  obtain ⟨hs, -, -, -, -⟩ := fillContents_spec files hb.contents_length b.sources.length
  have h := (traced_fillContents hb files).foldl happart (used_build hb)
    (fillContents files b b.sources.length).build.sources
    (fun t ht => by simpa [Builder.build, hs] using ht) (by simpa [Builder.build, hs] using hb.nodup)
  simpa [composedMap, Builder.build, hs] using h

end Recorded

/-! ## Where each generated position leads -/

theorem coveringAt_mem {rs : List (LineColumn × Option Resolved)} {g : LineColumn} {r : Resolved}
    (h : coveringAt rs g = some r) : ∃ p ∈ rs, p.2 = some r := by
  unfold coveringAt at h
  split at h
  · next p hp =>
    split at h
    · exact ⟨p, (List.takeWhile_sublist _).subset (List.mem_of_getLast? hp), h⟩
    · cases h
  · cases h

theorem originFor_build {b : Builder} {g : LineColumn} {r : Resolved}
    (h : b.build.originFor g = some r) : r.source ∈ b.sources ∧ r.name = none := by
  rw [originFor_eq_coveringAt] at h
  obtain ⟨p, hp, hpr⟩ := coveringAt_mem h
  refine ⟨mem_sources_of_mem_resolved hp hpr, ?_⟩
  obtain ⟨x, -, rfl⟩ := List.mem_map.mp hp
  simp only [resolveWith, Builder.build, Option.bind_eq_some_iff, Option.map_eq_some_iff] at hpr
  obtain ⟨o, -, s, -, rfl⟩ := hpr
  simp

theorem mem_mappings_of_mappingFor {m : SourceMap} {g : LineColumn} {x : Mapping}
    (h : m.mappingFor g = some x) : x ∈ m.mappings := by
  unfold SourceMap.mappingFor at h
  split at h
  · next y hy =>
    split at h
    · cases h
      exact (List.takeWhile_sublist _).subset (List.mem_of_getLast? hy)
    · cases h
  · cases h

theorem wellFormed_of_upstreamMap {files : List InputFile} {path : String} {up : SourceMap}
    (h : upstreamMap files path = some up) : up.WellFormed := by
  simp only [upstreamMap, Option.bind_eq_some_iff] at h
  obtain ⟨text, -, htext⟩ := h
  rcases hj : SourceMap.ofJson text with e | m <;> simp [hj, Except.toOption] at htext
  exact htext ▸ wellFormed_of_ofJson hj

/-- A position whose file's upstream map covers it with an origin `o` leads to `o`: the source
it resolves to, its position and its name. -/
theorem throughUpstream_of_origin {files : List InputFile} {r : Resolved} {up : SourceMap}
    {o : Origin} (hup : upstreamMap files r.source = some up)
    (ho : (up.mappingFor r.position).bind (·.origin) = some o) (hname : r.name = none) :
    ∃ s, up.resolvedSource o.source = some s ∧
      throughUpstream files r = ⟨s, o.position, o.name.bind fun n => up.names[n]?⟩ := by
  obtain ⟨x, hx, hxo⟩ := Option.bind_eq_some_iff.mp ho
  have hlt : o.source < up.sources.length :=
    ((wellFormed_of_upstreamMap hup).inRange x (mem_mappings_of_mappingFor hx) |>.origin o hxo).1
  obtain ⟨s, hs⟩ : ∃ s, up.resolvedSource o.source = some s := by
    simp [SourceMap.resolvedSource, List.getElem?_eq_getElem hlt]
  refine ⟨s, hs, ?_⟩
  simp [throughUpstream, traceOne, hup, ho, hs, hname]

/-- A position whose file has no upstream map, or one that does not cover it with an origin,
stays where it is. -/
theorem throughUpstream_of_uncovered {files : List InputFile} {r : Resolved}
    (h : ∀ up, upstreamMap files r.source = some up → (up.mappingFor r.position).bind (·.origin) = none) :
    throughUpstream files r = r := by
  unfold throughUpstream
  split
  · next up hup => simp [traceOne, h up hup]
  · rfl

theorem Traced.originFor {files : List InputFile} {m0 m : SourceMap} {done : List String}
    (h : Traced files m0 done m) (g : LineColumn) :
    m.originFor g = (m0.originFor g).map (traceSources files done) := by
  rw [originFor_eq_coveringAt, h.resolved, coveringAt_map, ← originFor_eq_coveringAt]

/-- Composing prints the merged stylesheet, gives a map exactly when the text is not empty, and,
when no upstream map leads into another source that has one, that map traces each position
through the upstream map of its own file only. -/
theorem compose_traces_once (merged : Stylesheet) (files : List InputFile)
    (happart : UpstreamsApart files (mergeMap merged).sources) :
    (compose merged files).code = merged.render ∧
      ((compose merged files).sourceMap = none ↔ merged.render = "") ∧
      ∀ m, (compose merged files).sourceMap = some m → TracesOnce merged files m := by
  rw [compose_eq]
  by_cases hempty : merged.render.isEmpty
  · simp [String.isEmpty_iff.mp hempty]
  · have hne : merged.render ≠ "" := fun h => hempty (String.isEmpty_iff.mpr h)
    simp only [hempty, Bool.false_eq_true, if_false, reduceCtorEq, hne, Option.some.injEq, true_and,
      forall_eq']
    set b := (merged.renderWithMap (Builder.empty (some mergedPath))).2 with hbdef
    have hb : b.Recording := (Builder.recording_empty _).renderWithMap merged
    have h := traced_composedMap hb files happart
    have horigin : ∀ g r, b.build.originFor g = some r →
        (composedMap files b).originFor g = some (throughUpstream files r) := by
      intro g r hr
      rw [h.originFor, hr]
      simp [traceSources, (originFor_build hr).1]
    refine ⟨fun g hg => ?_, fun g r up o hr hup ho => ?_, fun g r hr hkept => ?_, ?_⟩
    · rw [h.originFor]
      simp [mergeMap, ← hbdef] at hg
      simp [hg]
    · obtain ⟨s, hs, heq⟩ := throughUpstream_of_origin hup ho (originFor_build hr).2
      exact ⟨s, hs, by rw [horigin g r hr, heq]⟩
    · rw [horigin g r hr, throughUpstream_of_uncovered hkept]
    · intro s hs0 hs f hf
      exact h.contents s hs hs0 f hf

/-- `a.css` came with a map from `a.less`, `b.css` with none: no upstream map leads into another
source of the bundle, and the composed map traces each mapping through one upstream map. -/
theorem compose_traces_once_sample :
    let merged : Stylesheet := ⟨mergedPath,
      [.style ".x" [.decl "color" "red" ⟨"a.css", ⟨⟨3, 0, 3⟩, ⟨12, 0, 12⟩⟩⟩]
          ⟨"a.css", ⟨⟨0, 0, 0⟩, ⟨13, 0, 13⟩⟩⟩,
        .style ".y" [] ⟨"b.css", ⟨⟨0, 0, 0⟩, ⟨4, 0, 4⟩⟩⟩]⟩
    let files : List InputFile :=
      [⟨"a.css", ".x\x7bcolor:red\x7d",
          some "\x7b\"version\":3,\"sources\":[\"a.less\"],\"names\":[],\"mappings\":\"AAAA\"\x7d"⟩,
        ⟨"b.css", ".y\x7b\x7d", none⟩]
    UpstreamsApart files (mergeMap merged).sources ∧
      (compose merged files).code = merged.render ∧
      ((compose merged files).sourceMap = none ↔ merged.render = "") ∧
      ∀ m, (compose merged files).sourceMap = some m → TracesOnce merged files m := by
  intro merged files
  have hsources : (mergeMap merged).sources = ["a.css", "b.css"] := by
    cbv
  have hb : upstreamMap files "b.css" = none := by
    simp [upstreamMap, findInput, files]
  have happart : UpstreamsApart files (mergeMap merged).sources := by
    intro s hs up hup s' hs' hne hsome i
    rw [hsources] at hs hs'
    simp only [List.mem_cons, List.not_mem_nil, or_false] at hs hs'
    rcases hs with rfl | rfl
    · rcases hs' with rfl | rfl
      · exact absurd rfl hne
      · simp [hb] at hsome
    · simp [hb] at hup
  exact ⟨happart, compose_traces_once merged files happart⟩

end CssBundle.Bundle
