import Mathlib
import CssBundle.Proofs.Upstream

/-!
# The map invariant along every construction

Lookup, writing and composing all rely on one invariant of a source map (`Invariant`): the
mappings are sorted by generated position, there is one content slot per source, and every
source and name index a mapping carries is listed. A map reaches a reader in one of three ways:
it is read from its written form, it is built by a builder, or it is an earlier map composed
with the map of one of its sources. Each way keeps the invariant.

A builder is reached from an empty one by adding sources, setting contents, and adding mappings
whose source ids are ones `addSource` handed out and that carry no name (`Builder.Reachable`);
such a builder keeps one content slot per source and mappings into listed sources
(`Builder.Reachable.fits`). Composing rebuilds the lists of sources and names, but keeps each
mapping at its generated position, in order (`generated_composeWith`), so sorting survives it.

Main statement: `invariant_of_reachable`, by induction on how the map was made.
-/

namespace CssBundle.SourceMap


/-- The map invariant: mappings sorted by generated position, one content slot per source, and
every source and name index of a mapping listed. -/
structure Invariant (m : SourceMap) : Prop where
  sorted : m.mappings.Pairwise fun a b => a.generated.le b.generated
  contents_length : m.contents.length = m.sources.length
  indexed : m.Indexed

theorem WellFormed.invariant {m : SourceMap} (h : m.WellFormed) : m.Invariant where
  sorted := h.sorted
  contents_length := h.contents_length
  indexed := fun x hx o ho =>
    let ⟨hs, _, _, hn⟩ := (h.inRange x hx).origin o ho
    ⟨hs, hn⟩

namespace Builder

theorem addSource_snd_lt (b : Builder) (s : String) :
    (b.addSource s).2 < (b.addSource s).1.sources.length := by
  obtain ⟨hsrc, hid⟩ := addSource_eq_intern b s
  rw [hsrc, hid]
  exact (List.getElem?_eq_some_iff.mp getElem?_intern).1

theorem sources_prefix_addSource (b : Builder) (s : String) :
    b.sources <+: (b.addSource s).1.sources :=
  (addSource_eq_intern b s).1 ▸ prefix_intern

/-- The builders a program reaches from an empty one. A mapping added may point at a source by
an id that `addSource` handed out on this builder (every such id is an index of its sources,
`addSource_snd_lt`, and sources are only ever appended), and carries no name. -/
inductive Reachable : Builder → Prop
  | empty (file : Option String) : Reachable (Builder.empty file)
  | addSource {b : Builder} (s : String) : Reachable b → Reachable (b.addSource s).1
  | setContent {b : Builder} (i : Nat) (c : String) : Reachable b → Reachable (b.setContent i c)
  | addMapping {b : Builder} (x : Mapping) : Reachable b →
      (∀ o, x.origin = some o → o.source < b.sources.length ∧ o.name = none) →
      Reachable (b.addMapping x)

/-- What a reachable builder keeps: one content slot per source, and every mapping pointing at a
listed source with no name. -/
theorem Reachable.fits {b : Builder} (h : b.Reachable) :
    b.contents.length = b.sources.length ∧ ∀ x ∈ b.mappings.toList, x.Indexed b.sources.length 0 := by
  induction h with
  | empty file => simp [Builder.empty]
  | @addSource b s _ ih =>
    obtain ⟨hc, hx⟩ := ih
    refine ⟨contents_length_addSource hc s, fun x hx' => ?_⟩
    rw [mappings_addSource] at hx'
    exact (hx x hx').mono (sources_prefix_addSource b s).length_le (Nat.le_refl 0)
  | @setContent b i c _ ih =>
    obtain ⟨hsrc, hms, -⟩ := setContent_sources b i c
    rw [contents_setContent, List.length_set, hsrc, hms]
    exact ih
  | @addMapping b x _ hnew ih =>
    obtain ⟨hc, hx⟩ := ih
    refine ⟨hc, fun y hy => ?_⟩
    simp only [Builder.addMapping, Array.toList_push, List.mem_append, List.mem_singleton] at hy
    rcases hy with hy | rfl
    · exact hx y hy
    · intro o ho
      obtain ⟨hs, hn⟩ := hnew o ho
      exact ⟨hs, fun n hno => by simp [hn] at hno⟩

theorem Reachable.invariant_build {b : Builder} (h : b.Reachable) : b.build.Invariant := by
  obtain ⟨hc, hx⟩ := h.fits
  exact ⟨sorted_sortMappings _, hc, fun x hx' => hx x (mem_sortMappings.mp hx')⟩

end Builder

section Compose

variable {m : SourceMap} (inner : SourceMap) (target : String)

theorem generated_composeWith (hm : m.Indexed) :
    (m.composeWith inner target).mappings.map (·.generated) = m.mappings.map (·.generated) := by
  have hview := congrArg (List.map Prod.fst) (resolved_composeWith inner target hm)
  simpa [SourceMap.resolved, List.map_map, Function.comp_def, resolveWith, traceView] using hview

theorem Invariant.composeWith (hm : m.Invariant) : (m.composeWith inner target).Invariant where
  sorted := by
    have hgen := generated_composeWith inner target hm.indexed
    have hsorted : (m.mappings.map (·.generated)).Pairwise fun a b => a.le b = true :=
      List.pairwise_map.mpr hm.sorted
    rw [← hgen] at hsorted
    exact List.pairwise_map.mp hsorted
  contents_length := by simp [SourceMap.composeWith]
  indexed := indexed_composeWith inner target hm.indexed

end Compose

/-- The maps this library makes: read from their written form (so also from JSON), built by a
reachable builder, or made by composing such a map with any inner map, any number of times. -/
inductive Reachable : SourceMap → Prop
  | read {w : Written} {m : SourceMap} : SourceMap.ofWritten w = .ok m → SourceMap.Reachable m
  | build {b : Builder} : b.Reachable → SourceMap.Reachable b.build
  | compose {m : SourceMap} (inner : SourceMap) (target : String) :
      SourceMap.Reachable m → SourceMap.Reachable (m.composeWith inner target)

theorem Reachable.ofJson {text : String} {m : SourceMap}
    (h : SourceMap.ofJson text = .ok m) : m.Reachable := by
  unfold SourceMap.ofJson at h
  split at h
  · cases h
  · exact .read h

/-- Every map this library makes keeps the map invariant. -/
theorem invariant_of_reachable {m : SourceMap} (h : m.Reachable) : m.Invariant := by
  induction h with
  | read hw => exact (wellFormed_of_ofWritten hw).invariant
  | build hb => exact hb.invariant_build
  | compose inner target _ ih => exact ih.composeWith inner target


/-- A built map whose mappings were added out of order, composed with a map read from JSON,
keeps the invariant. -/
theorem invariant_of_reachable_sample :
    let b := (((Builder.empty none).addSource "a.css").1.addMapping
      ⟨⟨1, 0⟩, some ⟨0, ⟨2, 3⟩, none⟩⟩).addMapping ⟨⟨0, 4⟩, none⟩
    let inner : SourceMap :=
      { file := none, sourceRoot := none, sources := ["a.scss"], contents := [some "$c: red;"],
        names := ["c"], mappings := [⟨⟨2, 0⟩, some ⟨0, ⟨7, 1⟩, some 0⟩⟩] }
    let m := b.build.composeWith inner "a.css"
    m.Reachable ∧ m.Invariant := by
  intro b inner m
  have hb : b.Reachable := by
    refine .addMapping _ (.addMapping _ (.addSource "a.css" (.empty none)) ?_) ?_
    · intro o ho
      cases ho
      exact ⟨by decide, rfl⟩
    · intro o ho
      cases ho
  have hm : m.Reachable := .compose inner "a.css" (.build hb)
  exact ⟨hm, invariant_of_reachable hm⟩

/-! ## Lookup against a linear scan

`mappingFor` stops at the first mapping past the position it looks up, as a binary search over
a sorted list does. On a map that keeps the invariant this finds what a scan of the whole list
finds. -/

/-- The last mapping, in the map's order, whose generated position is at or before `g`. -/
def lastAtOrBefore (m : SourceMap) (g : LineColumn) : Option Mapping :=
  (m.mappings.filter fun x => x.generated.le g).getLast?

/-- On a list sorted by generated position, the mappings at or before a position form a prefix
of it. -/
theorem takeWhile_le_eq_filter {ms : List Mapping}
    (hs : ms.Pairwise fun a b => a.generated.le b.generated) (g : LineColumn) :
    ms.takeWhile (fun x => x.generated.le g) = ms.filter fun x => x.generated.le g := by
  induction ms with
  | nil => rfl
  | cons x xs ih =>
    obtain ⟨hx, hxs⟩ := List.pairwise_cons.mp hs
    by_cases hle : x.generated.le g = true
    · simp [hle, ih hxs]
    · have hnone : xs.filter (fun y => y.generated.le g) = [] :=
        List.filter_eq_nil_iff.mpr fun y hy hyle => hle (LineColumn.le_trans (hx y hy) hyle)
      simp [hle, hnone]

theorem mem_of_lastAtOrBefore {m : SourceMap} {g : LineColumn} {x : Mapping}
    (h : m.lastAtOrBefore g = some x) : x ∈ m.mappings :=
  (List.filter_sublist).subset (List.mem_of_getLast? h)

/-- On sorted mappings the covering mapping is the last one at or before the position, when it
lies on the position's line. -/
theorem mappingFor_eq_scan {m : SourceMap}
    (hs : m.mappings.Pairwise fun a b => a.generated.le b.generated) (g : LineColumn) :
    m.mappingFor g = (m.lastAtOrBefore g).filter fun x => x.generated.line = g.line := by
  unfold SourceMap.mappingFor SourceMap.lastAtOrBefore
  rw [takeWhile_le_eq_filter hs]
  cases (m.mappings.filter fun x => x.generated.le g).getLast? <;> simp [Option.filter]

/-- Looking up a generated position in a map that keeps the invariant gives what a linear scan
gives: the last mapping at or before the position, in the map's order, when it lies on the
position's line and has an origin, read as its source, position and name. The indices it
carries are listed, so the reads never fall outside the lists. -/
theorem originFor_eq_scan {m : SourceMap} (hm : m.Invariant) (g : LineColumn) :
    m.originFor g = (m.lastAtOrBefore g).bind fun x =>
      if x.generated.line = g.line then
        x.origin.map fun o =>
          ⟨m.sources.getD o.source "", o.position, o.name.map fun n => m.names.getD n ""⟩
      else none := by
  unfold SourceMap.originFor
  rw [mappingFor_eq_scan hm.sorted]
  cases hx : m.lastAtOrBefore g with
  | none => rfl
  | some x =>
    by_cases hl : x.generated.line = g.line
    · cases ho : x.origin with
      | none => simp [Option.filter_some, hl, ho]
      | some o =>
        obtain ⟨hs, hn⟩ := hm.indexed x (mem_of_lastAtOrBefore hx) o ho
        have hname : (o.name.bind fun n => m.names[n]?) = o.name.map fun n => m.names.getD n "" := by
          cases hon : o.name with
          | none => rfl
          | some n => simp [List.getElem?_eq_getElem (hn n hon)]
        simp [Option.filter_some, hl, ho, List.getElem?_eq_getElem hs, hname]
    · simp [Option.filter_some, hl]

/-- A position between two mappings at one generated position and a later one on its line is
covered by the second of the two, the later in the map's order. -/
theorem originFor_eq_scan_sample :
    let m : SourceMap :=
      { file := none, sourceRoot := none, sources := ["a.less"], contents := [none],
        names := ["c"],
        mappings := [⟨⟨0, 0⟩, some ⟨0, ⟨0, 0⟩, none⟩⟩, ⟨⟨1, 2⟩, some ⟨0, ⟨1, 4⟩, some 0⟩⟩,
          ⟨⟨1, 2⟩, some ⟨0, ⟨2, 0⟩, none⟩⟩, ⟨⟨1, 5⟩, none⟩] }
    m.Invariant ∧ m.originFor ⟨1, 3⟩ = some ⟨"a.less", ⟨2, 0⟩, none⟩ := by
  intro m
  have hm : m.Invariant := by
    refine ⟨by decide, rfl, ?_⟩
    intro x hx o ho
    simp only [m, List.mem_cons, List.not_mem_nil, or_false] at hx
    rcases hx with rfl | rfl | rfl | rfl <;> cases ho <;> simp [m]
  refine ⟨hm, ?_⟩
  rw [originFor_eq_scan hm]
  decide

end CssBundle.SourceMap
