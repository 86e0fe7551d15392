import Mathlib
import CssBundle.Proofs.MapInvariant

/-!
# What a lookup reads after composing

Composing a map `S` with the map `U` of one of its sources `f` changes what a lookup reads only
as tracing says: a position that read a place in `f` now reads where `U` says that place came
from, when `U` covers it with an origin, and every other position reads what it read before
(`originFor_traceOne`, `traceOne_of_origin`). Since the mappings keep their generated positions
and their order, no lookup gains or loses an answer.

The rebuilt lists are the distinct sources and names of the traced mappings, in the order they
are first used (`List.eraseDups` keeps first occurrences): the interning that builds them adds a
text exactly when it is not yet listed (`eraseDups_intern`). The content of a rebuilt source is
what `U` embeds under that resolved name, the last of its sources to do so winning
(`embeddedContent`), or else what `S` had for it.

Main statement: `composeWith_reads`.
-/

namespace CssBundle.SourceMap


/-- The content a map embeds under a resolved source name: that of the last source that resolves
to it and has content. -/
def embeddedContent (m : SourceMap) (s : String) : Option String :=
  (List.range m.sources.length).reverse.findSome? fun i =>
    if m.resolvedSource i = some s then (m.contents[i]?).bind id else none

section Lists

theorem eraseDups_of_nodup {l : List String} (h : l.Nodup) : l.eraseDups = l := by
  induction l with
  | nil => rfl
  | cons a as ih =>
    obtain ⟨ha, has⟩ := List.nodup_cons.mp h
    have hf : as.filter (fun b => !b == a) = as :=
      List.filter_eq_self.mpr fun b hb => by simpa using fun e : b = a => ha (e ▸ hb)
    rw [List.eraseDups_cons, hf, ih has]

theorem eraseDups_intern (S xs : List String) (x : String) :
    ((intern S x).1 ++ xs).eraseDups = (S ++ x :: xs).eraseDups := by
  unfold intern
  split
  · next i hi =>
    obtain ⟨hlt, hget, -⟩ := List.idxOf?_eq_some_iff.mp hi
    have hx : x ∈ S := hget ▸ List.getElem_mem hlt
    rw [List.eraseDups_append, List.eraseDups_append]
    simp [List.removeAll, hx]
  · simp

theorem lookup_filter_ne {l : List (String × String)} {r s : String} (h : s ≠ r) :
    (l.filter (·.1 ≠ r)).lookup s = l.lookup s := by
  induction l with
  | nil => rfl
  | cons p l ih =>
    obtain ⟨k, v⟩ := p
    by_cases hk : k = r
    · subst hk
      have hsk : (s == k) = false := by simpa using h
      rw [List.filter_cons_of_neg (by simp), ih, List.lookup_cons, hsk]
    · rw [List.filter_cons_of_pos (by simpa using hk), List.lookup_cons, List.lookup_cons, ih]

end Lists

/-- The content table keyed by resolved name gives, for each name, what the map embeds under
it. -/
theorem lookup_contentsByResolved (m : SourceMap) (s : String) :
    m.contentsByResolved.lookup s = m.embeddedContent s := by
  unfold SourceMap.contentsByResolved SourceMap.embeddedContent
  generalize m.sources.length = n
  induction n with
  | zero => rfl
  | succ n ih =>
    rw [List.range_succ, List.foldl_append, List.reverse_append, List.foldl_cons, List.foldl_nil]
    simp only [List.reverse_cons, List.reverse_nil, List.nil_append, List.singleton_append,
      List.findSome?_cons]
    rcases hc : (m.contents[n]?).bind id with _ | c <;>
      rcases hr : m.resolvedSource n with _ | r
    · simpa [hc, hr] using ih
    · simpa [hc, hr] using ih
    · simpa [hc, hr] using ih
    · simp only [List.lookup_cons]
      by_cases hs : r = s
      · subst hs
        simp
      · have hs' : (s == r) = false := by simpa using Ne.symm hs
        simp only [hs', lookup_filter_ne (Ne.symm hs), ih]
        simp [hs]

section Trace

variable {m inner : SourceMap} {target : String}

def tracedSources (m inner : SourceMap) (target : String) (ms : List Mapping) : List String :=
  ms.filterMap fun x => x.origin.map fun o => (traceOrigin m inner target o).1

def tracedNames (m inner : SourceMap) (target : String) (ms : List Mapping) : List String :=
  ms.filterMap fun x => x.origin.bind fun o => (traceOrigin m inner target o).2.2

/-- Rewriting lists the sources and names used, after those it started from, without repeats
and in order of first use. -/
theorem traceMappings_lists (ms : List Mapping) :
    ∀ (S N : List String) (acc : List Mapping), S.Nodup → N.Nodup →
      (traceMappings m inner target ms S N acc).2.1 = (S ++ tracedSources m inner target ms).eraseDups ∧
      (traceMappings m inner target ms S N acc).2.2 = (N ++ tracedNames m inner target ms).eraseDups := by
  induction ms with
  | nil =>
    intro S N acc hS hN
    simp [traceMappings, tracedSources, tracedNames, eraseDups_of_nodup hS, eraseDups_of_nodup hN]
  | cons x ms ih =>
    intro S N acc hS hN
    rcases ho : x.origin with _ | o
    · simpa [traceMappings, tracedSources, tracedNames, ho] using ih S N (x :: acc) hS hN
    · rcases ht : traceOrigin m inner target o with ⟨src, pos, name⟩
      have hsrc : tracedSources m inner target (x :: ms) = src :: tracedSources m inner target ms := by
        simp [tracedSources, ho, ht]
      rcases name with _ | n
      · have hnm : tracedNames m inner target (x :: ms) = tracedNames m inner target ms := by
          simp [tracedNames, ho, ht]
        simp only [traceMappings, ho, ht]
        rw [(ih _ _ _ (nodup_intern hS) hN).1, (ih _ _ _ (nodup_intern hS) hN).2, hsrc, hnm,
          eraseDups_intern]
        exact ⟨rfl, rfl⟩
      · have hnm : tracedNames m inner target (x :: ms) = n :: tracedNames m inner target ms := by
          simp [tracedNames, ho, ht]
        simp only [traceMappings, ho, ht]
        rw [(ih _ _ _ (nodup_intern hS) (nodup_intern hN)).1,
          (ih _ _ _ (nodup_intern hS) (nodup_intern hN)).2, hsrc, hnm, eraseDups_intern,
          eraseDups_intern]
        exact ⟨rfl, rfl⟩

/-- Under a map whose indices are listed, the traced sources and names are those of the traced
view, in order. -/
theorem traced_eq_view (hm : m.Indexed) :
    tracedSources m inner target m.mappings =
        (m.resolved.map (traceView inner target)).filterMap (fun p => p.2.map (·.source)) ∧
      tracedNames m inner target m.mappings =
        (m.resolved.map (traceView inner target)).filterMap (fun p => p.2.bind (·.name)) := by
  unfold tracedSources tracedNames SourceMap.resolved
  rw [List.map_map, List.filterMap_map, List.filterMap_map]
  constructor <;> refine List.filterMap_congr fun x hx => ?_ <;> rcases ho : x.origin with _ | o
  all_goals simp only [ho, Function.comp_apply, resolveWith, traceView, Option.map_none,
    Option.bind_none]
  all_goals
    obtain ⟨hsrc, -⟩ := hm x hx o ho
    obtain ⟨s, hs⟩ : ∃ s, m.sources[o.source]? = some s := ⟨_, List.getElem?_eq_getElem hsrc⟩
    simp [traceOrigin_eq inner target hs, hs]

end Trace

section Compose

variable {m : SourceMap} (inner : SourceMap) (target : String)

/-- The composed map lists the distinct sources and names its mappings read, in order of first
use. -/
theorem lists_composeWith (hm : m.Indexed) :
    (m.composeWith inner target).sources =
        ((m.composeWith inner target).resolved.filterMap fun p => p.2.map (·.source)).eraseDups ∧
      (m.composeWith inner target).names =
        ((m.composeWith inner target).resolved.filterMap fun p => p.2.bind (·.name)).eraseDups := by
  obtain ⟨-, hs, hn⟩ := @composeWith_parts m inner target
  obtain ⟨hsv, hnv⟩ := @traced_eq_view m inner target hm
  obtain ⟨hls, hln⟩ := @traceMappings_lists m inner target m.mappings [] [] [] List.nodup_nil
    List.nodup_nil
  rw [resolved_composeWith inner target hm, hs, hn, hls, hln, hsv, hnv]
  exact ⟨rfl, rfl⟩

end Compose

/-- A position outside the target, or one the inner map does not cover with an origin, stays
where it is. -/
theorem traceOne_of_uncovered {inner : SourceMap} {target : String} {r : Resolved}
    (h : r.source ≠ target ∨ (inner.mappingFor r.position).bind (·.origin) = none) :
    traceOne inner target r = r := by
  rcases h with h | h
  · exact Bundle.traceOne_of_ne h
  · simp [traceOne, h]

/-- A position in the target that the inner map covers with an origin `o` moves to `o`: the
source it resolves to, its position, and its name if it has one, else the name it had. -/
theorem traceOne_of_origin {inner : SourceMap} (hi : inner.Invariant) {target : String}
    {r : Resolved} {o : Origin} (hr : r.source = target)
    (ho : (inner.mappingFor r.position).bind (·.origin) = some o) :
    ∃ s, inner.resolvedSource o.source = some s ∧ (∀ k, o.name = some k → k < inner.names.length) ∧
      traceOne inner target r = ⟨s, o.position, o.name.elim r.name fun k => inner.names[k]?⟩ := by
  obtain ⟨x, hx, hxo⟩ := Option.bind_eq_some_iff.mp ho
  obtain ⟨hsrc, hname⟩ := hi.indexed x (Bundle.mem_mappings_of_mappingFor hx) o hxo
  obtain ⟨s, hs⟩ : ∃ s, inner.resolvedSource o.source = some s := by
    simp [SourceMap.resolvedSource, List.getElem?_eq_getElem hsrc]
  refine ⟨s, hs, hname, ?_⟩
  rcases hn : o.name with _ | k
  · simp [traceOne, hr, ho, hs, hn]
  · simp [traceOne, hr, ho, hs, hn, List.getElem?_eq_getElem (hname k hn)]

/-- Composing a map that keeps the invariant with a map read from JSON: a lookup finds an
answer exactly when it did before; an answer outside the target, or in it where the inner map
has no origin, is kept; an answer in the target that the inner map covers with an origin moves
there, taking the inner name when there is one. Every mapping keeps its generated position and
order and reads as the traced view; the sources and names are those the mappings read, without
repeats, in order of first use; and each source carries what the inner map embeds under its
name, or else the content it had. -/
theorem composeWith_reads {S U : SourceMap} {text : String} (hS : S.Invariant)
    (hU : SourceMap.ofJson text = .ok U) (f : String) (g : LineColumn) :
    ((S.composeWith U f).originFor g = none ↔ S.originFor g = none) ∧
    (∀ r, S.originFor g = some r →
      (r.source ≠ f ∨ (U.mappingFor r.position).bind (·.origin) = none) →
      (S.composeWith U f).originFor g = some r) ∧
    (∀ r o, S.originFor g = some r → r.source = f →
      (U.mappingFor r.position).bind (·.origin) = some o →
      ∃ s, U.resolvedSource o.source = some s ∧ (∀ k, o.name = some k → k < U.names.length) ∧
        (S.composeWith U f).originFor g = some ⟨s, o.position, o.name.elim r.name fun k => U.names[k]?⟩) ∧
    (S.composeWith U f).mappings.map (·.generated) = S.mappings.map (·.generated) ∧
    (S.composeWith U f).resolved = S.resolved.map (traceView U f) ∧
    (S.composeWith U f).sources =
      ((S.composeWith U f).resolved.filterMap fun p => p.2.map (·.source)).eraseDups ∧
    (S.composeWith U f).names =
      ((S.composeWith U f).resolved.filterMap fun p => p.2.bind (·.name)).eraseDups ∧
    ∀ s ∈ (S.composeWith U f).sources,
      (S.composeWith U f).sourceContent s = (U.embeddedContent s).orElse fun _ => S.sourceContent s := by
  have hU' : U.Invariant := (wellFormed_of_ofJson hU).invariant
  have hlook := originFor_composeWith hS.indexed U f g
  obtain ⟨hsrc, hnames⟩ := lists_composeWith U f hS.indexed
  refine ⟨?_, ?_, ?_, generated_composeWith U f hS.indexed, resolved_composeWith U f hS.indexed,
    hsrc, hnames, ?_⟩
  · rw [hlook]
    exact Option.map_eq_none_iff
  · intro r hr hun
    rw [hlook, hr, Option.map_some, traceOne_of_uncovered hun]
  · intro r o hr hrf ho
    obtain ⟨s, hs, hname, htrace⟩ := traceOne_of_origin hU' hrf ho
    exact ⟨s, hs, hname, by rw [hlook, hr, Option.map_some, htrace]⟩
  · intro s hs
    rw [sourceContent_composeWith U f hs, lookup_contentsByResolved]

/-- A printed rule's map, composed with the map its source came with, leads to the inner source,
position and name. -/
theorem composeWith_reads_sample :
    let S := (((Builder.empty none).addSource "a.css").1.addMapping
      ⟨⟨0, 0⟩, some ⟨0, ⟨0, 0⟩, none⟩⟩).build
    let U : SourceMap :=
      { file := none, sourceRoot := none, sources := ["a.scss"], contents := [none], names := ["c"],
        mappings := [⟨⟨0, 0⟩, some ⟨0, ⟨0, 0⟩, some 0⟩⟩] }
    let text := "\x7b\"version\":3,\"sources\":[\"a.scss\"],\"names\":[\"c\"],\"mappings\":\"AAAAA\"\x7d"
    S.Invariant ∧ SourceMap.ofJson text = .ok U ∧
      (S.composeWith U "a.css").originFor ⟨0, 3⟩ = some ⟨"a.scss", ⟨0, 0⟩, some "c"⟩ := by
  intro S U text
  have hS : S.Invariant := by
    refine Builder.Reachable.invariant_build (.addMapping _ (.addSource "a.css" (.empty none)) ?_)
    intro o ho
    cases ho
    exact ⟨by decide, rfl⟩
  have hU : SourceMap.ofJson text = .ok U := by
    dsimp only [text]
    cbv
  have hr : S.originFor ⟨0, 3⟩ = some ⟨"a.css", ⟨0, 0⟩, none⟩ := by
    cbv
  have ho : (U.mappingFor ⟨0, 0⟩).bind (·.origin) = some ⟨0, ⟨0, 0⟩, some 0⟩ := by
    cbv
  obtain ⟨s, hs, -, h⟩ := (composeWith_reads hS hU "a.css" ⟨0, 3⟩).2.2.1 _ _ hr rfl ho
  have hs' : s = "a.scss" := by
    simpa [U, SourceMap.resolvedSource] using hs.symm
  refine ⟨hS, hU, ?_⟩
  rw [h, hs']
  rfl

end CssBundle.SourceMap
