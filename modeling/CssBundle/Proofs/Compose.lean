import Mathlib
import CssBundle.SourceMap.Compose

/-!
# Composing a map with an inner map, read through its view

A map's mappings hold indices into its lists of sources and names. What a reader sees of a
mapping is what those indices resolve to (`resolveWith`): the generated position and, when the
indices are listed, the source, position and name it points to. `originFor` looks only at that
view, in generated order (`originFor_eq_coveringAt`).

Composing with an inner map rebuilds the lists of sources and names from scratch, so the indices
change, but the view changes only as `traceOne` says: a position in the target source is traced
through the inner map, any other stays as it was (`resolved_composeWith`). The rebuilt sources
are distinct, each is used by some mapping, and each carries the inner content recorded under
its name or else the content it had (`sourceContent_composeWith`).
-/

namespace CssBundle.SourceMap


def Mapping.Indexed (sc nc : Nat) (x : Mapping) : Prop :=
  ∀ o, x.origin = some o → o.source < sc ∧ ∀ n, o.name = some n → n < nc

theorem Mapping.Indexed.mono {sc nc sc' nc' : Nat} {x : Mapping} (h : x.Indexed sc nc)
    (hsc : sc ≤ sc') (hnc : nc ≤ nc') : x.Indexed sc' nc' := by
  intro o ho
  obtain ⟨hs, hn⟩ := h o ho
  exact ⟨Nat.lt_of_lt_of_le hs hsc, fun n hno => Nat.lt_of_lt_of_le (hn n hno) hnc⟩

def resolveWith (sources names : List String) (x : Mapping) : LineColumn × Option Resolved :=
  (x.generated, x.origin.bind fun o =>
    sources[o.source]?.map fun s => ⟨s, o.position, o.name.bind fun n => names[n]?⟩)

/-- The view of a map: each mapping, in order, as it resolves. -/
def resolved (m : SourceMap) : List (LineColumn × Option Resolved) :=
  m.mappings.map (resolveWith m.sources m.names)

/-- What a view gives for a generated position: the last entry at or before it, if that entry
is on the same line. -/
def coveringAt (rs : List (LineColumn × Option Resolved)) (g : LineColumn) : Option Resolved :=
  match (rs.takeWhile fun r => r.1.le g).getLast? with
  | some r => if r.1.line = g.line then r.2 else none
  | none => none

/-- One position traced through the inner map `inner` when it lies in `target`: it takes the
inner source, position and, when the inner map has one, name. -/
def traceOne (inner : SourceMap) (target : String) (r : Resolved) : Resolved :=
  if r.source = target then
    match (inner.mappingFor r.position).bind (·.origin) with
    | some uo =>
      match inner.resolvedSource uo.source with
      | some s => ⟨s, uo.position, (uo.name.bind fun n => inner.names[n]?).orElse fun _ => r.name⟩
      | none => r
    | none => r
  else r

def traceView (inner : SourceMap) (target : String) (p : LineColumn × Option Resolved) :
    LineColumn × Option Resolved :=
  (p.1, p.2.map (traceOne inner target))

section Intern

variable {xs : List String} {x : String}

theorem prefix_intern : xs <+: (intern xs x).1 := by
  unfold intern
  split
  · exact List.prefix_refl xs
  · exact List.prefix_append xs [x]

theorem getElem?_intern : (intern xs x).1[(intern xs x).2]? = some x := by
  unfold intern
  split
  · next i h => exact List.idxOf?_eq_some_iff.mp h |>.2.1 ▸ List.getElem?_eq_getElem _
  · simp

theorem nodup_intern (h : xs.Nodup) : (intern xs x).1.Nodup := by
  unfold intern
  split
  · exact h
  · next hx =>
    have hnot : x ∉ xs := List.idxOf?_eq_none_iff.mp hx
    refine List.nodup_append.mpr ⟨h, by simp, ?_⟩
    simpa using fun a ha (e : a = x) => hnot (e ▸ ha)

theorem mem_intern {y : String} : y ∈ (intern xs x).1 ↔ y ∈ xs ∨ y = x := by
  unfold intern
  split
  · next i h =>
    obtain ⟨hi, hget, -⟩ := List.idxOf?_eq_some_iff.mp h
    have hx : x ∈ xs := hget ▸ List.getElem_mem hi
    constructor
    · exact Or.inl
    · rintro (hy | rfl)
      · exact hy
      · exact hx
  · simp

end Intern

theorem getElem?_of_extension {S S' : List String} (h : S <+: S') {i : Nat} (hi : i < S.length) :
    S'[i]? = S[i]? := by
  rw [List.prefix_iff_getElem?.mp h i hi, List.getElem?_eq_getElem hi]

theorem resolveWith_of_extension {S S' N N' : List String} (hS : S <+: S') (hN : N <+: N')
    {x : Mapping} (hx : x.Indexed S.length N.length) :
    resolveWith S' N' x = resolveWith S N x := by
  unfold resolveWith
  rcases ho : x.origin with _ | o
  · rfl
  · obtain ⟨hs, hn⟩ := hx o ho
    rcases hno : o.name with _ | n
    · simp [getElem?_of_extension hS hs, hno]
    · simp [getElem?_of_extension hS hs, hno, getElem?_of_extension hN (hn n hno)]

theorem traceOrigin_eq {m : SourceMap} (inner : SourceMap) (target : String) {o : Origin}
    {s : String} (hs : m.sources[o.source]? = some s) :
    traceOrigin m inner target o =
      let r := traceOne inner target ⟨s, o.position, o.name.bind fun n => m.names[n]?⟩
      (r.source, r.position, r.name) := by
  unfold traceOrigin traceOne
  simp only [hs, Option.getD_some]
  split
  · rcases hf : inner.mappingFor o.position with _ | up
    · simp
    · rcases hu : up.origin with _ | uo
      · simp [hu]
      · rcases hr : inner.resolvedSource uo.source with _ | r <;> simp [hu, hr]
  · rfl

section Trace

variable {m inner : SourceMap} {target : String}

/-- Rewriting mappings keeps those already written and only extends the lists of sources and
names; each rewritten mapping is listed in the final lists and reads there as the traced view
of the mapping it came from. -/
theorem traceMappings_spec (ms : List Mapping)
    (hm : ∀ x ∈ ms, x.Indexed m.sources.length m.names.length) :
    ∀ (S N : List String) (acc : List Mapping),
      ∃ out, (traceMappings m inner target ms S N acc).1 = acc.reverse ++ out ∧
        S <+: (traceMappings m inner target ms S N acc).2.1 ∧
        N <+: (traceMappings m inner target ms S N acc).2.2 ∧
        (∀ y ∈ out, y.Indexed (traceMappings m inner target ms S N acc).2.1.length
          (traceMappings m inner target ms S N acc).2.2.length) ∧
        out.map (resolveWith (traceMappings m inner target ms S N acc).2.1
          (traceMappings m inner target ms S N acc).2.2) =
          ms.map fun x => traceView inner target (resolveWith m.sources m.names x) := by
  induction ms with
  | nil => intro S N acc; exact ⟨[], by simp [traceMappings], List.prefix_refl S,
      List.prefix_refl N, by simp, rfl⟩
  | cons x ms ih =>
    intro S N acc
    have hms := ih fun y hy => hm y (List.mem_cons_of_mem x hy)
    rcases ho : x.origin with _ | o
    · obtain ⟨out, h1, hS, hN, hidx, hview⟩ := hms S N (x :: acc)
      refine ⟨x :: out, ?_, ?_, ?_, ?_, ?_⟩ <;> simp only [traceMappings, ho]
      · simp [h1]
      · exact hS
      · exact hN
      · intro y hy
        rcases List.mem_cons.mp hy with rfl | hy
        · intro o' ho'
          simp [ho] at ho'
        · exact hidx y hy
      · simp [hview, resolveWith, traceView, ho]
    · obtain ⟨hsrc, hname⟩ := hm x List.mem_cons_self o ho
      obtain ⟨s, hs⟩ : ∃ s, m.sources[o.source]? = some s :=
        ⟨_, List.getElem?_eq_getElem hsrc⟩
      set r := traceOne inner target ⟨s, o.position, o.name.bind fun n => m.names[n]?⟩ with hr
      obtain ⟨N1, ni, hN1, hni, hnil, hstep⟩ : ∃ N1 ni, N <+: N1 ∧ ni.bind (N1[·]?) = r.name ∧
          (∀ n, ni = some n → n < N1.length) ∧
          traceMappings m inner target (x :: ms) S N acc =
            traceMappings m inner target ms (intern S r.source).1 N1
              (⟨x.generated, some ⟨(intern S r.source).2, r.position, ni⟩⟩ :: acc) := by
        rcases hn : r.name with _ | n
        · exact ⟨N, none, List.prefix_refl N, rfl, nofun,
            by simp [traceMappings, ho, traceOrigin_eq inner target hs, ← hr, hn]⟩
        · refine ⟨(intern N n).1, some (intern N n).2, prefix_intern, getElem?_intern, ?_,
            by simp [traceMappings, ho, traceOrigin_eq inner target hs, ← hr, hn]⟩
          intro i hi
          cases hi
          exact (List.getElem?_eq_some_iff.mp getElem?_intern).1
      have hsi : (intern S r.source).2 < (intern S r.source).1.length :=
        (List.getElem?_eq_some_iff.mp getElem?_intern).1
      set y : Mapping := ⟨x.generated, some ⟨(intern S r.source).2, r.position, ni⟩⟩ with hy
      have hyidx : y.Indexed (intern S r.source).1.length N1.length := by
        intro o' ho'
        cases ho'
        exact ⟨hsi, hnil⟩
      rw [hstep]
      obtain ⟨out, h1, hS, hN, hidx, hview⟩ := hms (intern S r.source).1 N1 (y :: acc)
      refine ⟨y :: out, by simp [h1], prefix_intern.trans hS, hN1.trans hN, ?_, ?_⟩
      · intro z hz
        rcases List.mem_cons.mp hz with rfl | hz
        · intro o' ho'
          obtain ⟨h1', h2'⟩ := hyidx o' ho'
          exact ⟨Nat.lt_of_lt_of_le h1' hS.length_le,
            fun n hn => Nat.lt_of_lt_of_le (h2' n hn) hN.length_le⟩
        · exact hidx z hz
      · rw [List.map_cons, List.map_cons, hview, resolveWith_of_extension hS hN hyidx]
        simp [resolveWith, traceView, ho, hs, hy, getElem?_intern, hni, ← hr]

theorem traceMappings_nodup (ms : List Mapping) :
    ∀ (S N : List String) (acc : List Mapping), S.Nodup →
      (traceMappings m inner target ms S N acc).2.1.Nodup := by
  induction ms with
  | nil => intro S N acc h; exact h
  | cons x ms ih =>
    intro S N acc h
    rcases ho : x.origin with _ | o
    · simp only [traceMappings, ho]
      exact ih S N _ h
    · simp only [traceMappings, ho]
      split <;> exact ih _ _ _ (nodup_intern h)

theorem mem_traceMappings_sources (ms : List Mapping) :
    ∀ (S N : List String) (acc : List Mapping), ∀ s ∈ (traceMappings m inner target ms S N acc).2.1,
      s ∈ S ∨ ∃ x ∈ ms, ∃ o, x.origin = some o ∧ (traceOrigin m inner target o).1 = s := by
  induction ms with
  | nil => intro S N acc s hs; exact Or.inl hs
  | cons x ms ih =>
    intro S N acc s hs
    rcases ho : x.origin with _ | o
    · simp only [traceMappings, ho] at hs
      rcases ih S N _ s hs with h | ⟨y, hy, h⟩
      · exact Or.inl h
      · exact Or.inr ⟨y, List.mem_cons_of_mem x hy, h⟩
    · simp only [traceMappings, ho] at hs
      have key : ∀ N1 acc1, s ∈ (traceMappings m inner target ms
          (intern S (traceOrigin m inner target o).1).1 N1 acc1).2.1 →
          s ∈ S ∨ ∃ x' ∈ x :: ms, ∃ o', x'.origin = some o' ∧
            (traceOrigin m inner target o').1 = s := by
        intro N1 acc1 h
        rcases ih _ N1 acc1 s h with h | ⟨y, hy, h⟩
        · rcases mem_intern.mp h with h | rfl
          · exact Or.inl h
          · exact Or.inr ⟨x, List.mem_cons_self, o, ho, rfl⟩
        · exact Or.inr ⟨y, List.mem_cons_of_mem x hy, h⟩
      split at hs <;> exact key _ _ hs

end Trace

def Indexed (m : SourceMap) : Prop :=
  ∀ x ∈ m.mappings, x.Indexed m.sources.length m.names.length

section Compose

variable {m : SourceMap} (inner : SourceMap) (target : String)

theorem composeWith_parts :
    (m.composeWith inner target).mappings = (traceMappings m inner target m.mappings [] [] []).1 ∧
    (m.composeWith inner target).sources = (traceMappings m inner target m.mappings [] [] []).2.1 ∧
    (m.composeWith inner target).names = (traceMappings m inner target m.mappings [] [] []).2.2 := by
  simp [SourceMap.composeWith]

theorem resolved_composeWith (hm : m.Indexed) :
    (m.composeWith inner target).resolved = m.resolved.map (traceView inner target) := by
  obtain ⟨hms, hs, hn⟩ := @composeWith_parts m inner target
  obtain ⟨out, h1, -, -, -, hview⟩ := @traceMappings_spec m inner target
    m.mappings hm [] [] []
  rw [SourceMap.resolved, hms, hs, hn, h1, List.reverse_nil, List.nil_append, hview,
    SourceMap.resolved, List.map_map]
  rfl

theorem indexed_composeWith (hm : m.Indexed) : (m.composeWith inner target).Indexed := by
  obtain ⟨hms, hs, hn⟩ := @composeWith_parts m inner target
  obtain ⟨out, h1, -, -, hidx, -⟩ := @traceMappings_spec m inner target
    m.mappings hm [] [] []
  intro y hy
  rw [hms, h1, List.reverse_nil, List.nil_append] at hy
  rw [hs, hn]
  exact hidx y hy

theorem nodup_composeWith : (m.composeWith inner target).sources.Nodup := by
  rw [(@composeWith_parts m inner target).2.1]
  exact traceMappings_nodup _ _ _ _ List.nodup_nil

theorem mem_sources_composeWith (hm : m.Indexed) {s : String}
    (hs : s ∈ (m.composeWith inner target).sources) :
    ∃ p ∈ m.resolved, ∃ r, p.2 = some r ∧ (traceOne inner target r).source = s := by
  rw [(@composeWith_parts m inner target).2.1] at hs
  rcases mem_traceMappings_sources _ _ _ _ s hs with h | ⟨x, hx, o, ho, rfl⟩
  · cases h
  · obtain ⟨hsrc, -⟩ := hm x hx o ho
    obtain ⟨src, hsrc'⟩ : ∃ src, m.sources[o.source]? = some src :=
      ⟨_, List.getElem?_eq_getElem hsrc⟩
    refine ⟨resolveWith m.sources m.names x, List.mem_map_of_mem hx, _, ?_,
      by rw [traceOrigin_eq inner target hsrc']⟩
    simp [resolveWith, ho, hsrc']

/-- Each source of the composed map carries the inner content recorded under its name, or else
the content it had. -/
theorem sourceContent_composeWith {s : String} (hs : s ∈ (m.composeWith inner target).sources) :
    (m.composeWith inner target).sourceContent s =
      (inner.contentsByResolved.lookup s).orElse fun _ => m.sourceContent s := by
  obtain ⟨i, hi⟩ : ∃ i, (m.composeWith inner target).sources.idxOf? s = some i :=
    Option.isSome_iff_exists.mp (List.isSome_idxOf?.mpr hs)
  obtain ⟨hlt, hget, -⟩ := List.idxOf?_eq_some_iff.mp hi
  have hcontents : (m.composeWith inner target).contents =
      (m.composeWith inner target).sources.map fun s =>
        (inner.contentsByResolved.lookup s).orElse fun _ => m.sourceContent s := by
    simp [SourceMap.composeWith]
  rw [SourceMap.sourceContent, hi, hcontents]
  simp [List.getElem?_eq_getElem hlt, hget]

end Compose

theorem originFor_eq_coveringAt (m : SourceMap) (g : LineColumn) :
    m.originFor g = coveringAt m.resolved g := by
  unfold SourceMap.originFor SourceMap.mappingFor coveringAt SourceMap.resolved
  rw [List.takeWhile_map, List.getLast?_map]
  have hp : ((fun r : LineColumn × Option Resolved => r.1.le g) ∘
      resolveWith m.sources m.names) = fun x => x.generated.le g := rfl
  rw [hp]
  cases hx : (m.mappings.takeWhile fun x => x.generated.le g).getLast? with
  | none => rfl
  | some x =>
    by_cases hl : x.generated.line = g.line
    · rcases ho : x.origin with _ | o
      · simp [resolveWith, hl, ho]
      · rcases hs : m.sources[o.source]? with _ | s <;> simp [resolveWith, hl, ho, hs]
    · simp [resolveWith, hl]

/-- Changing what entries point to, and not where they stand, changes what a position reads
the same way. -/
theorem coveringAt_map (rs : List (LineColumn × Option Resolved)) (f : Resolved → Resolved)
    (g : LineColumn) :
    coveringAt (rs.map fun p => (p.1, p.2.map f)) g = (coveringAt rs g).map f := by
  unfold coveringAt
  rw [List.takeWhile_map, List.getLast?_map]
  have hle : ((fun r : LineColumn × Option Resolved => r.1.le g) ∘
      fun p : LineColumn × Option Resolved => (p.1, p.2.map f)) =
      fun r : LineColumn × Option Resolved => r.1.le g := rfl
  rw [hle]
  cases (rs.takeWhile fun r => r.1.le g).getLast? with
  | none => rfl
  | some p => by_cases hl : p.1.line = g.line <;> simp [hl]

theorem mem_sources_of_mem_resolved {m : SourceMap} {p : LineColumn × Option Resolved}
    (hp : p ∈ m.resolved) {r : Resolved} (hr : p.2 = some r) : r.source ∈ m.sources := by
  obtain ⟨x, -, rfl⟩ := List.mem_map.mp hp
  simp only [resolveWith, Option.bind_eq_some_iff, Option.map_eq_some_iff] at hr
  obtain ⟨o, -, s, hs, rfl⟩ := hr
  exact List.mem_of_getElem? hs

theorem originFor_composeWith {m : SourceMap} (hm : m.Indexed) (inner : SourceMap)
    (target : String) (g : LineColumn) :
    (m.composeWith inner target).originFor g = (m.originFor g).map (traceOne inner target) := by
  rw [originFor_eq_coveringAt, originFor_eq_coveringAt, resolved_composeWith inner target hm]
  exact coveringAt_map _ _ g

end CssBundle.SourceMap
