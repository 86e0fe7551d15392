import CssBundle.SourceMap.Basic

/-!
# Building a source map

A builder collects sources and mappings while a printer writes its output. It keeps a table that
gives each registered source the id it was handed out. Adding a source that the table knows gives
back its id; a new source goes to the end of the list with no content, and into the table with
its index there, so the table stays the inverse of the list. Setting the content of an index that
is not listed does nothing. Building sorts the mappings by generated position, keeping the order
of mappings added at one position, and gives a map with no names and no source root.
-/

namespace CssBundle.SourceMap

/-- Adding a new source to the end of the list and to the table, at its index in the list, keeps
the table the inverse of the list. -/
theorem lookup_insert_idxOf? {ids : List (String × Nat)} {sources : List String}
    (h : ∀ s, ids.lookup s = sources.idxOf? s) {x : String} (hx : ids.lookup x = none) (s : String) :
    ((x, sources.length) :: ids).lookup s = (sources ++ [x]).idxOf? s := by
  have hnot : x ∉ sources := List.idxOf?_eq_none_iff.mp ((h x).symm.trans hx)
  rw [List.lookup_cons, List.idxOf?, List.findIdx?_append, ← List.idxOf?, ← h s]
  by_cases hs : s = x
  · subst hs
    simp [hx]
  · have hsx : (s == x) = false := beq_false_of_ne hs
    have hxs : (x == s) = false := beq_false_of_ne (Ne.symm hs)
    simp [hsx, hxs]

/-- A source map under construction. -/
structure Builder where
  file : Option String
  sources : List String := []
  /-- The id handed out for each registered source. -/
  sourceIds : List (String × Nat) := []
  contents : List (Option String) := []
  mappings : Array Mapping := #[]
  ids_inverse : ∀ s, sourceIds.lookup s = sources.idxOf? s := by intro; rfl

instance : Inhabited Builder := ⟨{ file := none }⟩

namespace Builder

def empty (file : Option String) : Builder := { file := file }

def addSource (b : Builder) (source : String) : Builder × Nat :=
  match h : b.sourceIds.lookup source with
  | some i => (b, i)
  | none =>
    ({ b with
        sources := b.sources ++ [source]
        sourceIds := (source, b.sources.length) :: b.sourceIds
        contents := b.contents ++ [none]
        ids_inverse := lookup_insert_idxOf? b.ids_inverse h },
      b.sources.length)

def setContent (b : Builder) (i : Nat) (content : String) : Builder :=
  if i < b.contents.length then { b with contents := b.contents.set i (some content) } else b

def addMapping (b : Builder) (m : Mapping) : Builder := { b with mappings := b.mappings.push m }

def build (b : Builder) : SourceMap :=
  { file := b.file, sourceRoot := none, sources := b.sources, contents := b.contents,
    names := [], mappings := sortMappings b.mappings.toList }

theorem lookup_eq_none_iff (b : Builder) (s : String) :
    b.sourceIds.lookup s = none ↔ s ∉ b.sources := by
  rw [b.ids_inverse s, List.idxOf?_eq_none_iff]

theorem addSource_of_mem {b : Builder} {s : String} (h : s ∈ b.sources) :
    b.addSource s = (b, (b.sources.idxOf? s).getD b.sources.length) := by
  have hids := b.ids_inverse s
  unfold addSource
  split
  · next i hl => rw [← hids, hl]; rfl
  · next hl => exact absurd h ((lookup_eq_none_iff b s).mp hl)

/-- Registering a new source appends it with no content, enters it into the table at its index,
and hands out that index. -/
theorem addSource_of_not_mem {b : Builder} {s : String} (h : s ∉ b.sources) :
    (b.addSource s).1.sources = b.sources ++ [s] ∧
      (b.addSource s).1.sourceIds = (s, b.sources.length) :: b.sourceIds ∧
      (b.addSource s).1.contents = b.contents ++ [none] ∧
      (b.addSource s).1.mappings = b.mappings ∧ (b.addSource s).1.file = b.file ∧
      (b.addSource s).2 = b.sources.length := by
  unfold addSource
  split
  · next i hl => simp [(lookup_eq_none_iff b s).mpr h] at hl
  · exact ⟨rfl, rfl, rfl, rfl, rfl, rfl⟩

theorem sources_addSource (b : Builder) (s : String) :
    (b.addSource s).1.sources = if s ∈ b.sources then b.sources else b.sources ++ [s] := by
  by_cases h : s ∈ b.sources
  · rw [addSource_of_mem h, if_pos h]
  · rw [(addSource_of_not_mem h).1, if_neg h]

theorem contents_addSource (b : Builder) (s : String) :
    (b.addSource s).1.contents = if s ∈ b.sources then b.contents else b.contents ++ [none] := by
  by_cases h : s ∈ b.sources
  · rw [addSource_of_mem h, if_pos h]
  · rw [(addSource_of_not_mem h).2.2.1, if_neg h]

theorem snd_addSource (b : Builder) (s : String) :
    (b.addSource s).2 = (b.sources.idxOf? s).getD b.sources.length := by
  by_cases h : s ∈ b.sources
  · rw [addSource_of_mem h]
  · rw [(addSource_of_not_mem h).2.2.2.2.2, List.idxOf?_eq_none_iff.mpr h]
    rfl

@[simp] theorem file_addSource (b : Builder) (s : String) : (b.addSource s).1.file = b.file := by
  by_cases h : s ∈ b.sources
  · rw [addSource_of_mem h]
  · exact (addSource_of_not_mem h).2.2.2.2.1

@[simp] theorem mappings_addSource (b : Builder) (s : String) :
    (b.addSource s).1.mappings = b.mappings := by
  by_cases h : s ∈ b.sources
  · rw [addSource_of_mem h]
  · exact (addSource_of_not_mem h).2.2.2.1

theorem addSource_fst_sources (b : Builder) (s : String) :
    s ∈ (b.addSource s).1.sources := by
  rw [sources_addSource]
  split
  · assumption
  · simp

end Builder

end CssBundle.SourceMap
