import Mathlib
import CssBundle.Proofs.Upstream

/-!
# A builder after any sequence of calls

A builder is driven by three calls: registering a source, embedding a source's content, and adding
a mapping. It keeps a table from sources to the ids it handed out, and registering looks the
source up there; a new source is appended to the list and entered into the table at its index, so
the table is the inverse of the list of sources (`Builder.ids_inverse`).

Whatever calls a builder has taken, its sources are distinct, so the table and the list are
inverse to each other, and there is one content slot per source (`Kept`, kept by every call,
`Kept.call`). From these follow what the next call does: registering hands out the index of the
source, appending it exactly when it was not listed; embedding fills one slot, and does nothing
past the last source. Building sorts the mappings added by generated position, and the sort is
stable (`StablySorted`): mappings at one position keep the order they were added in.

Main statement: `run_kept`.
-/
namespace CssBundle.SourceMap

/-- `ys` is `xs` stably sorted by generated position: in order of generated position, and at each
generated position the mappings of `xs` there, in their order in `xs`. -/
structure StablySorted (xs ys : List Mapping) : Prop where
  sorted : ys.Pairwise fun a b => a.generated.le b.generated
  stable : ∀ g, ys.filter (fun x => decide (x.generated = g)) = xs.filter (fun x => decide (x.generated = g))

theorem filter_sortMappings (ms : List Mapping) (g : LineColumn) :
    (sortMappings ms).filter (fun x => decide (x.generated = g)) =
      ms.filter (fun x => decide (x.generated = g)) := by
  let p : Mapping → Bool := fun x => decide (x.generated = g)
  have hpair : (ms.filter p).Pairwise fun a b => a.generated.le b.generated := by
    refine List.pairwise_of_forall_mem_list fun a ha b hb => ?_
    obtain ⟨-, ha⟩ := List.mem_filter.mp ha
    obtain ⟨-, hb⟩ := List.mem_filter.mp hb
    simp only [p, decide_eq_true_eq] at ha hb
    rw [ha, hb]
    exact LineColumn.le_refl g
  have hsub : List.Sublist (ms.filter p) (sortMappings ms) :=
    @List.sublist_mergeSort _ (fun a b => a.generated.le b.generated) ms
      (fun _ _ _ => LineColumn.le_trans) (fun a b => LineColumn.le_total a.generated b.generated)
      _ hpair List.filter_sublist
  have hsub' : List.Sublist (ms.filter p) ((sortMappings ms).filter p) := by
    simpa [List.filter_filter] using hsub.filter p
  have hlen : ((sortMappings ms).filter p).length = (ms.filter p).length :=
    ((List.mergeSort_perm ms _).filter p).length_eq
  exact (hsub'.eq_of_length hlen.symm).symm

theorem stablySorted_sortMappings (ms : List Mapping) : StablySorted ms (sortMappings ms) :=
  ⟨sorted_sortMappings ms, filter_sortMappings ms⟩

theorem idxOf?_eq_some_iff_of_nodup {xs : List String} (h : xs.Nodup) {x : String} {i : Nat} :
    xs.idxOf? x = some i ↔ xs[i]? = some x := by
  rw [List.idxOf?_eq_some_iff, List.getElem?_eq_some_iff]
  constructor
  · rintro ⟨hi, hget, -⟩
    exact ⟨hi, hget⟩
  · rintro ⟨hi, hget⟩
    refine ⟨hi, hget, fun j hj hjx => ?_⟩
    have hji : j = i := (h.getElem_inj_iff).mp (hjx.trans hget.symm)
    omega

namespace Builder

/-- One call on a builder, with what it is given. -/
inductive Call where
  /-- Register a source. -/
  | addSource (source : String)
  /-- Embed the content of the source at an index. -/
  | setContent (i : Nat) (content : String)
  /-- Add a mapping. -/
  | addMapping (m : Mapping)
  deriving Repr, DecidableEq

def Call.added : Call → Option Mapping
  | .addMapping m => some m
  | _ => none

/-- Makes one call; the id that registering hands out is dropped. -/
def call (b : Builder) : Call → Builder
  | .addSource s => (b.addSource s).1
  | .setContent i c => b.setContent i c
  | .addMapping m => b.addMapping m

def run (file : Option String) (calls : List Call) : Builder :=
  calls.foldl call (empty file)

/-- What a builder keeps after the calls `calls`, made from an empty builder for `file`: distinct
sources, one content slot per source, the file it was made for, and the mappings added, in the
order they were added. -/
structure Kept (file : Option String) (calls : List Call) (b : Builder) : Prop where
  nodup : b.sources.Nodup
  contents_length : b.contents.length = b.sources.length
  file_eq : b.file = file
  mappings_eq : b.mappings.toList = calls.filterMap Call.added

theorem kept_empty (file : Option String) : Kept file [] (empty file) :=
  ⟨List.nodup_nil, rfl, rfl, rfl⟩

theorem setContent_eq {b : Builder} (hc : b.contents.length = b.sources.length) (i : Nat) (c : String) :
    b.setContent i c =
      if i < b.sources.length then { b with contents := b.contents.set i (some c) } else b := by
  unfold setContent
  rw [hc]

theorem Kept.call {file : Option String} {calls : List Call} {b : Builder} (h : Kept file calls b)
    (c : Call) : Kept file (calls ++ [c]) (b.call c) := by
  cases c with
  | addSource x =>
    obtain ⟨hsrc, -⟩ := addSource_eq_intern b x
    refine ⟨?_, contents_length_addSource h.contents_length x, ?_, ?_⟩
    · simpa only [Builder.call, hsrc] using nodup_intern h.nodup
    · simpa [Builder.call] using h.file_eq
    · simp [Builder.call, h.mappings_eq, Call.added]
  | setContent i content =>
    obtain ⟨hsrc, hms, hfile⟩ := setContent_sources b i content
    refine ⟨?_, ?_, ?_, ?_⟩
    · simpa only [Builder.call, hsrc] using h.nodup
    · simp only [Builder.call, contents_setContent, List.length_set, hsrc]
      exact h.contents_length
    · simpa only [Builder.call, hfile] using h.file_eq
    · simp [Builder.call, hms, h.mappings_eq, Call.added]
  | addMapping m =>
    exact ⟨h.nodup, h.contents_length, h.file_eq,
      by simp [Builder.call, addMapping, h.mappings_eq, Call.added]⟩

theorem Kept.foldl {file : Option String} {pre : List Call} {b : Builder} (h : Kept file pre b)
    (calls : List Call) : Kept file (pre ++ calls) (calls.foldl Builder.call b) := by
  induction calls generalizing pre b with
  | nil => simpa using h
  | cons c calls ih =>
    rw [List.foldl_cons, List.append_cons]
    exact ih (h.call c)

theorem kept_run (file : Option String) (calls : List Call) : Kept file calls (run file calls) := by
  have h := (kept_empty file).foldl calls
  rwa [List.nil_append] at h

/-- Whatever calls a builder for `file` has taken, its sources are distinct, and its table of ids
is exactly the inverse of its list of sources; there is one content slot per source. Registering
`x` next hands out an index that lists `x`; it changes nothing when `x` is listed, and otherwise
appends `x` with an empty content slot and enters it into the table at its index. Embedding
content `c` at `i` next fills slot `i` and changes nothing else, and changes nothing at all past the
last source. Building gives the map of `file` with these sources and contents, no names and no
source root, whose mappings are those added by the calls, stably sorted by generated position. -/
theorem run_kept (file : Option String) (calls : List Call) :
    let b := run file calls
    b.sources.Nodup ∧
    (∀ x i, b.sourceIds.lookup x = some i ↔ b.sources[i]? = some x) ∧
    b.contents.length = b.sources.length ∧
    (∀ x, (b.addSource x).1.sources[(b.addSource x).2]? = some x ∧
      (x ∈ b.sources → (b.addSource x).1 = b) ∧
      (x ∉ b.sources → (b.addSource x).1.sources = b.sources ++ [x] ∧
        (b.addSource x).1.sourceIds = (x, b.sources.length) :: b.sourceIds ∧
        (b.addSource x).1.contents = b.contents ++ [none] ∧
        (b.addSource x).1.mappings = b.mappings ∧ (b.addSource x).1.file = b.file)) ∧
    (∀ i c, b.setContent i c =
      if i < b.sources.length then { b with contents := b.contents.set i (some c) } else b) ∧
    b.build.file = file ∧ b.build.sourceRoot = none ∧ b.build.sources = b.sources ∧
    b.build.contents = b.contents ∧ b.build.names = [] ∧
    StablySorted (calls.filterMap Call.added) b.build.mappings := by
  intro b
  have hk : Kept file calls b := kept_run file calls
  refine ⟨hk.nodup, fun x i => ?_, hk.contents_length, fun x => ⟨?_, fun hx => ?_, fun hx => ?_⟩,
    fun i c => setContent_eq hk.contents_length i c, hk.file_eq, rfl, rfl, rfl, rfl, ?_⟩
  · rw [b.ids_inverse x]
    exact idxOf?_eq_some_iff_of_nodup hk.nodup
  · obtain ⟨hsrc, hid⟩ := addSource_eq_intern b x
    rw [hsrc, hid]
    exact getElem?_intern
  · exact congrArg Prod.fst (addSource_of_mem hx)
  · obtain ⟨h₁, h₂, h₃, h₄, h₅, -⟩ := addSource_of_not_mem hx
    exact ⟨h₁, h₂, h₃, h₄, h₅⟩
  · rw [← hk.mappings_eq]
    exact stablySorted_sortMappings _

/-- Sources are listed in the order of their first registration. -/
example : (run none [.addSource "b.css", .addSource "a.css", .addSource "b.css"]).sources =
    ["b.css", "a.css"] := by
  decide

end Builder

end CssBundle.SourceMap
