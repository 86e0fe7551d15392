import Mathlib
import CssBundle.Bundle.Merge

/-!
# What merging keeps, in which order, and what it warns about

Merging walks the rules of all stylesheets once, in file order. This module describes the
outcome of that walk without the walk. The merged rules are the rules that are not charsets,
imports first, each class in its order (`mergedRules`). The warnings come one per rule at
most, in rule order, each decided by the rule and the rules before it (`warningAfter`): a
charset warns when it does not name UTF-8, and an import warns when some rule before it is one
an import may not move past (`blocksImport`).

Main statement: `merge_eq`, which gives the result of `merge` for every list of stylesheets.
It rests on `foldl_step_eq_after`: the state after any prefix of the rules is `MergeState.after`
of that prefix.
-/

namespace CssBundle.Bundle

open Css

/-- Whether an import may not move past a rule: the rule is neither an import, a charset, a
comment nor an `@layer` statement. -/
def blocksImport (r : Rule) : Bool := !r.isCharset && !r.isImport && !isNeutral r

def warningAfter (before : List Rule) (r : Rule) : Option MergeWarning :=
  if r.isCharset then charsetWarning r
  else if r.isImport then
    (before.find? blocksImport).map fun b => hoistWarning r b.describe b.span.source
  else none

/-- The warnings of merging the rules `rs`: the warning of each rule, given the rules before
it, in rule order. -/
def mergeWarnings (rs : List Rule) : List MergeWarning :=
  (rs.inits.zip rs).filterMap fun p => warningAfter p.1 p.2

/-- The rules merging keeps of `rs`: all but the charsets, the imports first. -/
def mergedRules (rs : List Rule) : List Rule :=
  let kept := rs.filter fun r => !r.isCharset
  kept.filter Rule.isImport ++ kept.filter fun r => !r.isImport

/-- The state merging reaches after the rules `rs`; its lists are kept in reverse. -/
def MergeState.after (rs : List Rule) : MergeState where
  imports := (rs.filter fun r => !r.isCharset && r.isImport).reverse
  others := (rs.filter fun r => !r.isCharset && !r.isImport).reverse
  warnings := (mergeWarnings rs).reverse
  blocker := (rs.find? blocksImport).map fun b => (b.describe, b.span.source)

theorem inits_zip_concat {α : Type} (xs : List α) (x : α) :
    (xs ++ [x]).inits.zip (xs ++ [x]) = xs.inits.zip xs ++ [(xs, x)] := by
  induction xs with
  | nil => rfl
  | cons a xs ih =>
    rw [List.cons_append, List.inits, List.zip_cons_cons, List.zip_map_left, ih]
    simp [List.zip_map_left]

theorem mergeWarnings_concat (rs : List Rule) (r : Rule) :
    mergeWarnings (rs ++ [r]) = mergeWarnings rs ++ (warningAfter rs r).toList := by
  rw [mergeWarnings, mergeWarnings, inits_zip_concat, List.filterMap_append]
  cases h : warningAfter rs r <;> simp [h]

theorem find?_blocksImport_concat (rs : List Rule) (r : Rule) :
    (rs ++ [r]).find? blocksImport =
      (rs.find? blocksImport).or (if blocksImport r then some r else none) := by
  rw [List.find?_append]
  split <;> simp_all

theorem MergeState.step_after (rs : List Rule) (r : Rule) :
    (MergeState.after rs).step r = MergeState.after (rs ++ [r]) := by
  rw [MergeState.after, MergeState.after, mergeWarnings_concat, find?_blocksImport_concat]
  by_cases hc : r.isCharset
  · have hb : blocksImport r = false := by simp [blocksImport, hc]
    cases hw : charsetWarning r <;> simp [MergeState.step, warningAfter, hc, hb, hw]
  · by_cases hi : r.isImport
    · have hb : blocksImport r = false := by simp [blocksImport, hi]
      cases hf : rs.find? blocksImport <;> simp [MergeState.step, warningAfter, hc, hi, hb, hf]
    · cases hf : rs.find? blocksImport <;>
        cases hn : isNeutral r <;> simp [MergeState.step, warningAfter, blocksImport, hc, hi, hn]

theorem foldl_step_eq_after (rs : List Rule) :
    rs.foldl MergeState.step {} = MergeState.after rs := by
  induction rs using List.reverseRecOn with
  | nil => rfl
  | append_singleton rs r ih =>
    rw [List.foldl_append, ih, List.foldl_cons, List.foldl_nil, MergeState.step_after]

theorem mergedRules_perm (rs : List Rule) :
    (mergedRules rs).Perm (rs.filter fun r => !r.isCharset) := by
  exact List.filter_append_perm Rule.isImport _

theorem charsetWarning_isSome_iff (r : Rule) :
    (charsetWarning r).isSome ↔
      ∃ name prelude body span, r = .atRule name prelude body span ∧
        asciiLower (stripQuotes prelude) ≠ "utf-8" := by
  cases r with
  | atRule name prelude body span =>
    by_cases h : asciiLower (stripQuotes prelude) = "utf-8" <;> simp [charsetWarning, h]
  | style => simp [charsetWarning]
  | comment => simp [charsetWarning]

/-- A rule warns when it is a charset that does not name UTF-8, or an import after a rule
that an import may not move past. -/
theorem warningAfter_isSome_iff (before : List Rule) (r : Rule) :
    (warningAfter before r).isSome ↔
      (r.isCharset ∧ (charsetWarning r).isSome) ∨
        (r.isImport ∧ ∃ b ∈ before, blocksImport b) := by
  by_cases hc : r.isCharset
  · have hi : r.isImport = false := by simp_all [Rule.isCharset, Rule.isImport]
    simp [warningAfter, hc, hi]
  · by_cases hi : r.isImport <;> simp [warningAfter, hc, hi]

theorem filename_of_charsetWarning {r : Rule} {w : MergeWarning}
    (h : charsetWarning r = some w) : w.filename = r.span.source := by
  cases r with
  | atRule name prelude body span =>
    by_cases hu : asciiLower (stripQuotes prelude) = "utf-8" <;> simp [charsetWarning, hu] at h
    rw [← h]
    rfl
  | style => simp [charsetWarning] at h
  | comment => simp [charsetWarning] at h

theorem filename_of_warningAfter {before : List Rule} {r : Rule} {w : MergeWarning}
    (h : warningAfter before r = some w) : w.filename = r.span.source := by
  unfold warningAfter at h
  split at h
  · exact filename_of_charsetWarning h
  · split at h
    · obtain ⟨b, -, rfl⟩ := Option.map_eq_some_iff.mp h
      rfl
    · cases h

theorem map_filename_mergeWarnings (rs : List Rule) :
    (mergeWarnings rs).map (·.filename) =
      ((rs.inits.zip rs).filter fun p => (warningAfter p.1 p.2).isSome).map (·.2.span.source) := by
  unfold mergeWarnings
  induction rs.inits.zip rs with
  | nil => rfl
  | cons p ps ih =>
    cases h : warningAfter p.1 p.2 with
    | none => simp [h, ih]
    | some w => simp [h, ih, filename_of_warningAfter h]


/-- Merging fails on no stylesheets, and otherwise gives the sheet `mergedPath` with the
merged rules of all sheets, in file order, and the warnings of those rules. -/
theorem merge_eq (sheets : List Stylesheet) :
    merge sheets =
      if sheets = [] then .error .empty
      else .ok (⟨mergedPath, mergedRules (sheets.flatMap (·.rules))⟩,
        mergeWarnings (sheets.flatMap (·.rules))) := by
  cases sheets with
  | nil => rfl
  | cons s ss =>
    simp only [merge, foldl_step_eq_after, MergeState.after, List.reverse_reverse, mergedRules,
      List.filter_filter]
    simp [Bool.and_comm]

end CssBundle.Bundle
