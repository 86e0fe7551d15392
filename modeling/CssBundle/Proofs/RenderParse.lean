import Mathlib
import CssBundle.Proofs.ReadThrough
import CssBundle.Proofs.Pipeline
import CssBundle.Proofs.Merge

/-!
# Printing parsed rules and reading them again

A stylesheet the reader returns, or one the merge puts together from the rules of several such
sheets, is printed by the expanded printer and read again: the bundler does so when it
compresses the merged sheet. The printed text gives back the same rules, spans aside, except in
two cases the printer does not guard against:

* a declaration value, or the prelude of an at-rule without a block, that ends in a backslash
  (`Rule.endsInBackslash`): the printer writes its `;` right after it, where it is escaped;
* a first rule whose selector begins with a byte order mark (`Rule.beginsWithBom`): the reader
  sets aside a byte order mark at the start of a text, so the printed selector loses it.

Only the second case makes the printed text fail to read: an escaped `;` changes what is read,
not whether it is read (`CssBundle.Css.parse_render_ok`).

Main statements: `parse_render_parse`, a parsed stylesheet is read back from its printed text,
and `merged_render_reads`, the printed text of a merged sheet reads again whenever its first
selector does not begin with a byte order mark, so that a bundling run whose files give no such
rule returns a report in both build modes.
-/

namespace CssBundle.Css

/-- Whether a rule's printed text begins with a byte order mark: a style rule whose selector
does. -/
def Rule.beginsWithBom : Rule → Bool
  | .style selector _ _ => selector.toList.head? == some '\uFEFF'
  | _ => false

/-- The printed text of a stylesheet begins with its first rule's: with a byte order mark only
when that rule's selector does. -/
theorem head_render {s : Stylesheet} (h : ∀ r ∈ s.rules.head?, r.beginsWithBom = false) :
    s.render.toList.head? ≠ some '\uFEFF' := by
  rw [render_toList]
  cases hs : s.rules with
  | nil => simp [sheetChars]
  | cons r rules =>
    obtain ⟨sep, -, hsheet⟩ := sheetChars_cons r rules
    have hr : r.beginsWithBom = false := h r (by simp [hs])
    rw [hsheet]
    cases r with
    | style selector body span =>
      cases hsel : selector.toList with
      | nil => simp [Rule.chars, hsel]
      | cons x rest => simp_all [Rule.beginsWithBom, Rule.chars]
    | atRule name prelude body span => cases body <;> simp [Rule.chars, atHead]
    | comment text span => simp [Rule.chars]

theorem filename_of_parse {text filename : String} {s : Stylesheet} (h : parse text filename = .ok s) :
    s.filename = filename := by
  unfold parse at h
  rcases hr : readRules filename (3 * (Cursor.start text).rest.length + 3) (Cursor.start text) [] with
    e | rules
  · simp [hr, Except.map] at h
  · simp only [hr, Except.map, Except.ok.injEq] at h
    rw [← h]

/-- Rules read from any texts, in any order and mix, are read back from their printed text,
spans aside, unless a value or a statement prelude in them ends in a backslash or the first
selector begins with a byte order mark. -/
theorem render_reads_of_parsed {sheet : Stylesheet}
    (hfrom : ∀ r ∈ sheet.rules, ∃ text filename s, parse text filename = .ok s ∧ r ∈ s.rules)
    (hesc : ∀ r ∈ sheet.rules, r.endsInBackslash = false)
    (hbom : ∀ r ∈ sheet.rules.head?, r.beginsWithBom = false) (filename : String) :
    ∃ s', parse sheet.render filename = .ok s' ∧ s'.filename = filename ∧
      s'.rules.map Rule.unspanned = sheet.rules.map Rule.unspanned := by
  have hp : ∀ r ∈ sheet.rules, r.printable = true := by
    intro r hr
    obtain ⟨text, name, s, hs, hrs⟩ := hfrom r hr
    exact r.printable_of_readable (readable_of_parse hs r hrs) (hesc r hr)
  exact parse_render_of_printable hp (head_render hbom) filename

/-- Rules read from any texts, in any order and mix, are read again from their printed text
without an error, unless the first selector begins with a byte order mark. -/
theorem render_ok_of_parsed {sheet : Stylesheet}
    (hfrom : ∀ r ∈ sheet.rules, ∃ text filename s, parse text filename = .ok s ∧ r ∈ s.rules)
    (hbom : ∀ r ∈ sheet.rules.head?, r.beginsWithBom = false) (filename : String) :
    ∃ s', parse sheet.render filename = .ok s' := by
  have hr : ∀ r ∈ sheet.rules, r.readable = true := by
    intro r hr
    obtain ⟨text, name, s, hs, hrs⟩ := hfrom r hr
    exact readable_of_parse hs r hrs
  exact parse_render_ok hr (head_render hbom) filename

/-- A parsed stylesheet is read back from its printed text: the same rules, spans aside, under
the same name, unless a value or a statement prelude in it ends in a backslash or its first
selector begins with a byte order mark. -/
theorem parse_render_parse {text filename : String} {s : Stylesheet} (h : parse text filename = .ok s)
    (hesc : ∀ r ∈ s.rules, r.endsInBackslash = false)
    (hbom : ∀ r ∈ s.rules.head?, r.beginsWithBom = false) :
    ∃ s', parse s.render filename = .ok s' ∧ s'.filename = s.filename ∧
      s'.rules.map Rule.unspanned = s.rules.map Rule.unspanned := by
  obtain ⟨s', hparse, hname, hrules⟩ :=
    render_reads_of_parsed (fun r hr => ⟨text, filename, s, h, hr⟩) hesc hbom filename
  exact ⟨s', hparse, hname.trans (filename_of_parse h).symm, hrules⟩

/-- `.a{color:red}`, read, printed and read again, gives the same rule, spans aside. -/
theorem parse_render_parse_sample :
    let s : Stylesheet := ⟨"a.css",
      [.style ".a" [.decl "color" "red" ⟨"a.css", ⟨⟨3, 0, 3⟩, ⟨12, 0, 12⟩⟩⟩]
        ⟨"a.css", ⟨⟨0, 0, 0⟩, ⟨13, 0, 13⟩⟩⟩]⟩
    parse ".a\x7bcolor:red\x7d" "a.css" = .ok s ∧ (∀ r ∈ s.rules, r.endsInBackslash = false) ∧
      (∀ r ∈ s.rules.head?, r.beginsWithBom = false) ∧
      ∃ s', parse s.render "a.css" = .ok s' ∧ s'.filename = s.filename ∧
        s'.rules.map Rule.unspanned = s.rules.map Rule.unspanned := by
  intro s
  have hparse : parse ".a\x7bcolor:red\x7d" "a.css" = .ok s := by
    cbv
  have hesc : ∀ r ∈ s.rules, r.endsInBackslash = false := by decide
  have hbom : ∀ r ∈ s.rules.head?, r.beginsWithBom = false := by decide
  exact ⟨hparse, hesc, hbom, parse_render_parse hparse hesc hbom⟩

end CssBundle.Css

namespace CssBundle.Bundle

open Css

theorem rules_of_merge {sheets : List Stylesheet} {merged : Stylesheet} {warnings : List MergeWarning}
    (h : merge sheets = .ok (merged, warnings)) : ∀ r ∈ merged.rules, ∃ s ∈ sheets, r ∈ s.rules := by
  cases sheets with
  | nil => simp [merge] at h
  | cons s ss =>
    simp only [merge, foldl_step_eq_after, Except.ok.injEq, Prod.mk.injEq] at h
    obtain ⟨rfl, -⟩ := h
    intro r hr
    simp only [MergeState.after, List.reverse_reverse, List.mem_append, List.mem_filter] at hr
    have hmem : r ∈ (s :: ss).flatMap (·.rules) := by
      rcases hr with hr | hr
      · exact hr.1
      · exact hr.1
    simpa using hmem

theorem parsed_of_contribution (b : Bundler) (f : InputFile) :
    ∀ r ∈ (contribution b f).rules, ∃ text filename s, parse text filename = .ok s ∧ r ∈ s.rules := by
  intro r hr
  unfold contribution at hr
  split at hr
  · next text _ =>
    split at hr
    · next s hs => exact ⟨text, f.path, s, hs, hr⟩
    · simp at hr
  · simp at hr

theorem code_compose (merged : Stylesheet) (files : List InputFile) :
    (compose merged files).code = merged.render := by
  rw [compose_eq]
  split <;> rfl

/-- Writing the build's files fails only when the merged text does not read: a development
build writes it as it is, a production build compresses what it reads from it. -/
theorem emit_ok_of_parse {code : String} {sourceMap : Option SourceMap} {s : Stylesheet}
    (h : parse code mergedPath = .ok s) (mode : BuildMode) (maxSelectors : Option Nat) :
    ∃ artifacts, emit code sourceMap mode maxSelectors = .ok artifacts := by
  cases mode with
  | development => exact ⟨_, rfl⟩
  | production =>
    have hmin : ∃ chunks, minify code maxSelectors = .ok chunks := by
      unfold minify
      rw [h]
      cases maxSelectors <;> exact ⟨_, rfl⟩
    obtain ⟨chunks, hchunks⟩ := hmin
    rw [emit, hchunks]
    rcases chunks with _ | ⟨one, _ | ⟨next, rest⟩⟩ <;> exact ⟨_, rfl⟩

/-- Rules read from any texts, in any order and mix as the merge puts them, are read again from
their printed text under the merged sheet's name, unless the first selector begins with a byte
order mark; they come back as the same rules, spans aside, when no value or statement prelude in
them ends in a backslash. So a bundling run whose files give no selector beginning with a byte
order mark never fails, in either build mode and with or without a selector budget: the merge
has a sheet, and the compressing step reads its printed text. -/
theorem merged_render_reads (sheet : Stylesheet) (b : Bundler) (files : List InputFile)
    (mode : BuildMode) :
    ((∀ r ∈ sheet.rules, ∃ text filename s, parse text filename = .ok s ∧ r ∈ s.rules) →
      (∀ r ∈ sheet.rules.head?, r.beginsWithBom = false) →
      ∃ s', parse sheet.render mergedPath = .ok s' ∧
        ((∀ r ∈ sheet.rules, r.endsInBackslash = false) →
          s'.rules.map Rule.unspanned = sheet.rules.map Rule.unspanned)) ∧
    ((∀ f ∈ files, ∀ r ∈ (contribution b f).rules, r.beginsWithBom = false) →
      ∃ report, b.bundle files mode = .ok report) := by
  refine ⟨fun hfrom hbom => ?_, fun hfiles => ?_⟩
  · obtain ⟨s', hparse⟩ := render_ok_of_parsed hfrom hbom mergedPath
    refine ⟨s', hparse, fun hesc => ?_⟩
    obtain ⟨s'', hparse', -, hrules⟩ := render_reads_of_parsed hfrom hesc hbom mergedPath
    rw [hparse, Except.ok.injEq] at hparse'
    rw [hparse', hrules]
  · by_cases hsel : select InputFile.path files = []
    · exact ⟨_, bundle_of_nil b files mode hsel⟩
    · obtain ⟨merged, warnings, hm⟩ :=
        merge_ok_of_ne_nil (show (select InputFile.path files).map (contribution b) ≠ [] by simpa using hsel)
      have hrule : ∀ r ∈ merged.rules, ∃ f ∈ files, r ∈ (contribution b f).rules := by
        intro r hr
        obtain ⟨s, hs, hrs⟩ := rules_of_merge hm r hr
        obtain ⟨f, hf, rfl⟩ := List.mem_map.mp hs
        exact ⟨f, List.mem_of_mem_filter hf, hrs⟩
      have hfrom : ∀ r ∈ merged.rules, ∃ text filename s, parse text filename = .ok s ∧ r ∈ s.rules := by
        intro r hr
        obtain ⟨f, -, hrf⟩ := hrule r hr
        exact parsed_of_contribution b f r hrf
      have hbom : ∀ r ∈ merged.rules.head?, r.beginsWithBom = false := by
        intro r hr
        obtain ⟨f, hf, hrf⟩ := hrule r (List.mem_of_mem_head? hr)
        exact hfiles f hf r hrf
      obtain ⟨s', hparse⟩ := render_ok_of_parsed hfrom hbom mergedPath
      obtain ⟨artifacts, he⟩ := emit_ok_of_parse
        (show parse (compose merged (select InputFile.path files)).code mergedPath = .ok s' by
          rw [code_compose]; exact hparse) mode b.maxSelectors
      exact ⟨_, bundle_of_emit_ok rfl hsel hm he⟩

/-- The rules of `.a{color:red}` from `a.css`, printed under the merged name, read back as the
same rules, and a production build of that file alone succeeds. -/
theorem merged_render_reads_sample :
    let file : InputFile := ⟨"a.css", ".a\x7bcolor:red\x7d", none⟩
    let s : Stylesheet := ⟨"a.css",
      [.style ".a" [.decl "color" "red" ⟨"a.css", ⟨⟨3, 0, 3⟩, ⟨12, 0, 12⟩⟩⟩]
        ⟨"a.css", ⟨⟨0, 0, 0⟩, ⟨13, 0, 13⟩⟩⟩]⟩
    (∃ s', parse (Stylesheet.render ⟨mergedPath, s.rules⟩) mergedPath = .ok s' ∧
      ((∀ r ∈ s.rules, r.endsInBackslash = false) →
        s'.rules.map Rule.unspanned = s.rules.map Rule.unspanned)) ∧
    ∃ report, (default : Bundler).bundle [file] .production = .ok report := by
  intro file s
  have hparse : parse ".a\x7bcolor:red\x7d" "a.css" = .ok s := by
    cbv
  have hcontrib : contribution default file = s := by
    simp only [contribution, file]
    cbv
  have hbom : ∀ r ∈ s.rules, r.beginsWithBom = false := by decide
  have hreads := merged_render_reads ⟨mergedPath, s.rules⟩ default [file] .production
  refine ⟨hreads.1 (fun r hr => ⟨_, _, s, hparse, hr⟩) (fun r hr => hbom r (List.mem_of_mem_head? hr)),
    hreads.2 ?_⟩
  intro f hf r hr
  rw [List.mem_singleton.mp hf, hcontrib] at hr
  exact hbom r hr

end CssBundle.Bundle
