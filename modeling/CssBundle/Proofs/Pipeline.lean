import Mathlib
import CssBundle.Bundle.Bundler
import CssBundle.Proofs.ReaderPlaces
import CssBundle.Proofs.Upstream

/-!
# What a bundling run reports

Each selected file is prepared and read on its own. A file fails when preparing it fails, with a
transform error, or when its prepared text does not read, with a parse error at a place of that
text. The report lists one error per failing file, in the order of the selection; a parse error
carries the number under which the report holds the text it was read from. The merge takes, for
each selected file, the sheet read from it or an empty sheet when it failed, so a failing file
removes only its own rules; the warnings are those of that merge, and the run succeeds exactly
when no selected file failed.

Main statement: `bundle_reports`, with the outcome of a run on a nonempty selection gathered in
`BundleOutcome`. The errors come from `errors_noteAll`, which follows the report through the
selected files one at a time.
-/

namespace CssBundle.Bundle

open Css

/-- The sheet a file adds to the merge: the sheet read from its prepared text, or an empty sheet
under its path when preparing or reading it fails. -/
def contribution (b : Bundler) (f : InputFile) : Stylesheet :=
  match b.stage.apply f.path f.content with
  | .ok text =>
    match parse text f.path with
    | .ok sheet => sheet
    | .error _ => ⟨f.path, []⟩
  | .error _ => ⟨f.path, []⟩

def failsIn (b : Bundler) (f : InputFile) : Bool :=
  match b.stage.apply f.path f.content with
  | .ok text =>
    match parse text f.path with
    | .ok _ => false
    | .error _ => true
  | .error _ => true

/-- How the report `sources` should record the failure of `f` as `e`: a transform error is the
error preparing gave, with no text number; a parse error is at the place where its prepared
text does not read, inside that text, under a number at which `sources` holds that text. -/
def ReportedAs (b : Bundler) (sources : SourceSet) (e : BuildError) (f : InputFile) : Prop :=
  e.path = f.path ∧
  (∀ et, b.stage.apply f.path f.content = .error et →
    e = et ∧ e.kind = .transform ∧ e.file = none) ∧
  (∀ text pe, b.stage.apply f.path f.content = .ok text → parse text f.path = .error pe →
    e.kind = .parse ∧ e.location = some pe.location ∧
      (∃ id, e.file = some id ∧ sources.get? id = some ⟨f.path, text⟩) ∧
      ∃ col, locate text pe.location.offset = some ⟨pe.location.offset, pe.location.row, col⟩)

/-! ## Preparing and reading one file -/

theorem pluginFailure_kind (path input : String) (pe : PluginError) :
    (pluginFailure path input pe).kind = .transform ∧ (pluginFailure path input pe).file = none ∧
      (pluginFailure path input pe).path = path := by
  cases pe <;> exact ⟨rfl, rfl, rfl⟩

theorem runPlugins_error {path : String} (ps : List Plugin) :
    ∀ {text : String} {e : BuildError}, Stage.runPlugins path ps text = .error e →
      e.kind = .transform ∧ e.file = none ∧ e.path = path := by
  induction ps with
  | nil => intro text e h; cases h
  | cons p ps ih =>
    intro text e h
    rw [Stage.runPlugins] at h
    rcases hp : p.apply text with pe | text'
    · simp [hp, bind, Except.bind, Except.mapError] at h
      exact h ▸ pluginFailure_kind path text pe
    · simp only [hp, bind, Except.bind, Except.mapError] at h
      exact ih h

theorem apply_error {s : Stage} {path content : String} {e : BuildError}
    (h : s.apply path content = .error e) :
    e.kind = .transform ∧ e.file = none ∧ e.path = path := by
  unfold Stage.apply at h
  split at h
  · cases h
  · rcases hc : s.flavor.convert content with pe | text
    · simp [hc, bind, Except.bind, Except.mapError] at h
      exact h ▸ pluginFailure_kind path content pe
    · simp only [hc, bind, Except.bind, Except.mapError] at h
      exact runPlugins_error s.plugins h

theorem sheet_process (b : Bundler) (f : InputFile) : (b.process f).sheet = contribution b f := by
  unfold Bundler.process contribution
  rcases b.stage.apply f.path f.content with e | text
  · rfl
  · simp only [buildAst]
    rcases parse text f.path with pe | sheet <;> rfl

/-! ## The errors of a run -/

def noteAll (b : Bundler) (fs : List InputFile) : Report :=
  fs.foldl (fun r f => Bundler.noteError r f (b.process f)) {}

theorem get?_add_of_get? {s : SourceSet} {id : Nat} {x : SourceFile} (h : s.get? id = some x)
    (path content : String) : (s.add path content).1.get? id = some x := by
  have hlt : id < s.files.size := (Array.getElem?_eq_some_iff.mp h).1
  simp only [SourceSet.get?, SourceSet.add] at h ⊢
  rw [Array.getElem?_push_lt hlt]
  rw [Array.getElem?_eq_getElem hlt] at h
  exact h

theorem ReportedAs.mono {b : Bundler} {s s' : SourceSet} {e : BuildError} {f : InputFile}
    (h : ReportedAs b s e f) (hs : ∀ id x, s.get? id = some x → s'.get? id = some x) :
    ReportedAs b s' e f := by
  obtain ⟨hpath, htrans, hparse⟩ := h
  refine ⟨hpath, htrans, fun text pe happly hpe => ?_⟩
  obtain ⟨hkind, hloc, ⟨id, hid, hget⟩, hinside⟩ := hparse text pe happly hpe
  exact ⟨hkind, hloc, ⟨id, hid, hs id _ hget⟩, hinside⟩

/-- Noting one file: the errors noted so far keep what they record, and a failing file adds one
error of its own. -/
theorem errors_noteError {b : Bundler} {r : Report} {es : List InputFile} (f : InputFile)
    (h : List.Forall₂ (ReportedAs b r.sources) r.errors es) :
    List.Forall₂ (ReportedAs b (Bundler.noteError r f (b.process f)).sources)
      (Bundler.noteError r f (b.process f)).errors (es ++ [f].filter (failsIn b)) := by
  rcases happly : b.stage.apply f.path f.content with et | text
  · obtain ⟨hkind, hfile, hpath⟩ := apply_error happly
    have hproc : b.process f = Parsed.failed f.path et f.content := by
      simp [Bundler.process, happly]
    have hfails : failsIn b f = true := by simp [failsIn, happly]
    have hnote : Bundler.noteError r f (b.process f) = { r with errors := r.errors ++ [et] } := by
      have hne : (BuildErrorKind.transform == BuildErrorKind.parse) = false := by decide
      simp [Bundler.noteError, hproc, Parsed.failed, hkind, hne]
    rw [hnote]
    simp only [List.filter_cons, hfails, if_true, List.filter_nil]
    refine List.rel_append h (.cons ⟨hpath, fun et' h => ?_, fun text pe h => ?_⟩ .nil)
    · rw [happly] at h
      cases h
      exact ⟨rfl, hkind, hfile⟩
    · rw [happly] at h
      cases h
  · rcases hparse : parse text f.path with pe | sheet
    · let e : BuildError :=
        { path := f.path, kind := .parse, message := pe.message, location := some pe.location }
      have hproc : b.process f = Parsed.failed f.path e text := by
        simp [Bundler.process, happly, buildAst, hparse, e]
      have hfails : failsIn b f = true := by simp [failsIn, happly, hparse]
      have hnote : Bundler.noteError r f (b.process f) =
          { r with sources := (r.sources.add f.path text).1,
                   errors := r.errors ++ [{ e with file := some (r.sources.add f.path text).2 }] } := by
        have hpe : (BuildErrorKind.parse == BuildErrorKind.parse) = true := by decide
        simp [Bundler.noteError, hproc, Parsed.failed, e, hpe]
      rw [hnote]
      simp only [List.filter_cons, hfails, if_true, List.filter_nil]
      refine List.rel_append (h.imp fun e' f' h => h.mono fun id x hx => get?_add_of_get? hx _ _)
        (.cons ⟨rfl, fun et h => ?_, fun text' pe' h h' => ?_⟩ .nil)
      · rw [happly] at h
        cases h
      · rw [happly] at h
        cases h
        rw [hparse] at h'
        cases h'
        exact ⟨rfl, rfl, ⟨_, rfl, SourceSet.get?_add _ _ _⟩, parse_error_inside hparse⟩
    · have hproc : b.process f = ⟨sheet, none, text⟩ := by
        simp [Bundler.process, happly, buildAst, hparse]
      have hfails : failsIn b f = false := by simp [failsIn, happly, hparse]
      rw [hproc]
      simp only [Bundler.noteError, List.filter_cons, hfails, Bool.false_eq_true, if_false, List.filter_nil,
        List.append_nil]
      exact h

/-- Noting the errors file by file gives one error per failing file, in order, each recorded as
`ReportedAs` says. -/
theorem errors_noteAll (b : Bundler) (fs : List InputFile) :
    List.Forall₂ (ReportedAs b (noteAll b fs).sources) (noteAll b fs).errors (fs.filter (failsIn b)) := by
  induction fs using List.reverseRecOn with
  | nil => exact .nil
  | append_singleton fs f ih =>
    have hstep : noteAll b (fs ++ [f]) = Bundler.noteError (noteAll b fs) f (b.process f) := by
      simp [noteAll, List.foldl_append]
    rw [hstep, List.filter_append]
    exact errors_noteError f ih

theorem isSuccess_iff {b : Bundler} {fs : List InputFile} {r : Report}
    (h : List.Forall₂ (ReportedAs b r.sources) r.errors (fs.filter (failsIn b))) :
    r.isSuccess = true ↔ ∀ f ∈ fs, failsIn b f = false := by
  have hlen : r.errors.length = (fs.filter (failsIn b)).length := h.length_eq
  rw [Report.isSuccess, List.isEmpty_iff, ← List.length_eq_zero_iff, hlen, List.length_eq_zero_iff,
    List.filter_eq_nil_iff]
  simp

/-! ## The merge and the written files -/

theorem rules_contribution_of_failsIn {b : Bundler} {f : InputFile} (h : failsIn b f = true) :
    (contribution b f).rules = [] := by
  unfold failsIn at h
  unfold contribution
  rcases happly : b.stage.apply f.path f.content with et | text
  · rfl
  · rw [happly] at h
    rcases hparse : parse text f.path with pe | sheet
    · simp [hparse]
    · simp [hparse] at h

/-- The rules the merge goes through: those of the files that did not fail, in order. A failing
file takes out only its own rules. -/
theorem rules_contributions (b : Bundler) (fs : List InputFile) :
    (fs.map (contribution b)).flatMap (·.rules) =
      (fs.filter fun f => !failsIn b f).flatMap fun f => (contribution b f).rules := by
  induction fs with
  | nil => rfl
  | cons f fs ih =>
    cases hf : failsIn b f
    · simp [hf, ih]
    · simp [hf, ih, rules_contribution_of_failsIn hf]

theorem merge_ok_of_ne_nil {sheets : List Stylesheet} (h : sheets ≠ []) :
    ∃ merged warnings, merge sheets = .ok (merged, warnings) := by
  cases sheets with
  | nil => exact absurd rfl h
  | cons s ss => exact ⟨_, _, rfl⟩

theorem emit_development (merged : Stylesheet) (fs : List InputFile) (maxSelectors : Option Nat) :
    emit (compose merged fs).code (compose merged fs).sourceMap .development maxSelectors =
      .ok [⟨mergedPath, merged.render, (compose merged fs).sourceMap.map SourceMap.toJson⟩] := by
  rw [compose_eq]
  by_cases h : merged.render.isEmpty = true
  · simp [emit, h]
  · simp [emit, h]

/-! ## A whole run -/

theorem foldl_noteError (b : Bundler) (fs : List InputFile) :
    (fs.zip (fs.map b.process)).foldl (fun r (p : InputFile × Parsed) => Bundler.noteError r p.1 p.2) {} =
      noteAll b fs := by
  rw [List.zip_eq_zipWith, List.zipWith_map_right, List.zipWith_self, List.foldl_map]
  rfl

theorem bundle_of_nil (b : Bundler) (files : List InputFile) (mode : BuildMode)
    (h : select InputFile.path files = []) : b.bundle files mode = .ok {} := by
  simp [Bundler.bundle, h]

theorem sheets_process (b : Bundler) (fs : List InputFile) :
    (fs.map b.process).map Parsed.sheet = fs.map (contribution b) := by
  simp [List.map_map, Function.comp_def, sheet_process]

section Run

variable {b : Bundler} {files : List InputFile} {mode : BuildMode} {sel : List InputFile}
  {merged : Stylesheet} {warnings : List MergeWarning}

/-- Bundling a nonempty selection `sel` whose contributions merge: the report notes the errors
file by file and holds the files written from the merge. -/
theorem bundle_of_emit_ok (hs : select InputFile.path files = sel) (h : sel ≠ [])
    (hm : merge (sel.map (contribution b)) = .ok (merged, warnings)) {artifacts : List Artifact}
    (he : emit (compose merged sel).code (compose merged sel).sourceMap mode b.maxSelectors =
      .ok artifacts) :
    b.bundle files mode = .ok { noteAll b sel with warnings, artifacts } := by
  subst hs
  simp only [Bundler.bundle, List.isEmpty_iff, h, if_false, sheets_process, foldl_noteError, hm, he]

theorem bundle_of_emit_error (hs : select InputFile.path files = sel) (h : sel ≠ [])
    (hm : merge (sel.map (contribution b)) = .ok (merged, warnings)) {e : MinifyError}
    (he : emit (compose merged sel).code (compose merged sel).sourceMap mode b.maxSelectors =
      .error e) :
    b.bundle files mode = .error (.minify e) := by
  subst hs
  simp only [Bundler.bundle, List.isEmpty_iff, h, if_false, sheets_process, hm, he]

end Run

/-- What a run on the nonempty selection `sel` reports: one error per failing file, in order and
placed as `ReportedAs` says; the warnings of the merge of the files' contributions and the files
written from that merge; a development build writes the merged text with its map; and the run
succeeds exactly when no file failed. -/
structure BundleOutcome (b : Bundler) (sel : List InputFile) (mode : BuildMode) (report : Report) :
    Prop where
  errors : List.Forall₂ (ReportedAs b report.sources) report.errors (sel.filter (failsIn b))
  merged : ∃ merged, merge (sel.map (contribution b)) = .ok (merged, report.warnings) ∧
    emit (compose merged sel).code (compose merged sel).sourceMap mode b.maxSelectors =
      .ok report.artifacts ∧
    (mode = .development → report.artifacts =
      [⟨mergedPath, merged.render, (compose merged sel).sourceMap.map SourceMap.toJson⟩])
  success : report.isSuccess = true ↔ ∀ f ∈ sel, failsIn b f = false

/-- A development build always gives a report, and every report of a run is as `BundleOutcome`
says, or empty when the filter selects nothing. -/
theorem bundle_reports (b : Bundler) (files : List InputFile) (mode : BuildMode) :
    (mode = .development → ∃ report, b.bundle files mode = .ok report) ∧
    ∀ report, b.bundle files mode = .ok report →
      (select InputFile.path files = [] →
        report.artifacts = [] ∧ report.errors = [] ∧ report.warnings = []) ∧
      (select InputFile.path files ≠ [] →
        BundleOutcome b (select InputFile.path files) mode report) := by
  by_cases hsel : select InputFile.path files = []
  · have hrun := bundle_of_nil b files mode hsel
    refine ⟨fun _ => ⟨_, hrun⟩, fun report h => ⟨fun _ => ?_, fun hne => absurd hsel hne⟩⟩
    rw [hrun] at h
    cases h
    exact ⟨rfl, rfl, rfl⟩
  · generalize hs : select InputFile.path files = sel at hsel ⊢
    have hcontrib : sel.map (contribution b) ≠ [] := by simpa using hsel
    obtain ⟨merged, warnings, hmerge⟩ := merge_ok_of_ne_nil hcontrib
    refine ⟨fun hdev => ?_, fun report h => ⟨fun hnil => absurd hnil hsel, fun _ => ?_⟩⟩
    · subst hdev
      exact ⟨_, bundle_of_emit_ok hs hsel hmerge (emit_development merged sel b.maxSelectors)⟩
    · rcases hemit : emit (compose merged sel).code (compose merged sel).sourceMap mode b.maxSelectors
        with e | artifacts
      · rw [bundle_of_emit_error hs hsel hmerge hemit] at h
        cases h
      · rw [bundle_of_emit_ok hs hsel hmerge hemit] at h
        cases h
        have herrors := errors_noteAll b sel
        refine ⟨herrors, ⟨merged, hmerge, hemit, fun hdev => ?_⟩, isSuccess_iff herrors⟩
        subst hdev
        rw [emit_development] at hemit
        cases hemit
        rfl

end CssBundle.Bundle
