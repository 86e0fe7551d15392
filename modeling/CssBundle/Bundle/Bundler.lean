import CssBundle.Bundle.Transform
import CssBundle.Bundle.Compose
import CssBundle.Bundle.Filter

/-!
# Bundling

A bundler joins a list of stylesheets into one. It keeps the files the filter selects, prepares
and reads each of them, merges the sheets that were read (a failed file counts as an empty
sheet), prints the merged sheet with a source map that reaches back through the inputs' own
maps, and writes it out for the build mode. Nothing is done for an empty selection.

A file that failed is reported with its error. When the error is a parse error with a location,
the text that was read is registered in the report's `SourceSet`, so that its diagnostic can
quote it.
-/

namespace CssBundle.Bundle

open Css

/-- Why a bundle could not be written. -/
inductive BundleError where
  | merge (e : MergeError)
  | minify (e : MinifyError)
  deriving Repr, Inhabited

def BundleError.diagnostic : BundleError → Diagnostic
  | .merge e => { code := some "M-0-1", title := "Internal Error", problem := some e.message }
  | .minify e => { code := some "M-4-1", title := "Minification Failed", problem := some e.message }

/-- A bundler: the transform stage of its configuration and the selector budget of its
minifier, if any. -/
structure Bundler where
  stage : Stage
  maxSelectors : Option Nat := none
  deriving Inhabited

namespace Bundler

def ofConfig (c : Config) : Except ConfigError Bundler :=
  (fun s => ⟨s, none⟩) <$> Stage.ofConfig c

def process (b : Bundler) (file : InputFile) : Parsed :=
  match b.stage.apply file.path file.content with
  | .ok text => buildAst text file.path
  | .error e => Parsed.failed file.path e file.content

def noteError (r : Report) (file : InputFile) (p : Parsed) : Report :=
  match p.error with
  | none => r
  | some e =>
    if e.kind == .parse && e.location.isSome then
      let (sources, id) := r.sources.add file.path p.text
      { r with sources, errors := r.errors ++ [{ e with file := some id }] }
    else { r with errors := r.errors ++ [e] }

def bundle (b : Bundler) (files : List InputFile) (mode : BuildMode) : Except BundleError Report :=
  let files := select InputFile.path files
  if files.isEmpty then .ok {}
  else
    let parsed := files.map b.process
    let report := (files.zip parsed).foldl (fun r (f, p) => noteError r f p) {}
    match merge (parsed.map Parsed.sheet) with
    | .error e => .error (.merge e)
    | .ok (merged, warnings) =>
      let composed := compose merged files
      match emit composed.code composed.sourceMap mode b.maxSelectors with
      | .error e => .error (.minify e)
      | .ok artifacts => .ok { report with warnings, artifacts }

end Bundler

end CssBundle.Bundle
