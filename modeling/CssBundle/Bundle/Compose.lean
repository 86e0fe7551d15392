import CssBundle.Css.Printer
import CssBundle.SourceMap.Document
import CssBundle.SourceMap.Compose
import CssBundle.Bundle.Merge

/-!
# The merged stylesheet and its source map

The merged stylesheet is printed in expanded form while recording a source map from its output
to the files its rules came from. An empty output has no map. Otherwise each source that is one
of the input files gets that file's content, and each source whose file came with a map of its
own (one that reads) is traced through that map, in the order the sources were listed after
printing. Of two input files with one path, the later counts.
-/

namespace CssBundle.Bundle

open Css SourceMap

/-- An input stylesheet: its path, its text, and the text of its own source map, if any. -/
structure InputFile where
  path : String
  content : String
  sourceMap : Option String := none
  deriving Repr, Inhabited

/-- The input file with a path: the last one listed under it. -/
def findInput (files : List InputFile) (path : String) : Option InputFile :=
  files.reverse.find? (·.path = path)

/-- The printed merged stylesheet and, unless it is empty, its source map. -/
structure Composed where
  code : String
  sourceMap : Option SourceMap
  deriving Inhabited

/-- Prints a merged stylesheet with a source map that reaches back through the input files'
own maps. -/
def compose (merged : Stylesheet) (files : List InputFile) : Composed :=
  let (code, b) := merged.renderWithMap (Builder.empty (some mergedPath))
  if code.isEmpty then ⟨code, none⟩ else
  let b := (List.range b.sources.length).foldl (fun b i =>
    match b.sources[i]? |>.bind (findInput files) with
    | some f => b.setContent i f.content
    | none => b) b
  let m := b.build
  let m := m.sources.foldl (fun m source =>
    match (findInput files source).bind (·.sourceMap) with
    | some text =>
      match SourceMap.ofJson text with
      | .ok up => m.composeWith up source
      | .error _ => m
    | none => m) m
  ⟨code, some m⟩

end CssBundle.Bundle
