import CssBundle.SourceMap.Basic

/-!
# Composing a source map with the map of one of its sources

When one of the sources of a map was itself generated, with a map of its own (the inner
map), the two compose: every mapping that points into that source is traced through the inner
map to the text it came from. A mapping whose position the inner map does not cover, or covers
with no source position, keeps pointing into the source. A traced mapping takes the inner name when
there is one and keeps its own otherwise.

Afterwards the map lists exactly the sources and names that its mappings use, in the order of
first use, and each source takes the inner content recorded for it, or else the content the
map had for it.
-/

namespace CssBundle.SourceMap

def intern (xs : List String) (x : String) : List String × Nat :=
  match xs.idxOf? x with
  | some i => (xs, i)
  | none => (xs ++ [x], xs.length)

/-- Where a mapping points after tracing through the inner map: a source name, a position
and a name. -/
def traceOrigin (m inner : SourceMap) (target : String) (o : Origin) :
    String × LineColumn × Option String :=
  let source := (m.sources[o.source]?).getD ""
  let name := o.name.bind fun n => m.names[n]?
  if source = target then
    let traced : Option (String × Origin) := do
      let up ← inner.mappingFor o.position
      let uo ← up.origin
      let r ← inner.resolvedSource uo.source
      pure (r, uo)
    match traced with
    | some (r, uo) =>
      let upName := uo.name.bind fun n => inner.names[n]?
      (r, uo.position, upName.orElse fun _ => name)
    | none => (source, o.position, name)
  else (source, o.position, name)

/-- Rewrites the mappings, interning sources and names in order of first use. -/
def traceMappings (m inner : SourceMap) (target : String) :
    List Mapping → List String → List String → List Mapping → List Mapping × List String × List String
  | [], sources, names, acc => (acc.reverse, sources, names)
  | x :: rest, sources, names, acc =>
    match x.origin with
    | none => traceMappings m inner target rest sources names (x :: acc)
    | some o =>
      let (source, position, name) := traceOrigin m inner target o
      let (sources, si) := intern sources source
      let (names, ni) : List String × Option Nat :=
        match name with
        | some n => let (ns, i) := intern names n; (ns, some i)
        | none => (names, none)
      traceMappings m inner target rest sources names (⟨x.generated, some ⟨si, position, ni⟩⟩ :: acc)

def composeWith (m inner : SourceMap) (target : String) : SourceMap :=
  let (mappings, sources, names) := traceMappings m inner target m.mappings [] [] []
  let upContents := inner.contentsByResolved
  let contents := sources.map fun s => (upContents.lookup s).orElse fun _ => m.sourceContent s
  { m with sources := sources, contents := contents, names := names, mappings := mappings }

end CssBundle.SourceMap
