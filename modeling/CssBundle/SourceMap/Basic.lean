import CssBundle.Location

/-!
# Source maps

A source map ties positions of a generated text to positions of the texts it came from. It lists
those texts (`sources`, with their contents when known) and the symbol names, and holds
mappings: each maps a generated line and column either to nothing or to a source, a line and a
column there, and possibly a name. The mappings are kept sorted by generated position, and a map
made by this library refers only to sources and names that it lists.

Looking up a generated position takes the last mapping at or before it on the same line. A
source is resolved against the map's `sourceRoot` unless it is absolute (starts with `/`) or a
URL (contains `://`).
-/

namespace CssBundle.SourceMap

/-- Where a mapping points in a source text: a source index, a position, and an optional
name index. -/
structure Origin where
  source : Nat
  position : LineColumn
  name : Option Nat
  deriving Repr, BEq, DecidableEq, Inhabited

/-- One mapping: a generated position and, optionally, where it came from. -/
structure Mapping where
  generated : LineColumn
  origin : Option Origin
  deriving Repr, BEq, DecidableEq, Inhabited

end CssBundle.SourceMap

namespace CssBundle

/-- A decoded source map. -/
structure SourceMap where
  file : Option String
  sourceRoot : Option String
  sources : List String
  contents : List (Option String)
  names : List String
  mappings : List SourceMap.Mapping
  deriving Repr, BEq, Inhabited

end CssBundle

namespace CssBundle.SourceMap

/-- What a lookup finds: the source's name, the position there, and the name if any. -/
structure Resolved where
  source : String
  position : LineColumn
  name : Option String
  deriving Repr, BEq, DecidableEq, Inhabited

/-- Sorts mappings by generated position, keeping the order of mappings at one position. -/
def sortMappings (ms : List Mapping) : List Mapping :=
  ms.mergeSort fun a b => a.generated.le b.generated

def resolvedSource (m : SourceMap) (i : Nat) : Option String :=
  m.sources[i]?.map fun source =>
    match m.sourceRoot with
    | some root =>
      if source.startsWith "/" || (source.splitOn "://").length > 1 then source
      else
        let trimmed := String.ofList (root.toList.reverse.dropWhile (· = '/')).reverse
        trimmed ++ "/" ++ source
    | none => source

def sourceContent (m : SourceMap) (source : String) : Option String :=
  match m.sources.idxOf? source with
  | some i => (m.contents[i]?).bind id
  | none => none

/-- The mapping that covers a generated position: the last one at or before it, if it lies on
the same line. -/
def mappingFor (m : SourceMap) (g : LineColumn) : Option Mapping :=
  match (m.mappings.takeWhile fun x => x.generated.le g).getLast? with
  | some x => if x.generated.line = g.line then some x else none
  | none => none

def originFor (m : SourceMap) (g : LineColumn) : Option Resolved := do
  let x ← m.mappingFor g
  let o ← x.origin
  let source ← m.sources[o.source]?
  pure ⟨source, o.position, o.name.bind fun n => m.names[n]?⟩

/-- The content of every source that has one, under its resolved name; of two sources that
resolve to one name, the later wins. -/
def contentsByResolved (m : SourceMap) : List (String × String) :=
  (List.range m.sources.length).foldl (fun acc i =>
    match (m.contents[i]?).bind id, m.resolvedSource i with
    | some c, some r => (r, c) :: acc.filter (·.1 ≠ r)
    | _, _ => acc) []

end CssBundle.SourceMap
