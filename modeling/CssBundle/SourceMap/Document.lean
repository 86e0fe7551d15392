import CssBundle.SourceMap.Mappings
import CssBundle.Json.Decode

/-!
# Source maps as JSON

A source map is written as a JSON object with the members `version` (always 3), `file` and
`sourceRoot` when known, `sources`, `sourcesContent` when at least one content is known, `names`
and `mappings`, in that order.

Reading takes `version`, `sources` and `mappings` as required, the others as optional, and
ignores unknown members. A version other than 3 is refused. The mappings are decoded, then
sorted by generated position; the list of contents is cut or padded with unknown contents to
the number of sources, and an empty `sourceRoot` counts as none.
-/

namespace CssBundle.SourceMap

open Json

/-- The fields of a source map as written. -/
structure Written where
  version : Nat
  file : Option String
  sourceRoot : Option String
  sources : List String
  contents : Option (List (Option String))
  names : List String
  mappings : String
  deriving Repr, Inhabited

/-- The members of a written source map, in declaration order, with whether each may be left
out. -/
def writtenShape : RecordShape :=
  ⟨"RawSourceMap", [("version", false), ("file", true), ("sourceRoot", true), ("sources", false),
    ("sourcesContent", true), ("names", true), ("mappings", false)], false⟩

/-- One field of a written source map, as read. -/
inductive WrittenField where
  | number (n : Nat)
  | text (s : Option String)
  | texts (xs : List String)
  | contents (xs : Option (List (Option String)))
  | string (s : String)

def readWrittenField (i : Nat) (d : Doc) : Decoded WrittenField :=
  match i with
  | 0 => WrittenField.number <$> d.u32
  | 1 | 2 => WrittenField.text <$> d.option Doc.string
  | 3 | 5 => WrittenField.texts <$> d.seq Doc.string
  | 4 => WrittenField.contents <$> d.option (Doc.seq (Doc.option Doc.string))
  | _ => WrittenField.string <$> d.string

def readWritten (fromText : Bool) (d : Doc) : Decoded Written := do
  let fs ← d.record writtenShape readWrittenField fromText
  let get (i : Nat) := fs.lookup i
  pure {
    version := match get 0 with | some (.number n) => n | _ => 0
    file := match get 1 with | some (.text s) => s | _ => none
    sourceRoot := match get 2 with | some (.text s) => s | _ => none
    sources := match get 3 with | some (.texts xs) => xs | _ => []
    contents := match get 4 with | some (.contents xs) => xs | _ => none
    names := match get 5 with | some (.texts xs) => xs | _ => []
    mappings := match get 6 with | some (.string s) => s | _ => "" }

def fitTo {α : Type} (xs : List α) (n : Nat) (filler : α) : List α :=
  xs.take n ++ List.replicate (n - xs.length) filler

def ofWritten (w : Written) : Except MapError SourceMap := do
  if w.version ≠ 3 then throw (.unsupportedVersion w.version)
  let ms ← decodeMappings w.mappings w.sources.length w.names.length
  pure {
    file := w.file
    sourceRoot := w.sourceRoot.filter (· ≠ "")
    sources := w.sources
    contents := fitTo (w.contents.getD []) w.sources.length none
    names := w.names
    mappings := sortMappings ms }

def ofJson (text : String) : Except MapError SourceMap :=
  match decodeText (readWritten true) text with
  | .error msg => .error (.json msg)
  | .ok w => ofWritten w

def toWritten (m : SourceMap) : Written :=
  { version := 3, file := m.file, sourceRoot := m.sourceRoot, sources := m.sources,
    contents := if m.contents.any Option.isSome then some m.contents else none,
    names := m.names, mappings := encodeMappings m.mappings }

def toJson (m : SourceMap) : String :=
  let w := m.toWritten
  let opt (k : String) : Option String → List (String × Value)
    | some s => [(k, .str s)]
    | none => []
  let members : List (String × Value) :=
    [("version", .ofNat w.version)] ++ opt "file" w.file ++ opt "sourceRoot" w.sourceRoot ++
    [("sources", .ofStrings w.sources)] ++
    (match w.contents with
     | some cs => [("sourcesContent", .arr (cs.map (Value.ofOption .str)))]
     | none => []) ++
    [("names", .ofStrings w.names), ("mappings", .str w.mappings)]
  (Value.obj members).render

end CssBundle.SourceMap
