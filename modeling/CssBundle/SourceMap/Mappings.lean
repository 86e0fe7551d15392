import CssBundle.SourceMap.Basic
import CssBundle.SourceMap.Vlq

/-!
# The `mappings` string

Generated lines are separated by `;` and the segments of a line by `,`. A segment has one field
(a generated column only) or four or five (adding source, source line, source column and
name). Every field is the difference to the same field of the previous segment: the generated
column starts again from 0 on each line, the other fields run on through the whole string.

Decoding checks, in this order for each segment: the generated column stays within 0 and
`2 ^ 32 - 1`; the segment has 1, 4 or 5 fields; the source index is listed; the source line
and column stay in range; the name index is listed.
-/

namespace CssBundle.SourceMap

/-- The pieces of a text between the occurrences of a separator character, in order; a text
without the separator is one piece. -/
def splitText (text : String) (sep : Char) : List String :=
  (text.toList.splitOn sep).map String.ofList

def checkU32 (v : Int) (what : Coordinate) : Except MapError Nat :=
  if v < 0 then .error (.negative what)
  else if v ≥ UInt32.size then .error (.tooLarge what)
  else .ok v.toNat

/-- The running values of the fields that carry over from segment to segment. -/
structure Running where
  source : Int := 0
  line : Int := 0
  column : Int := 0
  name : Int := 0
  deriving Repr, BEq, DecidableEq, Inhabited

/-- Decodes one segment on generated line `line`, after the previous generated column `col`. -/
def decodeSegment (sourceCount nameCount line : Nat) (col : Int) (run : Running) (seg : String) :
    Except MapError (Mapping × Int × Running) := do
  let fields ← Vlq.decode seg
  match fields with
  | [] => throw (.invalidSegment 0)
  | d0 :: rest =>
    let col := col + d0
    let generated : LineColumn := ⟨← checkU32 line .generatedLine, ← checkU32 col .generatedColumn⟩
    match rest with
    | [] => pure (⟨generated, none⟩, col, run)
    | [d1, d2, d3] =>
      let run := { run with source := run.source + d1, line := run.line + d2, column := run.column + d3 }
      if run.source < 0 ∨ run.source ≥ (sourceCount : Int) then throw (.sourceOutOfRange run.source sourceCount)
      let pos : LineColumn := ⟨← checkU32 run.line .sourceLine, ← checkU32 run.column .sourceColumn⟩
      pure (⟨generated, some ⟨run.source.toNat, pos, none⟩⟩, col, run)
    | [d1, d2, d3, d4] =>
      let run := { run with source := run.source + d1, line := run.line + d2, column := run.column + d3 }
      if run.source < 0 ∨ run.source ≥ (sourceCount : Int) then throw (.sourceOutOfRange run.source sourceCount)
      let pos : LineColumn := ⟨← checkU32 run.line .sourceLine, ← checkU32 run.column .sourceColumn⟩
      let run := { run with name := run.name + d4 }
      if run.name < 0 ∨ run.name ≥ (nameCount : Int) then throw (.nameOutOfRange run.name nameCount)
      pure (⟨generated, some ⟨run.source.toNat, pos, some run.name.toNat⟩⟩, col, run)
    | _ => throw (.invalidSegment fields.length)

def decodeLine (sourceCount nameCount line : Nat) : List String → Int → Running → List Mapping →
    Except MapError (List Mapping × Running)
  | [], _, run, acc => .ok (acc, run)
  | seg :: segs, col, run, acc =>
    if seg.isEmpty then decodeLine sourceCount nameCount line segs col run acc
    else do
      let (m, col, run) ← decodeSegment sourceCount nameCount line col run seg
      decodeLine sourceCount nameCount line segs col run (m :: acc)

def decodeLines (sourceCount nameCount : Nat) : Nat → List String → Running → List Mapping →
    Except MapError (List Mapping)
  | _, [], _, acc => .ok acc.reverse
  | line, text :: rest, run, acc => do
    let (acc, run) ← decodeLine sourceCount nameCount line (splitText text ',') 0 run acc
    decodeLines sourceCount nameCount (line + 1) rest run acc

/-- The mappings a `mappings` string encodes, in the order written, checked against the number
of sources and names. -/
def decodeMappings (encoded : String) (sourceCount nameCount : Nat) : Except MapError (List Mapping) :=
  decodeLines sourceCount nameCount 0 (splitText encoded ';') {} []

/-- Where the encoder stands: the generated line, the previous generated column, the running
source fields, and whether the next segment opens its line. -/
structure EncodeState where
  line : Nat := 0
  column : Int := 0
  run : Running := {}
  fresh : Bool := true
  deriving Repr, Inhabited

/-- Encodes one mapping after the state, returning the text written and the new state. -/
def encodeOne (st : EncodeState) (m : Mapping) : String × EncodeState :=
  let gap := m.generated.line - st.line
  let breaks := String.ofList (List.replicate gap ';')
  let (column, fresh) := if gap > 0 then ((0 : Int), true) else (st.column, st.fresh)
  let comma := if fresh then "" else ","
  let col : Int := m.generated.column
  let head := Vlq.encode (col - column)
  match m.origin with
  | none => (breaks ++ comma ++ head, { st with line := max st.line m.generated.line, column := col, fresh := false })
  | some o =>
    let s : Int := o.source
    let l : Int := o.position.line
    let c : Int := o.position.column
    let body := Vlq.encode (s - st.run.source) ++ Vlq.encode (l - st.run.line) ++ Vlq.encode (c - st.run.column)
    let run := { st.run with source := s, line := l, column := c }
    match o.name with
    | none => (breaks ++ comma ++ head ++ body,
        { line := max st.line m.generated.line, column := col, run := run, fresh := false })
    | some n =>
      let nm : Int := n
      (breaks ++ comma ++ head ++ body ++ Vlq.encode (nm - st.run.name),
        { line := max st.line m.generated.line, column := col, run := { run with name := nm }, fresh := false })

/-- The `mappings` string of a list of mappings sorted by generated position. -/
def encodeMappings (ms : List Mapping) : String :=
  (ms.foldl (fun (acc : String × EncodeState) m =>
    let (text, st) := encodeOne acc.2 m
    (acc.1 ++ text, st)) ("", {})).1

end CssBundle.SourceMap
