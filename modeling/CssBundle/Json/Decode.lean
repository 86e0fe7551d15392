import CssBundle.Json.Reader
import CssBundle.Text.Quoted

/-!
# Reading typed values out of JSON

Configuration and source maps are records read out of JSON, either straight from a text, where
a problem is reported with its line and column, or from a value already read, where it is not.
Both go through a `Doc`; a value is seen as a `Doc` whose positions are all zero.

A problem is a fault of the text, a value of the wrong type (`invalid type: null, expected a
string`), a value out of range (`invalid value: integer `-3`, expected u32`), an array too short
for a record written as an array, or a missing, unknown or repeated field. A record walks its
members in text order and stops at the first problem, so of two problems the earlier one in the
text is reported.
-/

namespace CssBundle.Json

/-- What a reader found where it wanted something else. -/
inductive Unexpected where
  | null
  | bool (b : Bool)
  | unsigned (n : Nat)
  | signed (n : Int)
  | float (x : Double)
  | string (s : String)
  | seq
  | map
  deriving Repr, Inhabited

def Unexpected.describe : Unexpected → String
  | .null => "null"
  | .bool b => "boolean `" ++ (if b then "true" else "false") ++ "`"
  | .unsigned n => "integer `" ++ toString n ++ "`"
  | .signed n => "integer `" ++ toString n ++ "`"
  | .float x => "floating point `" ++ x.render ++ "`"
  | .string s => "string " ++ Text.quoteString s
  | .seq => "sequence"
  | .map => "map"

/-- A problem met while reading a typed value. -/
inductive Problem where
  | fault (f : Fault)
  | invalidType (found : Unexpected) (expected : String)
  | invalidValue (found : Unexpected) (expected : String)
  | invalidLength (n : Nat) (expected : String)
  | missingField (name : String)
  | unknownField (name : String) (expected : List String)
  | duplicateField (name : String)
  deriving Repr, Inhabited

/-- A list of field names as a message lists them: one, two joined by `or`, or `one of` a list. -/
def listFields (names : List String) : String :=
  let q (n : String) := "`" ++ n ++ "`"
  match names with
  | [] => ""
  | [a] => q a
  | [a, b] => q a ++ " or " ++ q b
  | _ => "one of " ++ ", ".intercalate (names.map q)

def Problem.message : Problem → String
  | .fault f => f.message
  | .invalidType u e => "invalid type: " ++ u.describe ++ ", expected " ++ e
  | .invalidValue u e => "invalid value: " ++ u.describe ++ ", expected " ++ e
  | .invalidLength n e => "invalid length " ++ toString n ++ ", expected " ++ e
  | .missingField n => "missing field `" ++ n ++ "`"
  | .unknownField n [] => "unknown field `" ++ n ++ "`, there are no fields"
  | .unknownField n es => "unknown field `" ++ n ++ "`, expected " ++ listFields es
  | .duplicateField n => "duplicate field `" ++ n ++ "`"

/-- A problem with the byte index where it is reported. -/
structure DecodeError where
  problem : Problem
  index : Nat
  deriving Repr, Inhabited

/-- The text of a problem found in a value: no position. -/
def DecodeError.message (e : DecodeError) : String := e.problem.message

def DecodeError.describe (text : String) (e : DecodeError) : String :=
  let (line, column) := lineColumn text e.index
  e.problem.message ++ " at line " ++ toString line ++ " column " ++ toString column

abbrev Decoded (α : Type) := Except DecodeError α

def DecodeError.ofFailure (f : Failure) : DecodeError := ⟨.fault f.fault, f.index⟩

def Value.unexpected : Value → Unexpected
  | .null => .null
  | .bool b => .bool b
  | .num (.nat n) => .unsigned n
  | .num (.neg n) => .signed (-(n : Int))
  | .num (.float x) => .float x
  | .str s => .string s
  | .arr _ => .seq
  | .obj _ => .map

namespace Doc

/-- The problem of finding this `Doc` where `expected` was wanted: a scalar is reported after
it, a container at its opening bracket. -/
def mismatch (d : Doc) (expected : String) : DecodeError :=
  match d with
  | .leaf v stop => ⟨.invalidType v.unexpected expected, stop⟩
  | .arr start _ _ => ⟨.invalidType .seq expected, start⟩
  | .obj start _ _ => ⟨.invalidType .map expected, start⟩
  | .broken f => DecodeError.ofFailure f
  | .rejected f _ => DecodeError.ofFailure f

def string (d : Doc) : Decoded String :=
  match d with
  | .leaf (.str s) _ => .ok s
  | _ => .error (d.mismatch "a string")

def boolean (d : Doc) : Decoded Bool :=
  match d with
  | .leaf (.bool b) _ => .ok b
  | _ => .error (d.mismatch "a boolean")

def u32 (d : Doc) : Decoded Nat :=
  match d with
  | .leaf (.num (.nat n)) stop =>
    if n < UInt32.size then .ok n else .error ⟨.invalidValue (.unsigned n) "u32", stop⟩
  | .leaf (.num (.neg n)) stop => .error ⟨.invalidValue (.signed (-(n : Int))) "u32", stop⟩
  | _ => .error (d.mismatch "u32")

def option {α : Type} (f : Doc → Decoded α) (d : Doc) : Decoded (Option α) :=
  match d with
  | .leaf .null _ => .ok none
  | _ => (f d).map some

def mapItems {α : Type} (f : Doc → Decoded α) : List Doc → Decoded (List α)
  | [] => .ok []
  | d :: ds => do
    let a ← f d
    let as ← mapItems f ds
    pure (a :: as)

def Ending.check : Ending → Decoded Unit
  | .closed _ => .ok ()
  | .broken f => .error (DecodeError.ofFailure f)

def seq {α : Type} (f : Doc → Decoded α) (d : Doc) : Decoded (List α) :=
  match d with
  | .arr _ items ending => do
    let xs ← mapItems f items
    Ending.check ending
    pure xs
  | _ => .error (d.mismatch "a sequence")

/-- Reads an object of arbitrary values, in member order; a repeated key keeps its first place
and takes the later value. -/
def valueMap (d : Doc) : Decoded (List (String × Value)) :=
  match d with
  | .obj start members ending =>
    match (Doc.obj start members ending).toValue with
    | .ok (.obj ms) => .ok ms
    | .ok _ => .ok []
    | .error f => .error (DecodeError.ofFailure f)
  | _ => .error (d.mismatch "a map")

end Doc

/-- A record type as a reader sees it: its name, its fields in declaration order with whether
each may be left out, and whether members with other keys are refused. -/
structure RecordShape where
  name : String
  fields : List (String × Bool)
  refusesUnknown : Bool

namespace RecordShape

def indexOf? (shape : RecordShape) (key : String) : Option Nat :=
  shape.fields.findIdx? (·.1 == key)

def names (shape : RecordShape) : List String := shape.fields.map (·.1)

def asArray (shape : RecordShape) : String :=
  let n := shape.fields.length
  "struct " ++ shape.name ++ " with " ++ toString n ++ (if n = 1 then " element" else " elements")

def firstMissing? (shape : RecordShape) (given : List Nat) : Option String :=
  ((shape.fields.zipIdx).find? fun (f, i) => !f.2 && !given.contains i).map (·.1.1)

end RecordShape

namespace Doc

variable {α : Type}

/-- Reads the members of a record in text order, giving each known member's value to
`field`. -/
def recordMembers (shape : RecordShape) (field : Nat → Doc → Decoded α) :
    List (String × Nat × Doc) → List (Nat × α) → Decoded (List (Nat × α))
  | [], acc => .ok acc.reverse
  | (key, keyStop, d) :: rest, acc =>
    match shape.indexOf? key with
    | some i =>
      if acc.any (·.1 == i) then .error ⟨.duplicateField key, keyStop⟩
      else do
        let a ← field i d
        recordMembers shape field rest ((i, a) :: acc)
    | none =>
      if shape.refusesUnknown then .error ⟨.unknownField key shape.names, keyStop⟩
      else
        match d.skip with
        | .error f => .error (DecodeError.ofFailure f)
        | .ok _ => recordMembers shape field rest acc

/-- Reads the items of a record written as an array: the i-th item is the i-th field. -/
def recordItems (shape : RecordShape) (field : Nat → Doc → Decoded α) (fromText : Bool)
    (ending : Ending) (total : Nat) : Nat → List (String × Bool) → List Doc → List (Nat × α) →
    Decoded (List (Nat × α))
  | _, [], [], acc => .ok acc.reverse
  | _, [], d :: _, _ =>
    match ending with
    | .broken f => .error (DecodeError.ofFailure f)
    | .closed stop =>
      if fromText then
        match d with
        | .broken f => .error (DecodeError.ofFailure f)
        | _ => .error ⟨.fault .trailingCharacters, stop⟩
      else .error ⟨.invalidLength total "fewer elements in array", 0⟩
  | i, (_, optional) :: fs, [], acc =>
    match ending with
    | .broken f => .error (DecodeError.ofFailure f)
    | .closed stop =>
      if optional then recordItems shape field fromText ending total (i + 1) fs [] acc
      else .error ⟨.invalidLength i shape.asArray, stop⟩
  | i, _ :: fs, d :: ds, acc => do
    let a ← field i d
    recordItems shape field fromText ending total (i + 1) fs ds ((i, a) :: acc)

/-- Reads a record, from an object or from an array of its fields in order. `fromText` tells
whether the `Doc` was read from a text, which changes how surplus array items are reported. -/
def record (shape : RecordShape) (field : Nat → Doc → Decoded α) (fromText : Bool) (d : Doc) :
    Decoded (List (Nat × α)) :=
  match d with
  | .obj _ members ending => do
    let read ← recordMembers shape field members []
    match ending with
    | .broken f => throw (DecodeError.ofFailure f)
    | .closed stop =>
      match shape.firstMissing? (read.map (·.1)) with
      | some name => throw ⟨.missingField name, stop⟩
      | none => pure read
  | .arr _ items ending =>
    recordItems shape field fromText ending items.length 0 shape.fields items []
  | _ => .error (d.mismatch ("struct " ++ shape.name))

end Doc

/-- Reads a typed value out of a JSON text; the message of a problem gives its line and
column. -/
def decodeText {α : Type} (read : Doc → Decoded α) (text : String) : Except String α :=
  let doc := Document.read text
  match read doc.root with
  | .error e => .error (e.describe text)
  | .ok a =>
    match doc.trailing with
    | some f => .error (DecodeError.describe text (DecodeError.ofFailure f))
    | none => .ok a

/-- Reads a typed value out of a JSON value; the message of a problem has no position. -/
def decodeValue {α : Type} (read : Doc → Decoded α) (v : Value) : Except String α :=
  (read (Doc.ofValue v)).mapError DecodeError.message

end CssBundle.Json
