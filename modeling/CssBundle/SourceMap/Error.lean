import CssBundle.Text.Quoted

/-!
# What can be wrong with a source map

A source map can fail to read as JSON, name a version other than 3, or hold a `mappings` string
that does not decode: a character outside the base64 alphabet, a value cut short or too large,
a segment with the wrong number of fields, a position that goes negative or past 32 bits, or a
reference to a source or name the map does not list.
-/

namespace CssBundle.SourceMap

/-- The four positions a mapping segment moves. -/
inductive Coordinate where
  | generatedLine
  | generatedColumn
  | sourceLine
  | sourceColumn
  deriving Repr, BEq, DecidableEq, Inhabited

def Coordinate.label : Coordinate → String
  | .generatedLine => "generated line"
  | .generatedColumn => "generated column"
  | .sourceLine => "original line"
  | .sourceColumn => "original column"

/-- Why a source map could not be read. -/
inductive MapError where
  | json (message : String)
  | unsupportedVersion (version : Nat)
  | invalidBase64 (c : Char)
  | unterminatedVlq
  | vlqOverflow
  | invalidSegment (fields : Nat)
  | negative (what : Coordinate)
  | tooLarge (what : Coordinate)
  | sourceOutOfRange (index : Int) (count : Nat)
  | nameOutOfRange (index : Int) (count : Nat)
  deriving Repr, BEq, Inhabited

namespace MapError

def message : MapError → String
  | .json m => "invalid source map JSON: " ++ m
  | .unsupportedVersion v =>
    "unsupported source map version " ++ toString v ++ ", only version 3 is supported"
  | .invalidBase64 c => "invalid base64 character " ++ Text.quoteChar c ++ " in mappings"
  | .unterminatedVlq => "unterminated VLQ value in mappings"
  | .vlqOverflow => "VLQ value in mappings does not fit in 32 bits"
  | .invalidSegment n => "mapping segment has " ++ toString n ++ " fields, expected 1, 4 or 5"
  | .negative w => "negative " ++ w.label ++ " in mappings"
  | .tooLarge w => w.label ++ " in mappings does not fit in 32 bits"
  | .sourceOutOfRange i n =>
    "mapping refers to source #" ++ toString i ++ ", but the map lists " ++ toString n ++ " sources"
  | .nameOutOfRange i n =>
    "mapping refers to name #" ++ toString i ++ ", but the map lists " ++ toString n ++ " names"

def kind : MapError → String
  | .json _ => "Json"
  | .unsupportedVersion _ => "UnsupportedVersion"
  | .invalidBase64 _ => "InvalidBase64"
  | .unterminatedVlq => "UnterminatedVlq"
  | .vlqOverflow => "VlqOverflow"
  | .invalidSegment _ => "InvalidSegment"
  | .negative _ => "Negative"
  | .tooLarge _ => "TooLarge"
  | .sourceOutOfRange _ _ => "SourceOutOfRange"
  | .nameOutOfRange _ _ => "NameOutOfRange"

end MapError

end CssBundle.SourceMap
