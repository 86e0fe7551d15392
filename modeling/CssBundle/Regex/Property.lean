import CssBundle.Regex.Ast
import CssBundle.Regex.Pattern
import CssBundle.Unicode.Binary
import CssBundle.Unicode.Age
import CssBundle.Unicode.Segment

/-!
# Unicode classes of patterns

`\p{...}` names a set of characters by a Unicode property. A lone name is tried, in order, as a
binary property (`Alphabetic`, `White_Space`), as a general category (`Lu`, `Letter`) and as a
script (`Greek`); the names `cf`, `sc` and `lc` skip the first step, since as properties they
would name case folding, the script property and lowercase mapping rather than the categories
they abbreviate. `name=value` (or `name:value`, or `name!=value` for the complement) asks for the
characters whose property `name` has the value `value`, for the general category, the script,
the script extensions, the age and the three break properties; an age stands for every character
assigned by that version or an earlier one.

Names and values are compared after normalization: blanks, underscores and hyphens are dropped,
ASCII letters lowered, characters beyond ASCII dropped, and a leading `is` removed (except that
`isc` stays as it is). A name that is no property is reported as a property not found, a value
that the property does not have as a value not found.
-/

namespace CssBundle.Regex

open CssBundle.Unicode

def normalizeProperty (name : String) : String :=
  let cs := name.toList
  let (strip, rest) := match cs with
    | a :: b :: rest => if a.toLower == 'i' && b.toLower == 's' then (true, rest) else (false, cs)
    | _ => (false, cs)
  let kept := rest.filter fun c => c != ' ' && c != '_' && c != '-' && c.toNat < 0x80
  let lowered := kept.map Char.toLower
  if strip && lowered == ['c'] then "isc" else String.ofList lowered

def lookupAlias {α : Type} (table : List (String × α)) (key : String) : Option α :=
  (table.find? (·.1 == key)).map (·.2)

/-- The set a general category value names, `any`, `assigned` and `ascii` included. Surrogates
are no characters, so their category is a value without a set. -/
def categorySet? (value : String) : Option (Except SyntaxFault CharSet) :=
  match value with
  | "any" => some (.ok (.range '\x00' (Char.ofNat 0x10FFFF)))
  | "assigned" => some (.ok (.complement (.category [.unassigned])))
  | "ascii" => some (.ok (.range '\x00' '\x7F'))
  | _ => (lookupAlias categoryAliases value).map fun
    | [.surrogate] => .error .unicodePropertyValueNotFound
    | cats => .ok (.category cats)

def scriptSet? (value : String) : Option CharSet :=
  (lookupAlias scriptAliases value).map .script

/-- Script names, normalized, that have no table: `Katakana_Or_Hiragana` is the script of no
character, and `Unknown`, the script of the unassigned code points, is not listed by them. A
lone name among them is a script value without characters, not a name that is no property. -/
def scriptsWithoutTable : List String := ["hrkt", "katakanaorhiragana", "unknown", "zzzz"]

/-- The set a binary property names, by its name as `propertyAliases` gives it. -/
def binarySet? (canonical : String) : Option CharSet :=
  (lookupAlias binaryProperties canonical).map .table

/-- The set a lone name names: a binary property, a general category or a script. -/
def loneNameSet (name : String) : Except SyntaxFault CharSet :=
  let key := normalizeProperty name
  let property := if key == "cf" || key == "sc" || key == "lc" then none
    else lookupAlias propertyAliases key
  match property with
  | some canonical =>
    match binarySet? canonical with
    | some s => .ok s
    | none => .error .unicodePropertyNotFound
  | none =>
    match categorySet? key with
    | some s => s
    | none =>
      match scriptSet? key with
      | some s => .ok s
      | none =>
        if scriptsWithoutTable.contains key then .error .unicodePropertyValueNotFound
        else .error .unicodePropertyNotFound

/-- The set of the code points with one value of a break property, found by its normalized
name. -/
def breakSet (aliases : List (String × Nat)) (runs : Array (Nat × Nat)) (value : String) :
    Option CharSet :=
  (lookupAlias aliases value).map fun i => .table (runsWhere runs (· == i))

def valueSet (name value : String) : Except SyntaxFault CharSet :=
  let key := normalizeProperty value
  let found (s : Option CharSet) : Except SyntaxFault CharSet :=
    match s with
    | some s => .ok s
    | none => .error .unicodePropertyValueNotFound
  match lookupAlias propertyAliases (normalizeProperty name) with
  | none => .error .unicodePropertyNotFound
  | some "General_Category" => (categorySet? key).getD (.error .unicodePropertyValueNotFound)
  | some "Script" => found (scriptSet? key)
  | some "Script_Extensions" => found ((lookupAlias scriptAliases key).map .scriptExtension)
  | some "Age" => found ((lookupAlias ageAliases key).map fun i => .table (agedRanges i))
  | some "Grapheme_Cluster_Break" => found (breakSet graphemeBreakAliases graphemeBreakRuns key)
  | some "Word_Break" => found (breakSet wordBreakAliases wordBreakRuns key)
  | some "Sentence_Break" => found (breakSet sentenceBreakAliases sentenceBreakRuns key)
  | some _ => .error .unicodePropertyValueNotFound

def PropertyQuery.set : PropertyQuery → Except SyntaxFault CharSet
  | .oneLetter c => loneNameSet (String.singleton c)
  | .named name => loneNameSet name
  | .byValue name value _ => valueSet name value

/-- Whether a Unicode class escape stands for the complement: written `\P`, or with `!=`, but not
both. -/
def PropertyQuery.negates (query : PropertyQuery) (capital : Bool) : Bool :=
  match query with
  | .byValue _ _ true => !capital
  | _ => capital

end CssBundle.Regex
