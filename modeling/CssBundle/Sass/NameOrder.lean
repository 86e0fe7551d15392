import Std.Data.HashMap
import CssBundle.Sass.Reader.Scan

/-!
# The order names are first met in

The names of variables, arguments, functions and mixins are kept in one table, in the order they
are first met, and every collection keyed by such names lists them in that order: the named
arguments of a call, the keywords of an argument list, the members of a built-in module. So
`keywords($args)` for a call `m($b: 1, $a: 2)` lists `a` first when `$a` appears earlier in the
stylesheet, whatever the order of the call or of the alphabet.

Reading the stylesheet meets its names first. `nameOrder` finds them in the text: after `$`,
after `@function`, `@mixin` and `@include`, and right before `(`; comments are skipped. Names
met while evaluating (the keys of a map passed as named arguments, the members of a built-in
module loaded with `@use`) come after those, in the order they are met.
-/

namespace CssBundle.Sass

/-- Names in the order they were first met, each with its rank. -/
structure NameTable where
  rank : Std.HashMap String Nat := {}

instance : Inhabited NameTable := ⟨{}⟩

/-- A name with `_` read as `-`, as names of variables and functions are compared. -/
def normalizeName (s : String) : String := s.replace "_" "-"

def NameTable.add (t : NameTable) (name : String) : NameTable :=
  if t.rank.contains name then t else { rank := t.rank.insert name t.rank.size }

/-- The rank of a name; a name never met comes after all others. -/
def NameTable.rankOf (t : NameTable) (name : String) : Nat := t.rank.getD name t.rank.size

def NameTable.order {α : Type} (t : NameTable) (xs : List (String × α)) : List (String × α) :=
  xs.mergeSort fun a b => t.rankOf a.1 ≤ t.rankOf b.1

def NameTable.orderNames (t : NameTable) (xs : List String) : List String :=
  xs.mergeSort fun a b => t.rankOf a ≤ t.rankOf b

def takeName (cs : List Char) : String × List Char :=
  let name := cs.takeWhile isNameChar
  (String.ofList name, cs.drop name.length)

def afterBlockComment : Nat → List Char → List Char
  | 0, cs => cs
  | _ + 1, [] => []
  | _ + 1, '*' :: '/' :: rest => rest
  | fuel + 1, _ :: rest => afterBlockComment fuel rest

def namingAtRules : List String := ["function", "mixin", "include"]

/-- Collect the names of a text onto a table, at most `fuel` steps, each of which reads at
least one character. -/
def collectNames : Nat → List Char → NameTable → NameTable
  | 0, _, t => t
  | _ + 1, [], t => t
  | fuel + 1, '/' :: '/' :: rest, t =>
    collectNames fuel (rest.dropWhile fun c => !isNewlineChar c) t
  | fuel + 1, '/' :: '*' :: rest, t => collectNames fuel (afterBlockComment rest.length rest) t
  | fuel + 1, '$' :: rest, t =>
    let (name, after) := takeName rest
    collectNames fuel after (if name.isEmpty then t else t.add (normalizeName name))
  | fuel + 1, '@' :: rest, t =>
    let (rule, after) := takeName rest
    if namingAtRules.contains rule then
      let (name, after) := takeName (after.dropWhile isBlankChar)
      match after with
      | '.' :: more =>
        let (member, after) := takeName more
        collectNames fuel after (if member.isEmpty then t else t.add (normalizeName member))
      | _ => collectNames fuel after (if name.isEmpty then t else t.add (normalizeName name))
    else collectNames fuel after t
  | fuel + 1, c :: rest, t =>
    if isNameChar c then
      let (name, after) := takeName (c :: rest)
      match after with
      | '(' :: _ => collectNames fuel after (t.add (normalizeName name))
      | _ => collectNames fuel after t
    else collectNames fuel rest t

def nameOrder (text : String) : NameTable :=
  let cs := text.toList
  collectNames (cs.length + 1) cs {}

end CssBundle.Sass
