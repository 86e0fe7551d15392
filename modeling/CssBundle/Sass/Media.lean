import CssBundle.Sass.Reader.Plain

/-!
# Media queries

A media query is a media type with an optional modifier (`only screen`, `not print`) and
conditions joined by `and`, or conditions alone joined by `and` or `or`. A condition is kept as
the text of a parenthesized feature.

A `@media` rule nested in another one is written as one rule whose queries are the pairwise
merges of both lists. Two queries merge into one that matches what both match; the merge may be
empty (`screen` and `print`), which drops that pair, or not expressible as one query, which keeps
the rules nested.
-/

namespace CssBundle.Sass

/-- A media query. -/
structure MediaQuery where
  modifier : Option String := none
  type : Option String := none
  conditions : List String := []
  /-- Whether the conditions are joined by `and` (else `or`). -/
  conjunction : Bool := true
  deriving Repr, BEq, Inhabited

def MediaQuery.text (q : MediaQuery) : String :=
  let head := (match q.modifier with | some m => m ++ " " | none => "") ++
    (match q.type with
     | some t => t ++ (if q.conditions.isEmpty then "" else " and ")
     | none => "")
  match q.conditions with
  | [c] =>
    if c.startsWith "(not " then head ++ "not " ++ String.ofList ((c.toList.drop 5).dropLast)
    else head ++ c
  | cs => head ++ (if q.conjunction then " and " else " or ").intercalate cs

/-- Read a condition in parentheses, answering its text with the parentheses. -/
def readMediaInParens : Reader String := do
  expectChar '(' (some "media condition in parentheses")
  let inner ← plainValue
  expectChar ')'
  return "(" ++ inner ++ ")"

def readMediaLogicSequence (op : String) : Reader (List String) := do
  go ((← read).size + 1) []
where
  go : Nat → List String → Reader (List String)
    | 0, acc => pure acc
    | fuel + 1, acc => do
      let c ← readMediaInParens
      whitespace
      if !(← scanIdentifier op) then return acc ++ [c]
      expectWhitespace
      go fuel (acc ++ [c])

def readMediaQuery : Reader MediaQuery := do
  if ← peekIs '(' then
    let first ← readMediaInParens
    whitespace
    if ← scanIdentifier "and" then
      expectWhitespace
      return { conditions := first :: (← readMediaLogicSequence "and") }
    if ← scanIdentifier "or" then
      expectWhitespace
      return { conditions := first :: (← readMediaLogicSequence "or"), conjunction := false }
    return { conditions := [first] }
  let first ← identifier
  if first.toLower == "not" then
    expectWhitespace
    if !(← lookingAtIdentifier) then
      return { conditions := ["(not " ++ (← readMediaInParens) ++ ")"] }
  whitespace
  if !(← lookingAtIdentifier) then return { type := some first }
  let second ← identifier
  let (modifier, type) ← if second.toLower == "and" then do
      expectWhitespace
      pure (none, first)
    else do
      whitespace
      if ← scanIdentifier "and" then
        expectWhitespace
        pure (some first, second)
      else return { modifier := some first, type := some second }
  if ← scanIdentifier "not" then
    expectWhitespace
    return { modifier, type := some type,
             conditions := ["(not " ++ (← readMediaInParens) ++ ")"] }
  return { modifier, type := some type, conditions := ← readMediaLogicSequence "and" }

def parseMediaQueries (text : String) : Except String (List MediaQuery) :=
  readWhole text do
    let qs ← go (text.length + 1) []
    if !(← isDone) then failHere "expected no more input."
    return qs
where
  go : Nat → List MediaQuery → Reader (List MediaQuery)
    | 0, acc => pure acc
    | fuel + 1, acc => do
      whitespace
      let q ← readMediaQuery
      whitespace
      if ← scanChar ',' then go fuel (acc ++ [q]) else return acc ++ [q]

/-- What merging two media queries gives. -/
inductive MediaMerge where
  /-- Nothing matches both. -/
  | empty
  /-- No single query matches exactly what both match. -/
  | unrepresentable
  | query (q : MediaQuery)
  deriving Repr, Inhabited

/-- Whether a query matches every media type: it has none, or `all`. -/
def MediaQuery.matchesAllTypes (q : MediaQuery) : Bool :=
  match q.type with
  | none => true
  | some t => t.toLower == "all"

/-- Merge two media queries. Conditions alone join; of a negated query and one that is not, the
one that is not is kept, unless either matches every type; two negated queries merge only when
they have one type and the conditions of one include the other's; otherwise a query matching
every type gives way to the other, and two different types match nothing together. -/
def MediaQuery.merge (a b : MediaQuery) : MediaMerge :=
  if !a.conjunction || !b.conjunction then .unrepresentable
  else
    let ourModifier := a.modifier.map String.toLower
    let ourType := a.type.map String.toLower
    let theirModifier := b.modifier.map String.toLower
    let theirType := b.type.map String.toLower
    if ourType.isNone && theirType.isNone then
      .query { conditions := a.conditions ++ b.conditions }
    else
      let make (modifier type : Option String) (conditions : List String) : MediaMerge :=
        .query { type := if type == ourType then a.type else b.type,
                 modifier := if modifier == ourModifier then a.modifier else b.modifier,
                 conditions }
      let ourNot := ourModifier == some "not"
      let theirNot := theirModifier == some "not"
      if ourNot != theirNot then
        if a.matchesAllTypes || b.matchesAllTypes then .unrepresentable
        else if ourNot then make theirModifier theirType b.conditions
        else make ourModifier ourType a.conditions
      else if ourNot then
        if ourType != theirType then .unrepresentable
        else
          let (more, fewer) := if a.conditions.length > b.conditions.length
            then (a.conditions, b.conditions) else (b.conditions, a.conditions)
          if fewer.all more.contains then make ourModifier ourType more
          else .unrepresentable
      else if a.matchesAllTypes then
        make theirModifier (if b.matchesAllTypes && ourType.isNone then none else theirType)
          (a.conditions ++ b.conditions)
      else if b.matchesAllTypes then make ourModifier ourType (a.conditions ++ b.conditions)
      else if ourType != theirType then .empty
      else make (if ourModifier.isSome then ourModifier else theirModifier) ourType
        (a.conditions ++ b.conditions)

/-- Merge two lists of media queries pairwise: none when some pair cannot be one query. -/
def mergeMediaQueries (outer inner : List MediaQuery) : Option (List MediaQuery) :=
  outer.foldl (fun acc q1 =>
    inner.foldl (fun acc q2 =>
      match acc with
      | none => none
      | some qs =>
        match q1.merge q2 with
        | .empty => some qs
        | .unrepresentable => none
        | .query q => some (qs ++ [q])) acc) (some [])

end CssBundle.Sass
