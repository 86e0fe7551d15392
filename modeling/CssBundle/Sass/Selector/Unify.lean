import CssBundle.Sass.Selector.Compare

/-!
# Unifying selectors

Unifying selectors gives selectors that match exactly the elements all of them match. Two
compound selectors unify into one that has the simple selectors of both, unless they cannot
both hold: two different ids, two different element types, or two pseudo-elements. Complex
selectors unify by unifying their last compound selectors and weaving their parents together:
every order of the parent sequences that keeps the order of each, with common parts shared.
-/

namespace CssBundle.Sass

def Simple.isHost : Simple → Bool
  | .pseudo name _ _ _ => name == "host" || name == "host-context"
  | _ => false

def Simple.isPseudo : Simple → Bool
  | .pseudo .. => true
  | _ => false

def Simple.isPseudoElement : Simple → Bool
  | .pseudo _ element _ _ => element
  | _ => false

def Simple.isUniversal : Simple → Bool
  | .universal _ => true
  | _ => false

def Simple.elementParts : Simple → Option (Option String × Option String)
  | .universal ns => some (ns, none)
  | .type q => some (q.ns, some q.name)
  | _ => none

/-- The selector matching the elements two universal or type selectors both match. -/
def unifyUniversalAndElement (a b : Simple) : Option Simple := do
  let (ns1, name1) ← a.elementParts
  let (ns2, name2) ← b.elementParts
  let ns ← if ns1 == ns2 || ns2 == some "*" then some ns1
    else if ns1 == some "*" then some ns2
    else none
  let name ← if name1 == name2 || name2.isNone then some name1
    else if name1.isNone || name1 == some "*" then some name2
    else none
  match name with
  | none => some (.universal ns)
  | some n => some (.type { name := n, ns })

/-- Add a simple selector to a compound selector it is not in, before its pseudo selectors
(`beforePseudoElements`: before its pseudo-elements only). -/
def insertSimple (s : Simple) (compound : List Simple) (beforePseudoElements : Bool) :
    List Simple :=
  let isMark := fun (x : Simple) => if beforePseudoElements then x.isPseudoElement else x.isPseudo
  match compound.findIdx? isMark with
  | some i => compound.take i ++ [s] ++ compound.drop i
  | none => compound ++ [s]

def unifyUniversal (s : Simple) (compound : List Simple) : Option (List Simple) :=
  match compound with
  | [] => some [s]
  | first :: rest =>
    if (first.elementParts).isSome then
      (unifyUniversalAndElement s first).map (· :: rest)
    else if rest.isEmpty && first.isHost then none
    else match s with
      | .universal (some ns) => if ns != "*" then some (s :: compound) else some compound
      | _ => some compound

def unifyHost (s : Simple) (compound : List Simple) : Option (List Simple) :=
  if !compound.all (fun x => match x with
      | .pseudo _ _ _ (some _) => true
      | x => x.isHost) then none
  else if compound.contains s then some compound
  else if s.isPseudoElement && compound.any Simple.isPseudoElement then none
  else some (insertSimple s compound true)

/-- A simple selector unified with a compound selector: none when no element can match both. -/
def Simple.unify (s : Simple) (compound : List Simple) : Option (List Simple) :=
  match s with
  | .universal _ => unifyUniversal s compound
  | .type _ =>
    match compound with
    | first :: rest =>
      if first.elementParts.isSome then (unifyUniversalAndElement s first).map (· :: rest)
      else some (s :: compound)
    | [] => some [s]
  | .pseudo .. =>
    if s.isHost then unifyHost s compound
    else match compound with
      | [other] =>
        if other.isUniversal then unifyUniversal other [s]
        else if other.isHost then unifyHost other [s]
        else if compound.contains s then some compound
        else if s.isPseudoElement && other.isPseudoElement then none
        else some (insertSimple s compound true)
      | _ =>
        if compound.contains s then some compound
        else if s.isPseudoElement && compound.any Simple.isPseudoElement then none
        else some (insertSimple s compound true)
  | _ =>
    let isId := match s with
      | .id _ => true
      | _ => false
    if isId && compound.any (fun x => match x with
        | .id _ => x != s
        | _ => false) then none
    else match compound with
      | [other] =>
        if other.isUniversal then unifyUniversal other [s]
        else if other.isHost then unifyHost other [s]
        else if compound.contains s then some compound
        else some (insertSimple s compound false)
      | _ => if compound.contains s then some compound else some (insertSimple s compound false)

def unifyCompound (compound1 compound2 : List Simple) : Option (List Simple) :=
  compound1.foldlM (fun acc s => s.unify acc) compound2

/-! ## Weaving -/

def leadingCombinators (cs : List Component) : List Combinator × List Component :=
  let rec go : List Component → List Combinator → List Combinator × List Component
    | .combinator c :: rest, acc => go rest (acc ++ [c])
    | rest, acc => (acc, rest)
  go cs []

/-- The trailing combinators of components, innermost last in the list they were written in,
given from the end, and the rest. -/
def trailingCombinators (cs : List Component) : List Combinator × List Component :=
  let (combs, rest) := leadingCombinators cs.reverse
  (combs, rest.reverse)

/-- The combinators two selectors start with, merged: one sequence when the other is part of
it. -/
def mergeLeading (c1 c2 : List Combinator) : Option (List Combinator) :=
  let lcs := longestCommonSubsequence c1 c2 fun a b => if a == b then some a else none
  if lcs == c1 then some c2 else if lcs == c2 then some c1 else none

def hasRoot (compound : List Simple) : Bool :=
  compound.any fun s => match s with
    | .pseudo name false _ _ => name == "root"
    | _ => false

/-- Components cut into groups: each compound selector with the combinators around it. -/
def groupComponents (cs : List Component) : List (List Component) :=
  cs.foldl (fun groups c =>
    match groups.getLast? with
    | none => [[c]]
    | some group =>
      let lastIsCombinator := match group.getLast? with
        | some (.combinator _) => true
        | _ => false
      let isCombinator := match c with
        | .combinator _ => true
        | .compound _ => false
      if lastIsCombinator || isCombinator then groups.dropLast ++ [group ++ [c]]
      else groups ++ [[c]]) []

/-- Whether a simple selector can stand only once in a compound selector: an id or a
pseudo-element. -/
def Simple.isUnique : Simple → Bool
  | .id _ => true
  | .pseudo _ element _ _ => element
  | _ => false

/-- Whether two groups of components share an id or pseudo-element, so that they must be
unified rather than put one after the other. -/
def mustUnify (g1 g2 : List Component) : Bool :=
  let unique := g1.flatMap fun c => match c with
    | .compound parts => parts.filter Simple.isUnique
    | _ => []
  !unique.isEmpty && g2.any fun c => match c with
    | .compound parts => parts.any fun s => s.isUnique && unique.contains s
    | _ => false

/-- Take groups from the front of two queues until `done` holds of each: the chunks taken, in
both orders when both are not empty. -/
def takeChunks (q1 q2 : List (List Component)) (done : List (List Component) → Bool) :
    List (List Component) × List (List Component) × List (List (List Component)) :=
  let rec take : Nat → List (List Component) → List (List Component) →
      List (List Component) × List (List Component)
    | 0, q, acc => (acc, q)
    | fuel + 1, q, acc =>
      if q.isEmpty || done q then (acc, q)
      else match q with
        | g :: rest => take fuel rest (acc ++ [g])
        | [] => (acc, [])
  let (chunk1, rest1) := take (q1.length + 1) q1 []
  let (chunk2, rest2) := take (q2.length + 1) q2 []
  let chunks :=
    if chunk1.isEmpty && chunk2.isEmpty then []
    else if chunk1.isEmpty then [chunk2]
    else if chunk2.isEmpty then [chunk1]
    else [chunk1 ++ chunk2, chunk2 ++ chunk1]
  (rest1, rest2, chunks)

/-- The trailing combinators of two component sequences merged, as choices of component
sequences that come last, outermost first, with what is left of each sequence; none when they
cannot be merged. -/
def mergeTrailing : Nat → List Component → List Component → List (List (List Component)) →
    Option (List Component × List Component × List (List (List Component)))
  | 0, c1, c2, acc => some (c1, c2, acc)
  | fuel + 1, c1, c2, acc =>
    let endsInCombinator := fun (cs : List Component) => match cs.getLast? with
      | some (.combinator _) => true
      | _ => false
    if !endsInCombinator c1 && !endsInCombinator c2 then some (c1, c2, acc)
    else
      let (combs1, rest1) := trailingCombinators c1
      let (combs2, rest2) := trailingCombinators c2
      if combs1.length > 1 || combs2.length > 1 then
        let lcs := longestCommonSubsequence combs1 combs2 fun a b => if a == b then some a else none
        if lcs == combs1 then
          some (rest1, rest2, [combs2.reverse.map Component.combinator] :: acc)
        else if lcs == combs2 then
          some (rest1, rest2, [combs1.reverse.map Component.combinator] :: acc)
        else none
      else
        let lastCompound := fun (cs : List Component) => match cs.getLast? with
          | some (.compound parts) => some parts
          | _ => none
        match combs1.head?, combs2.head? with
        | some comb1, some comb2 =>
          match lastCompound rest1, lastCompound rest2 with
          | some compound1, some compound2 =>
            let rest1 := rest1.dropLast
            let rest2 := rest2.dropLast
            let cmp1 := Component.compound compound1
            let cmp2 := Component.compound compound2
            if comb1 == .followingSibling && comb2 == .followingSibling then
              let choice :=
                if compoundIsSuperselector compound1 compound2 then [[cmp2, .combinator .followingSibling]]
                else if compoundIsSuperselector compound2 compound1 then
                  [[cmp1, .combinator .followingSibling]]
                else
                  let both := [[cmp1, .combinator .followingSibling, cmp2, .combinator .followingSibling],
                    [cmp2, .combinator .followingSibling, cmp1, .combinator .followingSibling]]
                  match unifyCompound compound1 compound2 with
                  | some u => both ++ [[.compound u, .combinator .followingSibling]]
                  | none => both
              mergeTrailing fuel rest1 rest2 (choice :: acc)
            else if (comb1 == .followingSibling && comb2 == .nextSibling) ||
                (comb1 == .nextSibling && comb2 == .followingSibling) then
              let (following, next) := if comb1 == .followingSibling then (compound1, compound2)
                else (compound2, compound1)
              let choice :=
                if compoundIsSuperselector following next then [[.compound next, .combinator .nextSibling]]
                else
                  let first := [.compound following, .combinator .followingSibling,
                    .compound next, .combinator .nextSibling]
                  match unifyCompound compound1 compound2 with
                  | some u => [first, [.compound u, .combinator .nextSibling]]
                  | none => [first]
              mergeTrailing fuel rest1 rest2 (choice :: acc)
            else if comb1 == .child && (comb2 == .nextSibling || comb2 == .followingSibling) then
              mergeTrailing fuel (rest1 ++ [cmp1, .combinator .child]) rest2
                ([[cmp2, .combinator comb2]] :: acc)
            else if comb2 == .child && (comb1 == .nextSibling || comb1 == .followingSibling) then
              mergeTrailing fuel rest1 (rest2 ++ [cmp2, .combinator .child])
                ([[cmp1, .combinator comb1]] :: acc)
            else if comb1 == comb2 then
              match unifyCompound compound1 compound2 with
              | some u => mergeTrailing fuel rest1 rest2 ([[.compound u, .combinator comb1]] :: acc)
              | none => none
            else none
          | _, _ => none
        | some comb1, none =>
          match lastCompound rest1 with
          | some compound1 =>
            let rest2 := if comb1 == .child then
                match lastCompound rest2 with
                | some compound2 =>
                  if compoundIsSuperselector compound2 compound1 then rest2.dropLast else rest2
                | none => rest2
              else rest2
            mergeTrailing fuel rest1.dropLast rest2
              ([[.compound compound1, .combinator comb1]] :: acc)
          | none => none
        | none, some comb2 =>
          match lastCompound rest2 with
          | some compound2 =>
            let rest1 := if comb2 == .child then
                match lastCompound rest1 with
                | some compound1 =>
                  if compoundIsSuperselector compound1 compound2 then rest1.dropLast else rest1
                | none => rest1
              else rest1
            mergeTrailing fuel rest1 rest2.dropLast
              ([[.compound compound2, .combinator comb2]] :: acc)
          | none => none
        | none, none => some (c1, c2, acc)

/-- The first component of a sequence when it is a compound selector with `:root`, and the
rest. -/
def takeRoot (cs : List Component) : Option (List Simple) × List Component :=
  match cs with
  | .compound parts :: rest => if hasRoot parts then (some parts, rest) else (none, cs)
  | _ => (none, cs)

mutual

/-- The complex selectors, as components, matching the elements all of them match: their last
compound selectors unified, after their parents woven together. -/
def unifyComplex : Nat → List (List Component) → Option (List (List Component))
  | 0, _ => none
  | _ + 1, [c] => some [c]
  | fuel + 1, complexes =>
    let base := complexes.foldlM (fun (acc : Option (List Simple)) complex =>
      match complex.getLast? with
      | some (.compound parts) =>
        match acc with
        | none => some (some parts)
        | some unified => (parts.foldlM (fun u (s : Simple) => s.unify u) unified).map some
      | _ => none) none
    match base with
    | some (some unified) =>
      let withoutBases := complexes.map List.dropLast
      let withBase := withoutBases.dropLast ++
        [(withoutBases.getLast?.getD []) ++ [Component.compound unified]]
      some (weave fuel withBase)
    | _ => none

/-- Every way to put complex selectors, as components, one after another so that the last
one's final compound selector ends the result. -/
def weave : Nat → List (List Component) → List (List Component)
  | 0, _ => []
  | _ + 1, [] => [[]]
  | fuel + 1, first :: rest =>
    rest.foldl (fun prefixes complex =>
      match complex.getLast? with
      | none => prefixes
      | some target =>
        if complex.length == 1 then prefixes.map (· ++ [target])
        else
          let parents := complex.dropLast
          prefixes.flatMap fun pre =>
            match weaveParents fuel pre parents with
            | some choices => choices.map (· ++ [target])
            | none => []) [first]

/-- Every way to interleave two parent sequences so that each keeps its order, sharing the
groups they have in common; none when they cannot both hold. -/
def weaveParents : Nat → List Component → List Component → Option (List (List Component))
  | 0, _, _ => none
  | fuel + 1, parents1, parents2 =>
    let (initial1, q1) := leadingCombinators parents1
    let (initial2, q2) := leadingCombinators parents2
    match mergeLeading initial1 initial2 with
    | none => none
    | some initial =>
      match mergeTrailing (q1.length + q2.length + 2) q1 q2 [] with
      | none => none
      | some (q1, q2, finals) =>
        let (root1, q1) := takeRoot q1
        let (root2, q2) := takeRoot q2
        let roots : Option (List Component × List Component) :=
          match root1, root2 with
          | some r1, some r2 =>
            (unifyCompound r1 r2).map fun r => (.compound r :: q1, .compound r :: q2)
          | some r1, none => some (q1, .compound r1 :: q2)
          | none, some r2 => some (.compound r2 :: q1, q2)
          | none, none => some (q1, q2)
        match roots with
        | none => none
        | some (q1, q2) =>
          let groups1 := groupComponents q1
          let groups2 := groupComponents q2
          let lcs := longestCommonSubsequence groups2 groups1 fun g1 g2 =>
            if g1 == g2 then some g1
            else match g1.head?, g2.head? with
              | some (.compound _), some (.compound _) =>
                if complexIsParentSuperselector g1 g2 then some g2
                else if complexIsParentSuperselector g2 g1 then some g1
                else if !mustUnify g1 g2 then none
                else match unifyComplex fuel [g1, g2] with
                  | some [u] => some u
                  | _ => none
              | _, _ => none
          let step := fun (acc : List (List (List Component)) × List (List Component) ×
              List (List Component)) (group : List Component) =>
            let (choices, g1, g2) := acc
            let (g1, g2, chunks) := takeChunks g1 g2 fun q =>
              match q.head? with
              | some first => complexIsParentSuperselector first group
              | none => true
            (choices ++ [chunks.map List.flatten, [group]], g1.drop 1, g2.drop 1)
          let (choices, g1, g2) := lcs.foldl step ([[initial.map Component.combinator]], groups1, groups2)
          let (_, _, lastChunks) := takeChunks g1 g2 List.isEmpty
          let choices := choices ++ [lastChunks.map List.flatten] ++ finals
          let choices := choices.filter (!·.isEmpty)
          some ((paths choices).map List.flatten)

end

def weaveFuel (complexes : List (List Component)) : Nat :=
  16 * (complexes.foldl (fun n c => n + c.length) 0) + 64

end CssBundle.Sass
