import CssBundle.Sass.Selector

/-!
# Comparing selectors

Equality of selectors, their specificity, and whether one selector is a superselector of
another: whether every element it matches is matched by the other one too. `@extend` uses
these to drop selectors that add nothing to a selector list.

Specificity counts in base 1000: a type selector counts 1, a class, attribute, placeholder or
pseudo-class 1000, an id 1000². A pseudo-class with a selector argument ranges between the least
and the most specific of its selectors, so specificities are pairs of a least and a most value.
-/

namespace CssBundle.Sass

deriving instance BEq for Simple, Component, Complex

/-- Whether two complex selectors have the same components; line breaks do not count. -/
def Complex.same (a b : Complex) : Bool := a.components == b.components

/-- Whether a list of complex selectors has one with the same components as `c`. -/
def containsSame (cs : List Complex) (c : Complex) : Bool := cs.any (·.same c)

def pseudoBaseName (name : String) : String := unvendor name

/-- The pseudo-classes whose selector argument an element matching a selector of it also
matches. -/
def subselectorPseudos : List String := ["is", "matches", "where", "any", "nth-child", "nth-last-child"]

/-! ## Specificity -/

def specificityCeiling : Nat := 1000000000

mutual

def Simple.specificity : Simple → Nat × Nat
  | .universal _ => (0, 0)
  | .type _ => (1, 1)
  | .id _ => (1000000, 1000000)
  | .pseudo name element _ selector =>
    if element then (1, 1)
    else match selector with
      | none => (1000, 1000)
      | some sel =>
        let specs := listSpecificities sel
        let most := specs.foldl (fun m (_, hi) => max m hi) 0
        if name == "not" then (specs.foldl (fun m (lo, _) => max m lo) 0, most)
        else (specs.foldl (fun m (lo, _) => min m lo) specificityCeiling, most)
  | _ => (1000, 1000)

/-- The specificity of a compound selector: the sum of its simple selectors'. -/
def simplesSpecificity : List Simple → Nat × Nat
  | [] => (0, 0)
  | s :: rest =>
    let (a, b) := s.specificity
    let (c, d) := simplesSpecificity rest
    (a + c, b + d)

/-- The specificity of components: the sum of their compound selectors'. -/
def componentsSpecificity : List Component → Nat × Nat
  | [] => (0, 0)
  | .compound parts :: rest =>
    let (a, b) := simplesSpecificity parts
    let (c, d) := componentsSpecificity rest
    (a + c, b + d)
  | .combinator _ :: rest => componentsSpecificity rest

def listSpecificities : List Complex → List (Nat × Nat)
  | [] => []
  | .mk cs _ :: rest => componentsSpecificity cs :: listSpecificities rest

end

def Complex.minSpecificity (c : Complex) : Nat := (componentsSpecificity c.components).1

def Complex.maxSpecificity (c : Complex) : Nat := (componentsSpecificity c.components).2

/-! ## Superselectors -/

def endsWithCompound (cs : List Component) : Bool :=
  match cs.getLast? with
  | some (.compound _) => true
  | _ => false

/-- The selector arguments of the pseudo selectors of a name in a compound selector. -/
def pseudoArguments (compound : List Simple) (name : String) (isClass : Bool) :
    List (List Complex) :=
  compound.filterMap fun s => match s with
    | .pseudo n element _ (some sel) => if n == name && element != isClass then some sel else none
    | _ => none

/-- Whether a simple selector matches every element a compound selector matches: it is one of
its simple selectors, or every selector of one of its `:is()`-like pseudo-classes has it. -/
def simpleSuperOfCompound (simple : Simple) (compound : List Simple) : Bool :=
  compound.any fun their => their == simple || match their with
    | .pseudo name _ _ (some sel) =>
      subselectorPseudos.contains (pseudoBaseName name) && sel.all fun complex =>
        match complex.components with
        | [.compound parts] => parts.contains simple
        | _ => false
    | _ => false

mutual

/-- Whether the components of `c1` from `i1` on match every element that those of `c2` from `i2`
on match; `fuel` bounds the work. -/
def componentsSuperFrom : Nat → Array Component → Array Component → Nat → Nat → Bool
  | 0, _, _, _, _ => false
  | fuel + 1, c1, c2, i1, i2 =>
    let remaining1 := c1.size - i1
    let remaining2 := c2.size - i2
    if remaining1 == 0 || remaining2 == 0 || remaining1 > remaining2 then false
    else match c1[i1]?, c2[i2]? with
      | some (.compound comp1), some (.compound _) =>
        if remaining1 == 1 then
          match c2.back? with
          | some (.compound last2) =>
            compoundSuper fuel comp1 last2 (c2.extract i2 (c2.size - 1)).toList
          | _ => false
        else
          let after := findSuperEnd fuel comp1 c2 i2 (i2 + 1)
          if after ≥ c2.size then false
          else match c1[i1 + 1]?, c2[after]? with
            | some (.combinator comb1), some (.combinator comb2) =>
              let combinatorsFit := if comb1 == .followingSibling then comb2 != .child else comb2 == comb1
              if !combinatorsFit || (remaining1 == 3 && remaining2 > 3) then false
              else componentsSuperFrom fuel c1 c2 (i1 + 2) (after + 1)
            | some (.combinator _), _ => false
            | _, some (.combinator comb2) =>
              comb2 == .child && componentsSuperFrom fuel c1 c2 (i1 + 1) (after + 1)
            | _, _ => componentsSuperFrom fuel c1 c2 (i1 + 1) after
      | _, _ => false

/-- The first index `after`, from the one given on, such that the compound selector before it
in `c2` is matched by `comp1` with the components from `i2 + 1` as its parents; the size of `c2`
when there is none. -/
def findSuperEnd : Nat → List Simple → Array Component → Nat → Nat → Nat
  | 0, _, c2, _, _ => c2.size
  | fuel + 1, comp1, c2, i2, after =>
    if after ≥ c2.size then c2.size
    else match c2[after - 1]? with
      | some (.compound comp2) =>
        if compoundSuper fuel comp1 comp2 (c2.extract (i2 + 1) (after - 1)).toList then after
        else findSuperEnd fuel comp1 c2 i2 (after + 1)
      | _ => findSuperEnd fuel comp1 c2 i2 (after + 1)

/-- Whether a compound selector matches every element another one matches, the second with
some parent components: every simple selector of the first matches them, and the second has no
pseudo-element the first lacks. -/
def compoundSuper : Nat → List Simple → List Simple → List Component → Bool
  | 0, _, _, _ => false
  | fuel + 1, comp1, comp2, parents =>
    comp1.all (fun s1 => match s1 with
      | .pseudo _ _ _ (some _) => selectorPseudoSuper fuel s1 comp2 parents
      | _ => simpleSuperOfCompound s1 comp2) &&
    comp2.all fun s2 => match s2 with
      | .pseudo _ true _ none => simpleSuperOfCompound s2 comp1
      | _ => true

/-- Whether a pseudo selector with a selector argument matches every element a compound
selector, with some parent components, matches. -/
def selectorPseudoSuper : Nat → Simple → List Simple → List Component → Bool
  | 0, _, _, _ => false
  | fuel + 1, pseudo1, comp2, parents =>
    match pseudo1 with
    | .pseudo name element argument (some sel1) =>
      match pseudoBaseName name with
      | "is" | "matches" | "any" | "where" =>
        (pseudoArguments comp2 name true).any (fun sel2 => listSuper fuel sel1 sel2) ||
          sel1.any fun complex1 =>
            complexSuper fuel complex1.components (parents ++ [.compound comp2])
      | "has" | "host" | "host-context" =>
        (pseudoArguments comp2 name true).any fun sel2 => listSuper fuel sel1 sel2
      | "slotted" =>
        (pseudoArguments comp2 name false).any fun sel2 => listSuper fuel sel1 sel2
      | "not" =>
        sel1.all fun complex => comp2.any fun simple2 => match simple2 with
          | .type _ =>
            match complex.components.getLast? with
            | some (.compound parts1) => parts1.any fun s1 => match s1 with
              | .type _ => s1 != simple2
              | _ => false
            | _ => false
          | .id _ =>
            match complex.components.getLast? with
            | some (.compound parts1) => parts1.any fun s1 => match s1 with
              | .id _ => s1 != simple2
              | _ => false
            | _ => false
          | .pseudo name2 _ _ (some sel2) => name2 == name && listSuper fuel sel2 [complex]
          | _ => false
      | "current" => (pseudoArguments comp2 name true).any fun sel2 => sel2 == sel1
      | "nth-child" | "nth-last-child" =>
        comp2.any fun pseudo2 => match pseudo2 with
          | .pseudo name2 element2 argument2 (some sel2) =>
            name2 == name && element2 == element && argument2 == argument && listSuper fuel sel1 sel2
          | _ => false
      | _ => false
    | _ => false

/-- Whether complex selector components match every element other components match. -/
def complexSuper : Nat → List Component → List Component → Bool
  | 0, _, _ => false
  | fuel + 1, c1, c2 =>
    endsWithCompound c1 && endsWithCompound c2 && componentsSuperFrom fuel c1.toArray c2.toArray 0 0

def listSuper : Nat → List Complex → List Complex → Bool
  | 0, _, _ => false
  | fuel + 1, list1, list2 =>
    list2.all fun complex2 => list1.any fun complex1 =>
      complexSuper fuel complex1.components complex2.components

end

def compareFuel (a b : List Component) : Nat := 64 * (a.length + b.length + 4) + 1024

def Complex.isSuperselector (a b : Complex) : Bool :=
  complexSuper (compareFuel a.components b.components) a.components b.components

def compoundIsSuperselector (a b : List Simple) : Bool :=
  compoundSuper (64 * (a.length + b.length) + 1024) a b []

/-- Whether the components `c1` followed by a compound selector match every element `c2`
followed by that compound selector matches. -/
def complexIsParentSuperselector (c1 c2 : List Component) : Bool :=
  match c1.head?, c2.head? with
  | some (.combinator _), _ | _, some (.combinator _) => false
  | _, _ =>
    if c1.length > c2.length then false
    else
      let base := Component.compound [.placeholder "<temp>"]
      complexSuper (compareFuel c1 c2) (c1 ++ [base]) (c2 ++ [base])

/-! ## Choices -/

/-- Every way to pick one option from each list of options, in order: the options of the first
list vary fastest. -/
def paths {α : Type} (choices : List (List α)) : List (List α) :=
  choices.foldl (fun acc choice => choice.flatMap fun option => acc.map (· ++ [option])) [[]]

/-- The longest common subsequence of two lists, where `select` tells whether two items match
and what stands for them. -/
def longestCommonSubsequence {α : Type} (xs ys : List α) (select : α → α → Option α) :
    List α :=
  let a := xs.toArray
  let b := ys.toArray
  let row := fun (i : Nat) => (List.range b.size).map fun j =>
    match a[i]?, b[j]? with
    | some x, some y => select x y
    | _, _ => none
  let selections : Array (Array (Option α)) := ((List.range a.size).map fun i => (row i).toArray).toArray
  let emptyRow : Array Nat := Array.replicate (b.size + 1) 0
  let lengths : Array (Array Nat) := (List.range a.size).foldl (fun acc i =>
    let previous := acc[i]?.getD emptyRow
    let next := (List.range b.size).foldl (fun (r : Array Nat) j =>
      let value := match (selections[i]?.bind (·[j]?)).join with
        | some _ => previous.getD j 0 + 1
        | none => max (r.getD j 0) (previous.getD (j + 1) 0)
      r.push value) #[0]
    acc.push next) #[emptyRow]
  let length := fun (i j : Nat) => (lengths[i]?.bind (·[j]?)).getD 0
  let rec back : Nat → Nat → Nat → List α → List α
    | 0, _, _, acc => acc
    | _ + 1, 0, _, acc => acc
    | _ + 1, _, 0, acc => acc
    | fuel + 1, i + 1, j + 1, acc =>
      match (selections[i]?.bind (·[j]?)).join with
      | some s => back fuel i j (s :: acc)
      | none =>
        if length (i + 1) j > length i (j + 1) then back fuel (i + 1) j acc
        else back fuel i (j + 1) acc
  back (a.size + b.size + 1) a.size b.size []

end CssBundle.Sass
