import CssBundle.Sass.Syntax
import CssBundle.Sass.Selector.Unify

/-!
# Extending selectors

`@extend B` inside a rule with selector `A` makes every selector holding the simple selector
`B` also match what `A` matches: wherever `B` stands in a compound selector, a copy of the
selector is added with `A` unified into that compound selector. Extensions also apply to the
selectors of other extensions, so extending chains through several rules.

The store keeps the selector of every style rule, as extensions change it. A rule added after
some extensions is extended by all of them at once; an extension added later extends the rules
already there, and the extensions whose selectors hold its target.

Selectors that add nothing are dropped: a selector made by extending that is a subselector of
another one of at least its source's specificity. Media queries do not limit extending: an
extension written in some reaches selectors in any others, and outside all of them.
-/

namespace CssBundle.Sass

instance : Inhabited Simple := ⟨.universal none⟩

/-- An extension: the selector of the rule extending, the simple selector extended, whether it
may match nothing, and where it was written. -/
structure Extension where
  extender : Complex
  target : Simple
  optional : Bool
  span : Span
  deriving Inhabited

/-- One way to write a simple selector of a compound selector being extended: a complex
selector, whether it is the one written in the stylesheet, and the extension it comes from. -/
structure Extender where
  selector : Complex
  isOriginal : Bool
  extension : Option Extension
  deriving Inhabited

/-- The selector of a style rule as extensions change it, and the simple selectors it has had,
which are those extensions of them apply to. -/
structure RuleSelector where
  selector : SelectorList
  simples : List Simple
  deriving Inhabited

/-- Extensions by the simple selector they extend, each by its extending complex selector. -/
abbrev ExtensionMap := List (Simple × List (Complex × Extension))

/-- How extending treats the selectors it extends: keeping them (`normal`), keeping them and
extending a compound selector only when it has every target (`allTargets`), or putting the
extenders in their place (`replace`). -/
inductive ExtendMode where
  | normal
  | allTargets
  | replace
  deriving BEq, Inhabited

/-- Everything known about extending: the selectors of the style rules, the extensions by their
target and by the simple selectors of their extenders, the specificity of the selectors each
simple selector came from, and the complex selectors written in the stylesheet. -/
structure ExtensionStore where
  rules : Array RuleSelector := #[]
  extensions : ExtensionMap := []
  byExtender : List (Simple × List Extension) := []
  sourceSpecificity : List (Simple × Nat) := []
  originals : List Complex := []
  mode : ExtendMode := .normal
  deriving Inhabited

abbrev Extend := StateT ExtensionStore (Except SassError)

def lookupSimple {α : Type} (xs : List (Simple × α)) (s : Simple) : Option α :=
  (xs.find? (·.1 == s)).map (·.2)

/-- An association list with the value of a simple selector changed by `f`, from `default` when
it has none. -/
def updateSimple {α : Type} (xs : List (Simple × α)) (s : Simple) (default : α) (f : α → α) :
    List (Simple × α) :=
  if xs.any (·.1 == s) then xs.map fun (k, v) => if k == s then (k, f v) else (k, v)
  else xs ++ [(s, f default)]

/-- A map of extenders with the value of a complex selector set: in place when it has one, else
at the end. -/
def setSource (sources : List (Complex × Extension)) (c : Complex) (e : Extension) :
    List (Complex × Extension) :=
  if sources.any (·.1.same c) then sources.map fun (k, v) => if k.same c then (k, e) else (k, v)
  else sources ++ [(c, e)]

/-- Two extensions of one target by one selector, merged: it is optional only when both are. -/
def Extension.merge (left right : Extension) : Extension :=
  { left with optional := left.optional && right.optional }

def originalExtender (parts : List Simple) : Extender :=
  { selector := .mk [.compound parts] false, isOriginal := true, extension := none }

def Extension.asExtender (e : Extension) : Extender :=
  { selector := e.extender, isOriginal := false, extension := some e }

/-- The simple selectors of the last compound selector of a complex selector. -/
def lastCompound (c : Complex) : List Simple :=
  match c.components.getLast? with
  | some (.compound parts) => parts
  | _ => []

def Complex.simples (c : Complex) : List Simple :=
  c.components.flatMap fun comp => match comp with
    | .compound parts => parts
    | .combinator _ => []

mutual

/-- The simple selectors of a simple selector, with those of its selector argument. -/
def Simple.registered : Simple → List Simple
  | .pseudo name element argument (some sel) =>
    .pseudo name element argument (some sel) :: listRegistered sel
  | s => [s]

/-- The simple selectors of compound selectors, with those of selector arguments. -/
def simplesRegistered : List Simple → List Simple
  | [] => []
  | s :: rest => s.registered ++ simplesRegistered rest

def componentsRegistered : List Component → List Simple
  | [] => []
  | .compound parts :: rest => simplesRegistered parts ++ componentsRegistered rest
  | .combinator _ :: rest => componentsRegistered rest

/-- The simple selectors of a selector list, with those of selector arguments. -/
def listRegistered : List Complex → List Simple
  | [] => []
  | .mk cs _ :: rest => componentsRegistered cs ++ listRegistered rest

end

/-- The most specificity of the selectors that the simple selectors of a compound selector came
from. -/
def ExtensionStore.sourceSpecificityOf (store : ExtensionStore) (compound : List Simple) : Nat :=
  compound.foldl (fun m s => max m ((lookupSimple store.sourceSpecificity s).getD 0)) 0

def moveToFront {α : Type} (xs : List α) (j : Nat) : List α :=
  match xs[j]? with
  | some x => x :: (xs.take j ++ xs.drop (j + 1))
  | none => xs

/-- Selectors without those that are subselectors of another one of at least the specificity
of their sources; originals are kept, once each. -/
def ExtensionStore.trim (store : ExtensionStore) (selectors : List Complex)
    (isOriginal : Complex → Bool) : List Complex :=
  if selectors.length > 100 then selectors
  else
    let arr := selectors.toArray
    let rec go : Nat → List Complex → Nat → List Complex
      | 0, result, _ => result
      | i + 1, result, originals =>
        match arr[i]? with
        | none => go i result originals
        | some complex1 =>
          if isOriginal complex1 then
            match (result.take originals).findIdx? (·.same complex1) with
            | some j => go i (moveToFront result j) originals
            | none => go i (complex1 :: result) (originals + 1)
          else
            let most := complex1.components.foldl (fun m comp => match comp with
              | .compound parts => max m (store.sourceSpecificityOf parts)
              | .combinator _ => m) 0
            let covers := fun (complex2 : Complex) =>
              complex2.minSpecificity ≥ most && complex2.isSuperselector complex1
            if result.any covers || (selectors.take i).any covers then go i result originals
            else go i (complex1 :: result) originals
    go arr.size [] 0

/-- The complex selectors of one choice of extenders for the simple selectors of a compound
selector: for the first choice, the compound selector as written; otherwise the extenders
unified, the original simple selectors together first. -/
def unifyPath (path : List Extender) (first : Bool) : Option (List Complex) := do
  let complexes :=
    if first then some [[Component.compound (path.flatMap fun st => lastCompound st.selector)]]
    else
      let originals := (path.filter (·.isOriginal)).flatMap fun st => lastCompound st.selector
      let others := (path.filter (!·.isOriginal)).map (·.selector.components)
      let toUnify := if path.any (·.isOriginal) then [Component.compound originals] :: others
        else others
      unifyComplex (weaveFuel toUnify) toUnify
  let cs ← complexes
  let lineBreak := path.any (·.selector.lineBreak)
  return cs.map fun c => Complex.mk c lineBreak

mutual

/-- A selector list extended by some extensions, or none when no extension applies. -/
def extendList : Nat → SelectorList → ExtensionMap → Extend (Option SelectorList)
  | 0, _, _ => pure none
  | fuel + 1, list, exts => do
    let mut extended : Option (List Complex) := none
    let mut i := 0
    for complex in list do
      match ← extendComplex fuel complex exts with
      | none => extended := extended.map (· ++ [complex])
      | some result => extended := some (extended.getD (list.take i) ++ result)
      i := i + 1
    match extended with
    | none => return none
    | some e =>
      let store ← get
      return some (store.trim e (containsSame store.originals))

/-- The complex selectors a complex selector extends to, or none when no extension applies. -/
def extendComplex : Nat → Complex → ExtensionMap → Extend (Option (List Complex))
  | 0, _, _ => pure none
  | fuel + 1, complex, exts => do
    let isOriginal := containsSame (← get).originals complex
    let mut expanded : Option (List (List Complex)) := none
    let mut i := 0
    for component in complex.components do
      let single := [Complex.mk [component] complex.lineBreak]
      match component with
      | .compound parts =>
        match ← extendCompound fuel parts exts isOriginal with
        | none => expanded := expanded.map (· ++ [single])
        | some extended =>
          let before := (complex.components.take i).map fun c => [Complex.mk [c] complex.lineBreak]
          expanded := some (expanded.getD before ++ [extended])
      | .combinator _ => expanded := expanded.map (· ++ [single])
      i := i + 1
    match expanded with
    | none => return none
    | some choices =>
      let mut first := true
      let mut out : List Complex := []
      for path in paths choices do
        let parts := path.map (·.components)
        for components in weave (weaveFuel parts) parts do
          let output := Complex.mk components (complex.lineBreak || path.any (·.lineBreak))
          if first && containsSame (← get).originals complex then
            modify fun s => { s with
              originals := if containsSame s.originals output then s.originals
                else s.originals ++ [output] }
          first := false
          out := out ++ [output]
      return some out

/-- The complex selectors a compound selector extends to, or none when no extension applies;
`inOriginal` tells that it stands in a selector written in the stylesheet. -/
def extendCompound : Nat → List Simple → ExtensionMap → Bool → Extend (Option (List Complex))
  | 0, _, _, _ => pure none
  | fuel + 1, compound, exts, inOriginal => do
    let mut options : Option (List (List Extender)) := none
    let mut i := 0
    for simple in compound do
      match ← extendSimple fuel simple exts with
      | none => options := options.map (· ++ [[originalExtender [simple]]])
      | some extended =>
        let base := match options with
          | some o => o
          | none => if i == 0 then [] else [[originalExtender (compound.take i)]]
        options := some (base ++ extended)
      i := i + 1
    let mode := (← get).mode
    let targetsMissing := mode != .normal && exts.length ≥ 2 &&
      !exts.all fun (t, _) => compound.contains t
    if targetsMissing then return none
    match options with
    | none => return none
    | some [single] => return some (single.map (·.selector))
    | some choices =>
      let mut unified : List Complex := []
      let mut original : Option Complex := none
      let mut first := mode != .replace
      for path in paths choices do
        match unifyPath path first with
        | some cs =>
          if first then original := cs.head?
          unified := unified ++ cs
        | none => pure ()
        first := false
      let isOriginal := fun (c : Complex) => inOriginal && mode != .replace && match original with
        | some o => c.same o
        | none => false
      return some ((← get).trim unified isOriginal)

/-- The choices of extenders for a simple selector, one list of them for each simple selector it
stands for, or none when no extension applies. -/
def extendSimple : Nat → Simple → ExtensionMap → Extend (Option (List (List Extender)))
  | 0, _, _ => pure none
  | fuel + 1, simple, exts => do
    let replacing := (← get).mode == .replace
    let withoutPseudo := fun (s : Simple) => (lookupSimple exts s).map fun sources =>
      let extenders := sources.map fun (_, ext) => ext.asExtender
      if replacing then extenders else originalExtender [s] :: extenders
    match simple with
    | .pseudo name element argument (some sel) =>
      match ← extendPseudo fuel name element argument sel exts with
      | some pseudos =>
        return some (pseudos.map fun p => (withoutPseudo p).getD [originalExtender [p]])
      | none => return (withoutPseudo simple).map ([·])
    | _ => return (withoutPseudo simple).map ([·])

/-- The pseudo selectors a pseudo selector with a selector argument extends to, by extending
its argument, or none when no extension applies. -/
def extendPseudo : Nat → String → Bool → Option String → List Complex → ExtensionMap →
    Extend (Option (List Simple))
  | 0, _, _, _, _, _ => pure none
  | fuel + 1, name, element, argument, sel, exts => do
    match ← extendList fuel sel exts with
    | none => return none
    | some extended =>
      let base := pseudoBaseName name
      let complexes :=
        if base == "not" && !sel.any (·.components.length > 1) &&
            extended.any (·.components.length == 1) then
          extended.filter (·.components.length ≤ 1)
        else extended
      let complexes := complexes.flatMap fun complex =>
        match complex.components with
        | [.compound [.pseudo innerName _ innerArgument (some innerSel)]] =>
          match base with
          | "not" => if ["is", "matches"].contains (pseudoBaseName innerName) then innerSel else []
          | "is" | "matches" | "where" | "any" | "current" | "nth-child" | "nth-last-child" =>
            if innerName != name || innerArgument != argument then [] else innerSel
          | "has" | "host" | "host-context" | "slotted" => [complex]
          | _ => []
        | _ => [complex]
      if base == "not" && sel.length == 1 then
        let result := complexes.map fun c => Simple.pseudo name element argument (some [c])
        return if result.isEmpty then none else some result
      else return some [Simple.pseudo name element argument (some complexes)]

end

def extendFuel : Nat := 64

/-- Add the selector of a style rule: its number in the store and its selector extended by the
extensions so far. -/
def ExtensionStore.addSelector (sel : SelectorList) : Extend (Nat × SelectorList) := do
  if !listIsInvisible sel then
    modify fun s => { s with originals := sel.foldl (fun acc c =>
      if containsSame acc c then acc else acc ++ [c]) s.originals }
  let exts := (← get).extensions
  let extended ← if exts.isEmpty then pure sel
    else do pure ((← extendList extendFuel sel exts).getD sel)
  let store ← get
  let id := store.rules.size
  let entry : RuleSelector := { selector := extended, simples := listRegistered extended }
  set { store with rules := store.rules.push entry }
  return (id, extended)

def extendRules (ids : List Nat) (exts : ExtensionMap) : Extend Unit := do
  for id in ids do
    match (← get).rules[id]? with
    | none => pure ()
    | some rule =>
      match ← extendList extendFuel rule.selector exts with
      | none => pure ()
      | some sel =>
        let update := fun (r : RuleSelector) =>
          { r with selector := sel, simples := r.simples ++ listRegistered sel }
        modify fun s => { s with rules := s.rules.modify id update }

/-- Extend the selectors of existing extensions by new extensions: the extensions this adds
that extend targets of the new ones. The extensions it makes are indexed by the simple selectors
of their extenders and handed on to extend the rules already there, but they are not recorded
under their targets, so a rule added later is extended by them only through the extensions
they came from. -/
def extendExtensions (existing : List Extension) (exts : ExtensionMap) : Extend ExtensionMap := do
  let mut additional : ExtensionMap := []
  for ext in existing do
    match ← extendComplex extendFuel ext.extender exts with
    | none => pure ()
    | some selectors =>
      let mut sources := (lookupSimple (← get).extensions ext.target).getD []
      for complex in selectors do
        let withExtender := { ext with extender := complex }
        match sources.find? (·.1.same complex) with
        | some (_, existingExt) =>
          let merged := existingExt.merge withExtender
          sources := setSource sources complex merged
        | none =>
          sources := setSource sources complex withExtender
          modify fun s => { s with
            byExtender := complex.simples.foldl (fun acc simple =>
              updateSimple acc simple [] (· ++ [withExtender])) s.byExtender }
          if (lookupSimple exts ext.target).isSome then
            additional := updateSimple additional ext.target [] (fun srcs =>
              setSource srcs complex withExtender)
  return additional

/-- Add an extension: the selector of the rule extending, the simple selector extended, whether
it is optional, and where it was written. -/
def ExtensionStore.addExtension (extender : SelectorList) (target : Simple) (optional : Bool)
    (span : Span) : Extend Unit := do
  let store ← get
  let ruleIds := (List.range store.rules.size).filter fun i =>
    match store.rules[i]? with
    | some r => r.simples.contains target
    | none => false
  let existing := lookupSimple store.byExtender target
  let mut newExts : Option (List (Complex × Extension)) := none
  for complex in extender do
    let ext : Extension := { extender := complex, target, optional, span }
    let sources := (lookupSimple (← get).extensions target).getD []
    match sources.find? (·.1.same complex) with
    | some (_, existingExt) =>
      let merged := existingExt.merge ext
      let update := fun (srcs : List (Complex × Extension)) => setSource srcs complex merged
      modify fun s => { s with extensions := updateSimple s.extensions target [] update }
    | none =>
      modify fun s => { s with
        extensions := updateSimple s.extensions target [] (fun srcs => setSource srcs complex ext),
        byExtender := complex.simples.foldl (fun acc simple =>
          updateSimple acc simple [] (· ++ [ext])) s.byExtender,
        sourceSpecificity := complex.simples.foldl (fun acc simple =>
          if (lookupSimple acc simple).isSome then acc
          else acc ++ [(simple, complex.maxSpecificity)]) s.sourceSpecificity }
      if !ruleIds.isEmpty || existing.isSome then
        newExts := some (newExts.getD [] ++ [(complex, ext)])
  match newExts with
  | none => pure ()
  | some fresh =>
    let mut byTarget : ExtensionMap := [(target, fresh)]
    match existing with
    | some exts =>
      let additional ← extendExtensions exts byTarget
      for (t, srcs) in additional do
        byTarget := updateSimple byTarget t [] (fun old =>
          srcs.foldl (fun acc (c, e) => setSource acc c e) old)
    | none => pure ()
    if !ruleIds.isEmpty then extendRules ruleIds byTarget

/-- A selector extended as `selector-extend` and `selector-replace` do: every target, a compound
selector, extended by the extender selectors, one target after another. -/
def extendSelector (selector extender targets : SelectorList) (mode : ExtendMode) :
    Except String SelectorList :=
  targets.foldlM (fun sel complex =>
    match complex.components with
    | [.compound parts] =>
      let exts : ExtensionMap := parts.map fun simple => (simple, extender.map fun c =>
        (c, { extender := c, target := simple, optional := false, span := ⟨0, 0⟩ }))
      let store : ExtensionStore := { mode, originals := if listIsInvisible sel then [] else sel }
      match (extendList extendFuel sel exts).run store with
      | .ok (some extended, _) => .ok extended
      | .ok (none, _) => .ok sel
      | .error e => .error e.message
    | _ => .error ("Can't extend complex selector " ++ complex.text ++ ".")) selector

/-- The selectors matching what a selector of each of two lists matches, or none when there are
none. -/
def unifyLists (list1 list2 : SelectorList) : Option SelectorList :=
  let contents := list1.flatMap fun c1 => list2.flatMap fun c2 =>
    match unifyComplex (weaveFuel [c1.components, c2.components]) [c1.components, c2.components] with
    | some cs => cs.map fun c => Complex.mk c false
    | none => []
  if contents.isEmpty then none else some contents

end CssBundle.Sass
