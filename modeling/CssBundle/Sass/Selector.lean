import CssBundle.Sass.Reader.Plain
import CssBundle.Sass.Value.Text

/-!
# Selectors

A selector list is a list of complex selectors; a complex selector is a sequence of compound
selectors and combinators (`>`, `+`, `~`); a compound selector is a sequence of simple selectors:
`*`, a type, `.class`, `#id`, `%placeholder`, `[attribute]`, `:pseudo(...)` and `&`, the
selector of the enclosing rule, which may carry a suffix (`&-item`).

Nested style rules resolve their selectors against the enclosing rule's: a complex selector
without `&` is put after each complex selector of the parent; one with `&` has it replaced by
each of them. The results are interleaved, first results of every complex selector first.

A complex selector with a placeholder is invisible: it is left out of the output, and a rule
whose selectors are all invisible is not written.
-/

namespace CssBundle.Sass

/-- A combinator between compound selectors. -/
inductive Combinator where
  | child
  | nextSibling
  | followingSibling
  deriving Repr, BEq, Inhabited, DecidableEq

def Combinator.symbol : Combinator → String
  | .child => ">"
  | .nextSibling => "+"
  | .followingSibling => "~"

/-- A name with an optional namespace: `ns|name`, `*|name` or `|name`. -/
structure QualifiedName where
  name : String
  ns : Option String := none
  deriving Repr, BEq, Inhabited, DecidableEq

def QualifiedName.text (q : QualifiedName) : String :=
  match q.ns with
  | some n => n ++ "|" ++ q.name
  | none => q.name

mutual

/-- A simple selector. -/
inductive Simple where
  | universal (ns : Option String)
  | type (name : QualifiedName)
  | cls (name : String)
  | id (name : String)
  | placeholder (name : String)
  /-- `&`, with the suffix written right after it. -/
  | parent (suffix : Option String)
  /-- `[name]`, or `[name op value modifier]`. -/
  | attribute (name : QualifiedName) (op : Option String) (value : String)
      (modifier : Option Char)
  /-- `:name`, `::name` when `element`, with an argument and a selector argument. -/
  | pseudo (name : String) (element : Bool) (argument : Option String)
      (selector : Option (List Complex))

/-- A part of a complex selector. -/
inductive Component where
  | compound (parts : List Simple)
  | combinator (c : Combinator)

/-- A complex selector, with whether a line break stood before it in its list. -/
inductive Complex where
  | mk (components : List Component) (lineBreak : Bool)

end

instance : Inhabited Complex := ⟨.mk [] false⟩

abbrev SelectorList := List Complex

def Complex.components : Complex → List Component
  | .mk cs _ => cs

def Complex.lineBreak : Complex → Bool
  | .mk _ b => b

def selectorPseudoClasses : List String :=
  ["not", "is", "matches", "where", "current", "any", "has", "host", "host-context"]

mutual

def Simple.hasParent : Simple → Bool
  | .parent _ => true
  | .pseudo _ _ _ (some sel) => listHasParent sel
  | _ => false

def simplesHaveParent : List Simple → Bool
  | [] => false
  | s :: rest => s.hasParent || simplesHaveParent rest

def Component.hasParent : Component → Bool
  | .compound parts => simplesHaveParent parts
  | .combinator _ => false

def componentsHaveParent : List Component → Bool
  | [] => false
  | c :: rest => c.hasParent || componentsHaveParent rest

def Complex.hasParent : Complex → Bool
  | .mk cs _ => componentsHaveParent cs

def listHasParent : List Complex → Bool
  | [] => false
  | c :: rest => c.hasParent || listHasParent rest

end

mutual

/-- Whether a simple selector matches nothing in the output: a placeholder, or a pseudo-class
other than `:not` whose selector argument is invisible. -/
def Simple.isInvisible : Simple → Bool
  | .placeholder _ => true
  | .pseudo name _ _ (some sel) => name != "not" && listIsInvisible sel
  | _ => false

def simplesInvisible : List Simple → Bool
  | [] => false
  | s :: rest => s.isInvisible || simplesInvisible rest

def componentsInvisible : List Component → Bool
  | [] => false
  | .compound parts :: rest => simplesInvisible parts || componentsInvisible rest
  | .combinator _ :: rest => componentsInvisible rest

def Complex.isInvisible : Complex → Bool
  | .mk cs _ => componentsInvisible cs

def listIsInvisible : List Complex → Bool
  | [] => true
  | c :: rest => c.isInvisible && listIsInvisible rest

end

/-! ## Reading -/

def isIdentifierText (text : String) : Bool :=
  match readWhole text (do let _ ← identifier; isDone) with
  | .ok b => b
  | .error _ => false

def trimEndText (s : String) : String := String.ofList (s.toList.reverse.dropWhile isSpaceChar).reverse

def readNth : Reader String := do
  match ← peek with
  | some 'e' | some 'E' => expectIdentifier "even"; return "even"
  | some 'o' | some 'O' => expectIdentifier "odd"; return "odd"
  | _ => pure ()
  let mut acc := ""
  match ← peek with
  | some '+' => advance; acc := "+"
  | some '-' => advance; acc := "-"
  | _ => pure ()
  match ← peek with
  | some c =>
    if c.isDigit then
      acc := acc ++ (← digits)
      whitespace
      if !(← scanIdentChar 'n') then return acc
    else expectIdentChar 'n'
  | none => expectIdentChar 'n'
  acc := acc.push 'n'
  whitespace
  match ← peek with
  | some '+' | some '-' =>
    acc := acc.push ((← peek).getD '+')
    advance
    whitespace
    match ← peek with
    | some d => if !d.isDigit then failHere "Expected a number."
    | none => failHere "Expected a number."
    acc := acc ++ (← digits)
    return acc
  | _ => return acc
where
  scanIdentChar (c : Char) : Reader Bool := do
    match ← peek with
    | some d => if d.toLower == c then advance; return true else return false
    | none => return false
  expectIdentChar (c : Char) : Reader Unit := do
    if !(← scanIdentChar c) then failHere ("Expected \"" ++ String.singleton c ++ "\".")

def readAttributeName : Reader QualifiedName := do
  if ← scanChar '*' then
    expectChar '|'
    return { name := ← identifier, ns := some "*" }
  if ← scanChar '|' then
    return { name := ← identifier, ns := some "" }
  let first ← identifier
  if (← peek) != some '|' || (← peekAt 1) == some '=' then return { name := first }
  advance
  return { name := ← identifier, ns := some first }

def readAttributeOperator : Reader String := do
  match ← readChar with
  | some '=' => return "="
  | some '~' => expectChar '='; return "~="
  | some '|' => expectChar '='; return "|="
  | some '^' => expectChar '='; return "^="
  | some '$' => expectChar '='; return "$="
  | some '*' => expectChar '='; return "*="
  | _ =>
    Reader.seek ((← Reader.pos) - 1)
    failHere "Expected \"]\"."

def readAttribute : Reader Simple := do
  expectChar '['
  whitespace
  let name ← readAttributeName
  whitespace
  if ← scanChar ']' then return .attribute name none "" none
  let op ← readAttributeOperator
  whitespace
  let value ← match ← peek with
    | some '\'' | some '"' => plainString
    | none => failHere "expected more input."
    | _ => identifier
  whitespace
  let modifier ← match ← peek with
    | some c => if c.isAlpha then do advance; pure (some c) else pure none
    | none => pure none
  expectChar ']'
  return .attribute name (some op) value modifier

def readTypeOrUniversal : Reader Simple := do
  if ← scanChar '*' then
    if !(← scanChar '|') then return .universal none
    if ← scanChar '*' then return .universal (some "*")
    return .type { name := ← identifier, ns := some "*" }
  if ← scanChar '|' then
    if ← scanChar '*' then return .universal (some "")
    return .type { name := ← identifier, ns := some "" }
  let first ← identifier
  if !(← scanChar '|') then return .type { name := first }
  if ← scanChar '*' then return .universal (some first)
  return .type { name := ← identifier, ns := some first }

def isSimpleSelectorStart (c : Char) : Bool :=
  c == '*' || c == '[' || c == '.' || c == '#' || c == '%' || c == ':'

/-- The blanks right after a comma of a selector list: whether they held a line break. -/
def readListBlanks : Reader Bool := do
  let text ← scanWhile (fun c => c == ' ' || c == '\t' || c == '\n')
  return text.toList.contains '\n'

/-- Fail with a message about the selector as a whole rather than one place in it, marked by a
stretch past the end of the text. -/
def failWhole {α : Type} (message : String) : Reader α := do
  let size := (← read).size
  failSpan message (size + 1) (size + 1)

mutual

def readSelectorList : Nat → Bool → Bool → Reader SelectorList
  | 0, _, _ => failHere "Nesting is too deep."
  | fuel + 1, allowParent, allowPlaceholder => do
    let first ← readComplex fuel allowParent allowPlaceholder false
    whitespace
    readListRest fuel allowParent allowPlaceholder [first]

def readListRest : Nat → Bool → Bool → List Complex → Reader SelectorList
  | 0, _, _, _ => failHere "Nesting is too deep."
  | fuel + 1, allowParent, allowPlaceholder, acc => do
    if !(← scanChar ',') then return acc
    let lineBreak ← readListBlanks
    readCommas fuel allowParent allowPlaceholder acc lineBreak

/-- After a comma: skip further commas, then read a complex selector unless the text ends. -/
def readCommas : Nat → Bool → Bool → List Complex → Bool → Reader SelectorList
  | 0, _, _, _, _ => failHere "Nesting is too deep."
  | fuel + 1, allowParent, allowPlaceholder, acc, lineBreak => do
    match ← peek with
    | some ',' =>
      advance
      let more ← readListBlanks
      readCommas fuel allowParent allowPlaceholder acc (lineBreak || more)
    | none => return acc
    | _ =>
      let next ← readComplex fuel allowParent allowPlaceholder lineBreak
      readListRest fuel allowParent allowPlaceholder (acc ++ [next])

def readComplex : Nat → Bool → Bool → Bool → Reader Complex
  | 0, _, _, _ => failHere "Nesting is too deep."
  | fuel + 1, allowParent, allowPlaceholder, lineBreak => do
    let components ← readComponents fuel allowParent allowPlaceholder []
    if components.isEmpty then failWhole "expected selector."
    return .mk components lineBreak

def readComponents : Nat → Bool → Bool → List Component → Reader (List Component)
  | 0, _, _, _ => failHere "Nesting is too deep."
  | fuel + 1, allowParent, allowPlaceholder, acc => do
    whitespace
    match ← peek with
    | some '+' =>
      advance
      readComponents fuel allowParent allowPlaceholder (acc ++ [.combinator .nextSibling])
    | some '>' =>
      advance
      readComponents fuel allowParent allowPlaceholder (acc ++ [.combinator .child])
    | some '~' =>
      advance
      readComponents fuel allowParent allowPlaceholder (acc ++ [.combinator .followingSibling])
    | none => return acc
    | some c =>
      let starts := c == '[' || c == '.' || c == '#' || c == '%' || c == ':' || c == '&' ||
        c == '*' || c == '|'
      if !starts && !(← lookingAtIdentifier) then return acc
      let compound ← readCompound fuel allowParent allowPlaceholder
      if (← peek) == some '&' then
        failWhole "\"&\" may only used at the beginning of a compound selector."
      readComponents fuel allowParent allowPlaceholder (acc ++ [.compound compound])

def readCompound : Nat → Bool → Bool → Reader (List Simple)
  | 0, _, _ => failHere "Nesting is too deep."
  | fuel + 1, allowParent, allowPlaceholder => do
    let first ← readSimple fuel allowParent allowPlaceholder
    readCompoundRest fuel allowPlaceholder [first]

def readCompoundRest : Nat → Bool → List Simple → Reader (List Simple)
  | 0, _, _ => failHere "Nesting is too deep."
  | fuel + 1, allowPlaceholder, acc => do
    match ← peek with
    | some c =>
      if !isSimpleSelectorStart c then return acc
      let s ← readSimple fuel false allowPlaceholder
      readCompoundRest fuel allowPlaceholder (acc ++ [s])
    | none => return acc

def readSimple : Nat → Bool → Bool → Reader Simple
  | 0, _, _ => failHere "Nesting is too deep."
  | fuel + 1, allowParent, allowPlaceholder => do
    match ← peek with
    | some '[' => readAttribute
    | some '.' => advance; return .cls (← identifier)
    | some '#' => advance; return .id (← identifier)
    | some '%' =>
      if !allowPlaceholder then failWhole "Placeholder selectors aren't allowed here."
      advance
      return .placeholder (← identifier)
    | some ':' => readPseudo fuel allowPlaceholder
    | some '&' =>
      if !allowParent then failWhole "Parent selectors aren't allowed here."
      advance
      if ← lookingAtIdentifierBody then
        return .parent (some (← identifierBody false false ""))
      return .parent none
    | _ => readTypeOrUniversal

def readPseudo : Nat → Bool → Reader Simple
  | 0, _ => failHere "Nesting is too deep."
  | fuel + 1, allowPlaceholder => do
    expectChar ':'
    let element ← scanChar ':'
    let name ← identifier
    if !(← scanChar '(') then return .pseudo name element none none
    whitespace
    let bare := (unvendor name).toLower
    if element then
      if bare == "slotted" then
        let sel ← readSelectorList fuel true allowPlaceholder
        expectChar ')'
        return .pseudo name element none (some sel)
      let arg ← plainValue true
      expectChar ')'
      return .pseudo name element (some arg) none
    if selectorPseudoClasses.contains bare then
      let sel ← readSelectorList fuel true allowPlaceholder
      expectChar ')'
      return .pseudo name element none (some sel)
    if bare == "nth-child" || bare == "nth-last-child" then
      let mut arg ← readNth
      whitespace
      let back ← peekBack
      if (back.map isSpaceChar).getD false then
        if (← peek) != some ')' then
          expectIdentifier "of"
          arg := arg ++ " of"
          whitespace
          let sel ← readSelectorList fuel true allowPlaceholder
          expectChar ')'
          return .pseudo name element (some arg) (some sel)
      expectChar ')'
      return .pseudo name element (some arg) none
    let arg ← plainValue true
    expectChar ')'
    return .pseudo name element (some (trimEndText arg)) none

end

/-- A fault of a selector's text: its message, and the characters it concerns as positions in
the text, or none when it concerns the selector as a whole. -/
structure SelectorFault where
  message : String
  place : Option (Nat × Nat)

/-- Read a whole selector list from text. A fault at the end of the text concerns its last
character. -/
def parseSelector (text : String) (allowParent allowPlaceholder : Bool := true) :
    Except SelectorFault SelectorList :=
  let size := text.length
  let read := readWholePlaced text do
    let sel ← readSelectorList (size + 8) allowParent allowPlaceholder
    if !(← isDone) then failHere "expected selector."
    return sel
  read.mapError fun e =>
    let place :=
      if e.span.start > size then none
      else if e.span.start == size && e.span.stop == size && size > 0 then some (size - 1, size)
      else some (e.span.start, e.span.stop)
    { message := e.message, place }

/-! ## Writing -/

mutual

def Simple.text : Simple → String
  | .universal none => "*"
  | .universal (some ns) => ns ++ "|*"
  | .type q => q.text
  | .cls n => "." ++ n
  | .id n => "#" ++ n
  | .placeholder n => "%" ++ n
  | .parent s => "&" ++ s.getD ""
  | .attribute name none _ _ => "[" ++ name.text ++ "]"
  | .attribute name (some op) value modifier =>
    let valueText :=
      if isIdentifierText value && !value.startsWith "--" then
        value ++ (if modifier.isSome then " " else "")
      else quoteString value ++ (if modifier.isSome then " " else "")
    "[" ++ name.text ++ op ++ valueText ++ (modifier.map String.singleton).getD "" ++ "]"
  | .pseudo name element argument selector =>
    let head := (if element then "::" else ":") ++ name
    match argument, selector with
    | none, none => head
    | arg, sel =>
      let argText := arg.getD ""
      let selText := match sel with
        | some s => (if arg.isSome then " " else "") ++ listText s
        | none => ""
      head ++ "(" ++ argText ++ selText ++ ")"

def simplesText : List Simple → String
  | [] => ""
  | s :: rest => s.text ++ simplesText rest

def Component.text : Component → String
  | .compound parts => simplesText parts
  | .combinator c => c.symbol

def componentsText : List Component → String
  | [] => ""
  | [c] => c.text
  | c :: rest => c.text ++ " " ++ componentsText rest

def Complex.text : Complex → String
  | .mk cs _ => componentsText cs

/-- The text of a selector list, complex selectors joined by a comma and a space. -/
def listText : List Complex → String
  | [] => ""
  | [c] => c.text
  | c :: rest => c.text ++ ", " ++ listText rest

end

mutual

/-- The output text of a simple selector: a `:not` of invisible selectors is left out. -/
def Simple.outputText : Simple → String
  | .pseudo name element argument selector =>
    match argument, selector with
    | none, none => (if element then "::" else ":") ++ name
    | arg, sel =>
      match sel with
      | some s =>
        if name == "not" && listIsInvisible s then ""
        else
          (if element then "::" else ":") ++ name ++ "(" ++ arg.getD "" ++
            (if arg.isSome then " " else "") ++ joinComplexes true s ++ ")"
      | none => (if element then "::" else ":") ++ name ++ "(" ++ arg.getD "" ++ ")"
  | s => s.text

/-- The output texts of simple selectors, joined; `*` when they all leave nothing. -/
def simplesOutput : List Simple → String
  | [] => ""
  | s :: rest => s.outputText ++ simplesOutput rest

def componentsOutput : List Component → String
  | [] => ""
  | [c] => componentOutput c
  | c :: rest => componentOutput c ++ " " ++ componentsOutput rest

def componentOutput : Component → String
  | .compound parts =>
    let t := simplesOutput parts
    if t.isEmpty then "*" else t
  | .combinator c => c.symbol

/-- The output text of the visible complex selectors of a list: after a comma a line break
where the list had one, else a space. `first` tells that none has been written yet. -/
def joinComplexes : Bool → List Complex → String
  | _, [] => ""
  | first, .mk cs lineBreak :: rest =>
    if componentsInvisible cs then joinComplexes first rest
    else
      (if first then "" else "," ++ (if lineBreak then "\n" else " ")) ++
        componentsOutput cs ++ joinComplexes false rest

end

def outputListText (cs : List Complex) : String := joinComplexes true cs

/-! ## Resolving `&` -/

/-- Interleave lists: the first items of each, then the second items, and so on. -/
def interleave {α : Type} (lists : List (List α)) : List α :=
  match lists with
  | [single] => single
  | _ => go (lists.foldl (fun n l => n + l.length) 0 + 1) lists
where
  go : Nat → List (List α) → List α
    | 0, _ => []
    | fuel + 1, ls =>
      let ls := ls.filter (!·.isEmpty)
      if ls.isEmpty then []
      else ls.filterMap List.head? ++ go fuel (ls.map List.tail)

def Simple.addSuffix (s : Simple) (suffix : String) : Except String Simple :=
  match s with
  | .type q => .ok (.type { q with name := q.name ++ suffix })
  | .cls n => .ok (.cls (n ++ suffix))
  | .id n => .ok (.id (n ++ suffix))
  | .placeholder n => .ok (.placeholder (n ++ suffix))
  | .pseudo n e none none => .ok (.pseudo (n ++ suffix) e none none)
  | other => .error ("Invalid parent selector \"" ++ other.text ++ "\"")

/-- The parent's complex selectors with a compound selector that starts with `&` put in place
of it: the `&` (with its suffix) joins the parent's last compound selector. -/
def resolveCompoundParent (parent : SelectorList) (suffix : Option String)
    (rest : List Simple) : Except String (List Complex) :=
  parent.mapM fun complex => do
    match complex.components.getLast? with
    | some (.compound lastParts) =>
      let last ← match suffix with
        | none => pure lastParts
        | some sfx =>
          match lastParts.getLast? with
          | some simple => do
            let s ← simple.addSuffix sfx
            pure (lastParts.dropLast ++ [s])
          | none => pure lastParts
      pure (.mk (complex.components.dropLast ++ [.compound (last ++ rest)]) complex.lineBreak)
    | _ => .error ("Parent \"" ++ complex.text ++ "\" is incompatible with this selector.")

mutual

/-- Resolve `&` in a selector list against the parent's; with `implicitParent`, a complex
selector without `&` is put after the parent's. -/
def resolveParents : Nat → SelectorList → Option SelectorList → Bool → Except String SelectorList
  | 0, _, _, _ => .error "Nesting is too deep."
  | _ + 1, sel, none, _ =>
    if listHasParent sel then
      .error "Top-level selectors may not contain the parent selector \"&\"."
    else .ok sel
  | fuel + 1, sel, some parent, implicitParent => do
    let each ← sel.mapM fun complex => do
      if !complex.hasParent then
        if !implicitParent then return [complex]
        return parent.map fun pc =>
          Complex.mk (pc.components ++ complex.components) (complex.lineBreak || pc.lineBreak)
      let (results, breaks) ← resolveComponents fuel parent complex.components [[]] [false]
      return (results.zip breaks).map fun (cs, b) => Complex.mk cs b
    return interleave each

/-- Resolve the components of a complex selector, keeping the partial results and their line
breaks. -/
def resolveComponents : Nat → SelectorList → List Component → List (List Component) →
    List Bool → Except String (List (List Component) × List Bool)
  | 0, _, _, _, _ => .error "Nesting is too deep."
  | _ + 1, _, [], acc, breaks => .ok (acc, breaks)
  | fuel + 1, parent, c :: rest, acc, breaks => do
    match c with
    | .combinator _ => resolveComponents fuel parent rest (acc.map (· ++ [c])) breaks
    | .compound parts =>
      match ← resolveCompound fuel parent parts with
      | none => resolveComponents fuel parent rest (acc.map (· ++ [c])) breaks
      | some resolved =>
        let pairs := (acc.zip breaks).flatMap fun (prev, b) =>
          resolved.map fun r => (prev ++ r.components, b || r.lineBreak)
        resolveComponents fuel parent rest (pairs.map (·.1)) (pairs.map (·.2))

/-- Resolve `&` in a compound selector: none when it has none. -/
def resolveCompound : Nat → SelectorList → List Simple → Except String (Option (List Complex))
  | 0, _, _ => .error "Nesting is too deep."
  | fuel + 1, parent, parts => do
    let inPseudo := parts.any fun s => match s with
      | .pseudo _ _ _ (some sel) => listHasParent sel
      | _ => false
    let startsWithParent := match parts.head? with
      | some (.parent _) => true
      | _ => false
    if !inPseudo && !startsWithParent then return none
    let resolvedParts ← if inPseudo then resolveSimples fuel parent parts else pure parts
    match parts.head? with
    | some (.parent suffix) =>
      if parts.length == 1 && suffix.isNone then return some parent
      some <$> resolveCompoundParent parent suffix (resolvedParts.drop 1)
    | _ => return some [Complex.mk [.compound resolvedParts] false]

def resolveSimples : Nat → SelectorList → List Simple → Except String (List Simple)
  | 0, _, _ => .error "Nesting is too deep."
  | _ + 1, _, [] => .ok []
  | fuel + 1, parent, s :: rest => do
    let s' ← match s with
      | .pseudo n e a (some sel) =>
        if listHasParent sel then do
          let r ← resolveParents fuel sel (some parent) false
          pure (Simple.pseudo n e a (some r))
        else pure s
      | _ => pure s
    return s' :: (← resolveSimples fuel parent rest)

end

def SelectorList.resolve (sel : SelectorList) (parent : Option SelectorList)
    (implicitParent : Bool := true) : Except String SelectorList :=
  resolveParents (listDepth sel + 4) sel parent implicitParent
where
  listDepth (s : SelectorList) : Nat := (listText s).length + 1

end CssBundle.Sass
