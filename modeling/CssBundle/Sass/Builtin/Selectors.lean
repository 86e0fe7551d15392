import CssBundle.Sass.Builtin.Args
import CssBundle.Sass.Selector
import CssBundle.Sass.Extend

/-!
# Selector functions

A selector passed to a function is a string, a space-separated list of strings (one complex
selector), or a comma-separated list of those. A selector answered is a comma-separated list of
complex selectors, each a space-separated list of the texts of its compound selectors and
combinators.
-/

namespace CssBundle.Sass

def SelectorList.toValue (sel : SelectorList) : Value :=
  .list (sel.map fun c => .list (c.components.map fun comp => .string comp.text false) .space false)
    .comma false

def selectorText? : Value → Option String
  | .string s _ => some s
  | .list items sep _ =>
    if items.isEmpty then none
    else match sep with
      | .comma =>
        let parts := items.map fun item => match item with
          | .string s _ => some s
          | .list inner .space _ =>
            let ws := inner.map fun w => match w with
              | .string s _ => some s
              | _ => none
            if ws.all Option.isSome && !ws.isEmpty then some (" ".intercalate (ws.filterMap id))
            else none
          | _ => none
        if parts.all Option.isSome then some (", ".intercalate (parts.filterMap id)) else none
      | .slash => none
      | _ =>
        let ws := items.map fun w => match w with
          | .string s _ => some s
          | _ => none
        if ws.all Option.isSome then some (" ".intercalate (ws.filterMap id)) else none
  | _ => none

/-- The fault of a call whose selector text `text` has the fault `f`: its characters become
bytes of the text. -/
def SelectorFault.inText (f : SelectorFault) (text : String) : CallFault :=
  let bytes (n : Nat) : Nat := (String.ofList (text.toList.take n)).utf8ByteSize
  { message := f.message, place := f.place.map fun (a, b) => ((bytes a, bytes b), text.utf8ByteSize) }

def selectorArg (name : String) (v : Value) (allowParent : Bool) :
    Except CallFault SelectorList :=
  match selectorText? v with
  | none =>
    throw { message := "$" ++ name ++ ": " ++ v.inspect ++
      " is not a valid selector: it must be a string,\n a list of strings, or a list of lists " ++
      "of strings." }
  | some text => (parseSelector text allowParent true).mapError (·.inText text)

/-- `selector-nest($selectors...)`: every selector is read first, then each is resolved against
the result of the ones before it; the first may not hold `&`. -/
def fnSelectorNest (a : ArgValues) : Except CallFault Value := do
  let vs ← a.variadic
  if vs.isEmpty then throw { message := "$selectors: At least one selector must be passed." }
  let sels ← vs.mapM (selectorArg "selectors" · true)
  match sels with
  | [] => throw { message := "$selectors: At least one selector must be passed." }
  | first :: rest =>
    let start ← first.resolve none
    let result ← rest.foldlM (fun parent child => child.resolve (some parent)) start
    return result.toValue

/-- A compound selector with `&` put before it, for appending: none when it starts with `*` or
a namespaced type. -/
def prependParent (parts : List Simple) : Option (List Simple) :=
  match parts with
  | .universal _ :: _ => none
  | .type q :: rest => if q.ns.isSome then none else some (.parent (some q.name) :: rest)
  | _ => some (.parent none :: parts)

/-- A selector appended to each complex selector of `parent`: `&` is put before each of its
complex selectors, which must start with a compound selector that allows it. -/
def appendOnto (parent child : SelectorList) : Except String SelectorList := do
  let prefixed : SelectorList ← child.mapM fun complex =>
    match complex.components with
    | .compound parts :: more =>
      match prependParent parts with
      | some p => .ok (Complex.mk (.compound p :: more) complex.lineBreak)
      | none => .error ("Can't append " ++ complex.text ++ " to " ++ listText parent ++ ".")
    | _ => .error ("Can't append " ++ complex.text ++ " to " ++ listText parent ++ ".")
  SelectorList.resolve prefixed (some parent)

/-- `selector-append($selectors...)`: every selector is read first, and none may hold `&`. -/
def fnSelectorAppend (a : ArgValues) : Except CallFault Value := do
  let vs ← a.variadic
  if vs.isEmpty then throw { message := "$selectors: At least one selector must be passed." }
  let sels ← vs.mapM fun v => do
    let sel ← selectorArg "selectors" v false
    if listHasParent sel then throw { message := "Parent selectors aren't allowed here." }
    return sel
  match sels with
  | [] => throw { message := "$selectors: At least one selector must be passed." }
  | first :: rest =>
    let result : Except String SelectorList := rest.foldlM appendOnto first
    return (← result).toValue

/-- `selector-parse($selector)`: every fault is reported as one of the argument. -/
def fnSelectorParse (a : ArgValues) : Except CallFault Value := do
  a.maxArgs 1
  let v ← a.need 0 "selector"
  match selectorArg "selector" v false with
  | .ok sel => return sel.toValue
  | .error _ => throw { message := "$selector: expected selector." }

/-- `simple-selectors($selector)`: the simple selectors of the first compound selector of a
selector list of one complex selector. -/
def fnSimpleSelectors (a : ArgValues) : Except CallFault Value := do
  a.maxArgs 1
  let sel ← selectorArg "selector" (← a.need 0 "selector") false
  match sel with
  | [.mk (.compound parts :: _) _] =>
    return .list (parts.map fun s => .string s.text false) .comma false
  | _ => throw { message := "$selector: expected selector." }

def fnIsSuperselector (a : ArgValues) : Except CallFault Value := do
  a.maxArgs 2
  let sup ← selectorArg "super" (← a.need 0 "super") false
  let sub ← selectorArg "sub" (← a.need 1 "sub") false
  let size := (sup ++ sub).foldl (fun n c => n + c.components.length) 0
  return .bool (listSuper (64 * size + 1024) sup sub)

/-- `selector-unify($selector1, $selector2)`: null when nothing matches both. Neither selector
may hold `&`. -/
def fnSelectorUnify (a : ArgValues) : Except CallFault Value := do
  a.maxArgs 2
  let sel1 ← selectorArg "selector1" (← a.need 0 "selector1") true
  if listHasParent sel1 then
    throw { message := "$selector1: Parent selectors aren't allowed here." }
  let sel2 ← selectorArg "selector2" (← a.need 1 "selector2") true
  if listHasParent sel2 then
    throw { message := "$selector2: Parent selectors aren't allowed here." }
  match unifyLists sel1 sel2 with
  | some sel => return sel.toValue
  | none => return .null

def fnSelectorExtend (a : ArgValues) : Except CallFault Value := do
  a.maxArgs 3
  let sel ← selectorArg "selector" (← a.need 0 "selector") false
  let targets ← selectorArg "extendee" (← a.need 1 "extendee") false
  let extender ← selectorArg "extender" (← a.need 2 "extender") false
  return (← extendSelector sel extender targets .allTargets).toValue

/-- `selector-replace($selector, $original, $replacement)`: the selectors may hold `&`. -/
def fnSelectorReplace (a : ArgValues) : Except CallFault Value := do
  a.maxArgs 3
  let sel ← selectorArg "selector" (← a.need 0 "selector") true
  let targets ← selectorArg "original" (← a.need 1 "original") true
  let replacement ← selectorArg "replacement" (← a.need 2 "replacement") true
  return (← extendSelector sel replacement targets .replace).toValue

def selectorFunction? (name : String) : Option (ArgValues → Except CallFault Value) :=
  match name with
  | "is-superselector" => some fnIsSuperselector
  | "simple-selectors" => some fnSimpleSelectors
  | "parse" => some fnSelectorParse
  | "nest" => some fnSelectorNest
  | "append" => some fnSelectorAppend
  | "extend" => some fnSelectorExtend
  | "replace" => some fnSelectorReplace
  | "unify" => some fnSelectorUnify
  | _ => none

end CssBundle.Sass
