import CssBundle.Sass.Builtin.Args

/-!
# List functions

Every value is a list (see `Value.asList`). Positions count from 1, negative ones from the end.
A separator argument is `space`, `comma`, `slash` or `auto`. `join` and `append` see a map or
an argument list as one item, and `auto` keeps the separator of the first list unless that list
cannot tell (it is empty, or one item separated by spaces).
-/

namespace CssBundle.Sass

def checkIndex (name : String) (n : Number) (length : Nat) : Except String Nat := do
  if n.value.isNaN then .error ("$" ++ name ++ ": NaN is not an int.")
  if fuzzyEquals n.value 0 then .error ("$" ++ name ++ ": List index may not be 0.")
  if n.value.abs > length.toFloat then
    .error ("$" ++ name ++ ": Invalid index " ++ n.inspect ++ " for a list with " ++
      toString length ++ " elements.")
  match fuzzyAsInt n.value with
  | none => .error ("$" ++ name ++ ": " ++ n.inspect ++ " is not an int.")
  | some i => .ok (if i > 0 then (i - 1).toNat else (length + i).toNat)

def fnLength (a : ArgValues) : Except String Value := do
  a.maxArgs 1
  let l ← a.need 0 "list"
  return .ofFloat l.asList.length.toFloat

def fnNth (a : ArgValues) : Except String Value := do
  a.maxArgs 2
  let items := (← a.need 0 "list").asList
  let n ← expectNumber "n" (← a.need 1 "n")
  let i ← checkIndex "n" n items.length
  return items[i]?.getD .null

/-- A value seen as a list: its items, separator and brackets. -/
def listParts : Value → List Value × ListSep × Bool
  | .list items sep b => (items, sep, b)
  | .args items _ _ _ => (items, .comma, false)
  | .map entries => ((Value.map entries).asList, .comma, false)
  | v => ([v], .space, false)

def fnSetNth (a : ArgValues) : Except String Value := do
  a.maxArgs 3
  let (items, sep, b) := listParts (← a.need 0 "list")
  let n ← expectNumber "n" (← a.need 1 "n")
  let value ← a.need 2 "value"
  let i ← checkIndex "n" n items.length
  return .list (items.set i value) sep b

def separatorArg (v : Value) : Except String (Option ListSep) := do
  let (s, _) ← expectString "separator" v
  match s with
  | "auto" => return none
  | "space" => return some .space
  | "comma" => return some .comma
  | "slash" => return some .slash
  | _ => .error "$separator: Must be \"space\", \"comma\", \"slash\", or \"auto\"."

/-- A value as `join` sees it: a list or a map gives its items, anything else (an argument list
too) is the one item of a space-separated list. -/
def joinParts : Value → List Value × ListSep × Bool
  | .list items sep b => (items, sep, b)
  | .map entries => ((Value.map entries).asList, .comma, false)
  | v => ([v], .space, false)

/-- `join($list1, $list2, $separator: auto, $bracketed: auto)`: with `auto`, the separator of the
first list, unless it is empty or one item separated by spaces, when the second list's is taken. -/
def fnJoin (a : ArgValues) : Except String Value := do
  a.maxArgs 4
  let (items1, sep1, b1) := joinParts (← a.need 0 "list1")
  let (items2, sep2, _) := joinParts (← a.need 1 "list2")
  let sep ← separatorArg (a.getD 2 "separator" (.string "auto" false))
  let sep := sep.getD
    (if items1.isEmpty || (items1.length == 1 && sep1 == .space) then sep2 else sep1)
  let bracketed := match a.getD 3 "bracketed" (.string "auto" false) with
    | .string "auto" _ => b1
    | v => v.isTruthy
  return .list (items1 ++ items2) sep bracketed

/-- `append($list, $val, $separator: auto)`: only a list gives its items; a map or an argument
list is the one item of a space-separated list. -/
def fnAppend (a : ArgValues) : Except String Value := do
  a.maxArgs 3
  let (items, sep, b) := match ← a.need 0 "list" with
    | .list items sep b => (items, sep, b)
    | v => ([v], .space, false)
  let v ← a.need 1 "val"
  let sep' ← separatorArg (a.getD 2 "separator" (.string "auto" false))
  return .list (items ++ [v]) (sep'.getD sep) b

def zipLists (lists : List (List Value)) : List Value :=
  go (lists.foldl (fun n l => n + l.length) 0 + 1) lists
where
  go : Nat → List (List Value) → List Value
    | 0, _ => []
    | fuel + 1, ls =>
      if ls.any List.isEmpty then []
      else .list (ls.filterMap List.head?) .space false :: go fuel (ls.map List.tail)

def fnZip (a : ArgValues) : Except String Value := do
  let lists ← a.variadic
  if lists.isEmpty then return .list [] .comma false
  return .list (zipLists (lists.map Value.asList)) .comma false

def fnIndex (a : ArgValues) : Except String Value := do
  a.maxArgs 2
  let items := (← a.need 0 "list").asList
  let v ← a.need 1 "value"
  match items.findIdx? (·.equals v) with
  | some i => return .ofFloat (i + 1).toFloat
  | none => return .null

def fnListSeparator (a : ArgValues) : Except String Value := do
  a.maxArgs 1
  let name := match ← a.need 0 "list" with
    | .list _ sep _ => match sep with
      | .comma => "comma"
      | .slash => "slash"
      | _ => "space"
    | .map _ | .args .. => "comma"
    | _ => "space"
  return .string name false

def fnIsBracketed (a : ArgValues) : Except String Value := do
  a.maxArgs 1
  return .bool (← a.need 0 "list").hasBrackets

def fnSlash (a : ArgValues) : Except String Value := do
  let items ← a.variadic
  if items.length < 2 then .error "At least two elements are required."
  return .list items .slash false

end CssBundle.Sass
