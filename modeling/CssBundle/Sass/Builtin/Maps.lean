import CssBundle.Sass.Builtin.Args

/-!
# Map functions

Maps keep their keys in the order they were first set; setting a key that is there keeps its
place. An empty list counts as the empty map.
-/

namespace CssBundle.Sass

def mapMerge (m1 m2 : List (Value × Value)) : List (Value × Value) :=
  m2.foldl (fun acc (k, v) => mapSet acc k v) m1

def fnMapGet (a : ArgValues) : Except String Value := do
  a.maxArgs 2
  let key ← a.need 1 "key"
  let m ← expectMap "map" (← a.need 0 "map")
  return (mapGet? m key).getD .null

def fnMapHasKey (a : ArgValues) : Except String Value := do
  a.maxArgs 2
  let key ← a.need 1 "key"
  let m ← expectMap "map" (← a.need 0 "map")
  return .bool (mapGet? m key).isSome

def fnMapKeys (a : ArgValues) : Except String Value := do
  a.maxArgs 1
  let m ← expectMap "map" (← a.need 0 "map")
  return .list (m.map (·.1)) .comma false

def fnMapValues (a : ArgValues) : Except String Value := do
  a.maxArgs 1
  let m ← expectMap "map" (← a.need 0 "map")
  return .list (m.map (·.2)) .comma false

/-- Change the value found by following keys into nested maps. `f` gives the new value at the
last key from the value there, null when the key is missing; with no keys it changes the map
itself. A key on the way whose value is not a map gets a new empty map when `nest` holds, and
otherwise leaves the map as it is. -/
def modifyPath (nest : Bool) (f : Value → Except String Value) :
    List (Value × Value) → List Value → Except String Value
  | m, [] => f (.map m)
  | m, [k] => do return .map (mapSet m k (← f ((mapGet? m k).getD .null)))
  | m, k :: rest@(_ :: _) =>
    match (mapGet? m k).bind Value.asMap? with
    | some inner => do return .map (mapSet m k (← modifyPath nest f inner rest))
    | none =>
      if nest then do return .map (mapSet m k (← modifyPath nest f [] rest))
      else return .map m

/-- `map-merge($map1, $map2)`, and `map.merge($map1, $keys..., $map2)` merging into a nested
map. -/
def fnMapMerge (a : ArgValues) : Except String Value := do
  if a.count == 1 then .error "Expected $args to contain a key."
  let m1 ← expectMap "map1" (← a.need 0 "map1")
  match a.positional with
  | _ :: middle@(_ :: _ :: _) =>
    let keys := middle.dropLast
    let m2 ← expectMap "map2" (middle.getLast?.getD .null)
    modifyPath true (fun old => pure (.map (match old.asMap? with
      | some inner => mapMerge inner m2
      | none => m2))) m1 keys
  | _ =>
    a.maxArgs 2
    let m2 ← expectMap "map2" (← a.need 1 "map2")
    return .map (mapMerge m1 m2)

def fnMapRemove (a : ArgValues) : Except String Value := do
  let m ← expectMap "map" (← a.need 0 "map")
  let keys ← ({ a with positional := a.positional.drop 1, named := a.named.filter (·.1 != "map") }
    : ArgValues).variadic
  return .map (keys.foldl mapRemove m)

def fnMapSet (a : ArgValues) : Except String Value := do
  let m ← expectMap "map" (← a.need 0 "map")
  match a.positional.drop 1 with
  | [] => .error "Expected $args to contain a key."
  | [_] => .error "Expected $args to contain a value."
  | rest =>
    let value := rest.getLast?.getD .null
    modifyPath true (fun _ => pure value) m rest.dropLast

def deepMerge : Nat → List (Value × Value) → List (Value × Value) → List (Value × Value)
  | 0, m1, m2 => mapMerge m1 m2
  | fuel + 1, m1, m2 =>
    m2.foldl (fun acc (k, v) =>
      match mapGet? acc k, v.asMap? with
      | some old, some vm =>
        match old.asMap? with
        | some om => mapSet acc k (.map (deepMerge fuel om vm))
        | none => mapSet acc k v
      | _, _ => mapSet acc k v) m1

def fnMapDeepMerge (a : ArgValues) : Except String Value := do
  a.maxArgs 2
  let m1 ← expectMap "map1" (← a.need 0 "map1")
  let m2 ← expectMap "map2" (← a.need 1 "map2")
  return .map (deepMerge (m1.length + m2.length + 64) m1 m2)

def fnMapDeepRemove (a : ArgValues) : Except String Value := do
  let m ← expectMap "map" (← a.need 0 "map")
  match a.positional.drop 1 with
  | [] => .error "Missing argument $key."
  | path =>
    let key := path.getLast?.getD .null
    modifyPath false (fun v => pure (match v.asMap? with
      | some inner => if (mapGet? inner key).isSome then .map (mapRemove inner key) else v
      | none => v)) m path.dropLast

/-- `map.get($map, $key, $keys...)`: follows keys into nested maps. -/
def fnMapGetNested (a : ArgValues) : Except String Value := do
  let m ← expectMap "map" (← a.need 0 "map")
  let keys := a.positional.drop 1 ++ (match a.named.lookup "key" with
    | some k => [k]
    | none => [])
  match keys with
  | [] => .error "Missing argument $key."
  | _ =>
    let result := keys.foldl (fun acc k => acc.bind fun v => v.asMap?.bind (mapGet? · k))
      (some (Value.map m))
    return result.getD .null

def fnMapHasKeyNested (a : ArgValues) : Except String Value := do
  let m ← expectMap "map" (← a.need 0 "map")
  let keys := a.positional.drop 1 ++ (match a.named.lookup "key" with
    | some k => [k]
    | none => [])
  match keys with
  | [] => .error "Missing argument $key."
  | _ =>
    let result := keys.foldl (fun acc k => acc.bind fun v => v.asMap?.bind (mapGet? · k))
      (some (Value.map m))
    return .bool result.isSome

end CssBundle.Sass
