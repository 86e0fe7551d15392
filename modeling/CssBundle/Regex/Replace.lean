import CssBundle.Regex.Program

/-!
# Replacing matches

`Program.replaceAll` replaces every match of a program in a text, left to right. Matches do not
overlap: the next search starts where the last match ended, and an empty match right at the end
of the last match is skipped by searching again one character later.

The replacement text may name capture groups. `$$` stands for one `$`; `$name` takes the longest
run of ASCII letters, digits and underscores after the `$`, and `${name}` anything up to the
closing brace. A name made of digits is a group index, any other a group name; a group that did
not take part in the match, or does not exist, adds nothing. A `$` that starts no reference
stands for itself.
-/

namespace CssBundle.Regex

/-- The characters that may make up a group reference written without braces. -/
def isReferenceChar (c : Char) : Bool :=
  c.isAlphanum || c == '_'

/-- The group index a reference names when it is a number (an optional `+` then digits) that
fits in 64 bits. -/
def referenceIndex? (name : List Char) : Option Nat :=
  let digits := match name with
    | '+' :: rest => rest
    | _ => name
  if digits.isEmpty || !digits.all Char.isDigit then none
  else
    let n := digits.foldl (fun acc d => acc * 10 + (d.toNat - '0'.toNat)) 0
    if n < UInt64.size then some n else none

/-- A reference to a capture group at the start of a replacement text that begins with `$`:
the name and the text after the reference. -/
def readReference : List Char → Option (List Char × List Char)
  | '$' :: '{' :: rest =>
    let name := rest.takeWhile (· != '}')
    match rest.dropWhile (· != '}') with
    | '}' :: after => some (name, after)
    | _ => none
  | '$' :: rest =>
    let name := rest.takeWhile isReferenceChar
    if name.isEmpty then none else some (name, rest.dropWhile isReferenceChar)
  | _ => none

/-- The text a capture group matched, or nothing when it took no part in the match. -/
def captured (text : Array Char) (slots : Slots) (index : Nat) : List Char :=
  match slots[index]? with
  | some (some (a, b)) => (text.extract a b).toList
  | _ => []

def Program.expand (prog : Program) (text : Array Char) (slots : Slots) (replacement : List Char) :
    List Char :=
  go replacement.length replacement []
where
  /-- Expand the rest of the replacement onto what is written so far, in reverse. -/
  go : Nat → List Char → List Char → List Char
    | 0, rest, acc => acc.reverse ++ rest
    | fuel + 1, rest, acc =>
      match rest with
      | [] => acc.reverse
      | '$' :: '$' :: after => go fuel after ('$' :: acc)
      | '$' :: after =>
        match readReference rest with
        | none => go fuel after ('$' :: acc)
        | some (name, after') =>
          let index := match referenceIndex? name with
            | some i => some i
            | none => (prog.names.find? (·.1 == String.ofList name)).map (·.2)
          let piece := match index with
            | some i => captured text slots i
            | none => []
          go fuel after' (piece.reverse ++ acc)
      | c :: after => go fuel after (c :: acc)

/-- Replace every match of the program in the text by the expanded replacement. -/
def Program.replaceAll (prog : Program) (text : String) (replacement : String) : String :=
  let chars := text.toList.toArray
  let rep := replacement.toList
  String.ofList (go chars rep (chars.size + 2) 0 none 0 [])
where
  /-- Search from `start`, the last match having ended at `lastEnd`; the text before `copied`
  has been written, in reverse, to `acc`. -/
  go (chars : Array Char) (rep : List Char) :
      Nat → Nat → Option Nat → Nat → List Char → List Char
    | 0, _, _, copied, acc => acc.reverse ++ (chars.extract copied chars.size).toList
    | fuel + 1, start, lastEnd, copied, acc =>
      let found := match prog.find chars start with
        | some slots =>
          match slots[0]? with
          | some (some (a, b)) =>
            if a == b && lastEnd == some b then
              (prog.find chars (start + 1)).bind fun s =>
                match s[0]? with
                | some (some span) => some (span, s)
                | _ => none
            else some ((a, b), slots)
          | _ => none
        | none => none
      match found with
      | none => acc.reverse ++ (chars.extract copied chars.size).toList
      | some ((a, b), slots) =>
        let between := (chars.extract copied a).toList
        let piece := prog.expand chars slots rep
        go chars rep fuel b (some b) b ((between ++ piece).reverse ++ acc)

end CssBundle.Regex
