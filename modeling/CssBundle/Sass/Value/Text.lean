import CssBundle.Sass.Value

/-!
# Values as text

A value has two texts. Its *CSS* text is what a declaration writes: `null` and blank items write
nothing, lists are joined by `" "`, `", "` or `" / "`, strings keep or drop their quotes as asked.
Maps, empty lists, function references and numbers with compound units have no CSS text, and
asking for one is the error `X isn't a valid CSS value.`, where `X` is the value's inspected text.

Its *inspected* text is what `inspect()` and messages show: every value has one, `null` included;
nested lists that would read differently without them are put in parentheses, a one-item comma
list is written `(x,)`, an empty list `()`, and a map `(key: value, ...)`.

A quoted string is written in double quotes, or in single quotes when it holds a double quote and
no single quote; a backslash is doubled and control characters other than tab become hex escapes
(followed by a space when a hex digit, space or tab comes next). An unquoted string folds each
line break and the blanks after it into one space.
-/

namespace CssBundle.Sass

def hexDigits (n : Nat) : String := String.ofList (Nat.toDigits 16 n)

def quotedBody (double : Bool) : List Char → String
  | [] => ""
  | c :: rest =>
    let tail := quotedBody double rest
    if c == '"' && double then "\\\"" ++ tail
    else if c == '\\' then "\\\\" ++ tail
    else if (c.toNat ≤ 0x08) || (0x0A ≤ c.toNat && c.toNat ≤ 0x1F) then
      let sep := match rest with
        | n :: _ => if isHexDigit n || n == ' ' || n == '\t' then " " else ""
        | [] => ""
      "\\" ++ hexDigits c.toNat ++ sep ++ tail
    else String.singleton c ++ tail

/-- A string in quotes: double quotes unless it holds a double quote and no single quote. -/
def quoteString (s : String) : String :=
  let cs := s.toList
  if cs.contains '"' && !cs.contains '\'' then "'" ++ quotedBody false cs ++ "'"
  else "\"" ++ quotedBody true cs ++ "\""

/-- An unquoted string as CSS: each line break and the blanks after it become one space. -/
def unquotedText (s : String) : String :=
  let (out, _) := s.toList.foldl (fun (acc : List Char × Bool) c =>
    let (out, afterNewline) := acc
    if c == '\n' then (' ' :: out, true)
    else if c == ' ' then (if afterNewline then out else ' ' :: out, afterNewline)
    else (c :: out, false)) ([], false)
  String.ofList out.reverse

def ListSep.joiner : ListSep → String
  | .comma => ", "
  | .slash => " / "
  | _ => " "

/-- The character of a separator, written after the one item of a one-item list. -/
def ListSep.mark : ListSep → String
  | .comma => ","
  | .slash => "/"
  | _ => ""

/-- Whether a list item needs parentheses when inspected inside a list with separator `sep`; an
argument list never does. -/
def Value.needsParensIn (sep : ListSep) (v : Value) : Bool :=
  match v with
  | .list items s false =>
    items.length ≥ 2 &&
      match sep with
      | .comma => s == .comma
      | .slash => s == .comma || s == .slash
      | _ => s != .undecided
  | _ => false

def numberInspect (n : Number) (slash : Option Slash) : String :=
  match slash with
  | some t => t.text
  | none => n.inspect

mutual

def CalcTerm.inspect : CalcTerm → String
  | .number n => n.inspect
  | .text s => s
  | .interp s => s
  | .op o l r =>
    let left := if CalcTerm.looserThan o.precedence l then "(" ++ l.inspect ++ ")" else l.inspect
    let right := if CalcTerm.rightNeedsParens o r then "(" ++ r.inspect ++ ")" else r.inspect
    left ++ " " ++ o.symbol ++ " " ++ right
  | .calc name terms => name ++ "(" ++ ", ".intercalate (CalcTerm.inspectAll terms) ++ ")"

def CalcTerm.inspectAll : List CalcTerm → List String
  | [] => []
  | t :: ts => t.inspect :: CalcTerm.inspectAll ts

def CalcTerm.looserThan (p : Nat) : CalcTerm → Bool
  | .op o _ _ => o.precedence < p
  | .interp _ => true
  | _ => false

def CalcTerm.rightNeedsParens (outer : CalcOp) : CalcTerm → Bool
  | .op o _ _ =>
    match outer with
    | .div => true
    | .plus => false
    | _ => o == .plus || o == .minus
  | .interp _ => true
  | _ => false

end

def inspectListText (parts : List String) (sep : ListSep) (brackets : Bool) : String :=
  if parts.isEmpty then (if brackets then "[]" else "()")
  else
    let body := sep.joiner.intercalate parts
    let single := parts.length == 1 && (sep == .comma || sep == .slash)
    if brackets then "[" ++ body ++ (if single then sep.mark else "") ++ "]"
    else if single then "(" ++ body ++ sep.mark ++ ")"
    else body

/-- Whether a value is a comma list without brackets, which a map puts in parentheses. -/
def Value.isOpenCommaList : Value → Bool
  | .list (_ :: _) .comma false => true
  | _ => false

def parenthesizeIf (b : Bool) (s : String) : String := if b then "(" ++ s ++ ")" else s

mutual

def Value.inspect : Value → String
  | .null => "null"
  | .bool b => if b then "true" else "false"
  | .number n slash => numberInspect n slash
  | .string s q => if q then quoteString s else unquotedText s
  | .color c => c.cssText
  | .list items sep brackets => inspectListText (Value.inspectItems sep items) sep brackets
  | .args items _ sep _ => inspectListText (Value.inspectItems sep items) sep false
  | .map entries => "(" ++ ", ".intercalate (Value.inspectEntries entries) ++ ")"
  | .function name _ => "get-function(" ++ quoteString name ++ ")"
  | .calc name terms => name ++ "(" ++ ", ".intercalate (CalcTerm.inspectAll terms) ++ ")"

def Value.inspectItems (sep : ListSep) : List Value → List String
  | [] => []
  | v :: vs => parenthesizeIf (v.needsParensIn sep) v.inspect :: Value.inspectItems sep vs

def Value.inspectEntries : List (Value × Value) → List String
  | [] => []
  | (k, v) :: rest =>
    (parenthesizeIf k.isOpenCommaList k.inspect ++ ": " ++
      parenthesizeIf v.isOpenCommaList v.inspect) :: Value.inspectEntries rest

end

def notCss (v : Value) : String := v.inspect ++ " isn't a valid CSS value."

mutual

def CalcTerm.css : CalcTerm → Except String String
  | .number n =>
    if n.hasComplexUnits then
      .error ("Number " ++ n.inspect ++ " isn't compatible with CSS calculations.")
    else .ok n.inspect
  | .text s | .interp s => .ok s
  | .op o l r => do
    let ls ← l.css
    let rs ← r.css
    let left := if CalcTerm.looserThan o.precedence l then "(" ++ ls ++ ")" else ls
    let right := if CalcTerm.rightNeedsParens o r then "(" ++ rs ++ ")" else rs
    return left ++ " " ++ o.symbol ++ " " ++ right
  | .calc name terms => do
    let parts ← CalcTerm.cssAll terms
    return name ++ "(" ++ ", ".intercalate parts ++ ")"

def CalcTerm.cssAll : List CalcTerm → Except String (List String)
  | [] => .ok []
  | t :: ts => do
    let s ← t.css
    let ss ← CalcTerm.cssAll ts
    return s :: ss

end

mutual

/-- The CSS text of a value; strings keep their quotes when `quote` holds. -/
def Value.css (quote : Bool) : Value → Except String String
  | .null => .ok ""
  | .bool b => .ok (if b then "true" else "false")
  | .number n slash =>
    match slash with
    | some t => .ok t.text
    | none =>
      if n.hasComplexUnits then .error (notCss (.number n none))
      else .ok (numberText n.value ++ (n.numer.headD ""))
  | .string s q => .ok (if q && quote then quoteString s else unquotedText s)
  | .color c => .ok c.cssText
  | .list items sep brackets =>
    if items.isEmpty && !brackets then .error (notCss (.list items sep brackets))
    else do
      let parts ← Value.cssItems quote items
      let body := sep.joiner.intercalate parts
      return if brackets then "[" ++ body ++ "]" else body
  | .args items kw sep id =>
    if items.isEmpty then .error (notCss (.args items kw sep id))
    else do
      let parts ← Value.cssItems quote items
      return sep.joiner.intercalate parts
  | .map entries => .error (notCss (.map entries))
  | .function name m => .error (notCss (.function name m))
  | .calc name terms => do
    let parts ← CalcTerm.cssAll terms
    return name ++ "(" ++ ", ".intercalate parts ++ ")"

def Value.cssItems (quote : Bool) : List Value → Except String (List String)
  | [] => .ok []
  | v :: vs => do
    let rest ← Value.cssItems quote vs
    if v.isBlank then return rest
    else
      let s ← v.css quote
      return s :: rest

end

/-- The text a value gives when interpolated: a string's text without quotes, else its CSS text
with inner strings unquoted. -/
def Value.interpolated : Value → Except String String
  | .string s _ => .ok s
  | v => v.css false

end CssBundle.Sass
