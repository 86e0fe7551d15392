import CssBundle.Bundle.Config
import CssBundle.Regex.Replace
import CssBundle.SourceText

/-!
# Content plugins

A plugin rewrites the text of one stylesheet before it is read. Three are built in:

* `strip-comments` removes every `/* ... */` comment outside a quoted string, keeping those that
  start with `/*!` when `preserveImportant` is set. A comment that never closes is an error at
  the place it opens.
* `replace` applies a list of search patterns, in order, each replacing all its matches.
* `banner` puts a `/* text */` line before the text; the text may not contain `*/`.

`Plugin.create` resolves a plugin's name and options into a `Plugin`; `Plugin.apply` runs it.
Options of `strip-comments` and `replace` may be `null`, which means their defaults.
-/

namespace CssBundle.Bundle

open Json

/-- A content plugin with its options resolved. -/
inductive Plugin where
  /-- Remove comments, keeping `/*!` ones when `preserveImportant` holds. -/
  | stripComments (preserveImportant : Bool)
  /-- Replace the matches of each pattern, in order, by its replacement. -/
  | replace (rules : List (Regex.Program × String))
  /-- Put a comment line before the text. -/
  | banner (text : String)
  deriving Inhabited

/-- Why a plugin could not rewrite a text. -/
inductive PluginError where
  /-- The text is malformed at a location. -/
  | malformed (message : String) (location : Location)
  /-- Any other failure. -/
  | generic (message : String)
  deriving Repr, Inhabited

def PluginError.message : PluginError → String
  | .malformed m _ => m
  | .generic m => m

def builtinPlugins : List String := ["banner", "replace", "strip-comments"]

namespace Plugin

def name : Plugin → String
  | .stripComments _ => "strip-comments"
  | .replace _ => "replace"
  | .banner _ => "banner"

/-- The text of a comment that opens with `/*`, up to its `*/`, and the text after it. -/
def splitAtClose : List Char → Option (List Char × List Char)
  | [] => none
  | '*' :: '/' :: after => some ([], after)
  | c :: rest => (splitAtClose rest).map fun (body, after) => (c :: body, after)

/-- Remove the comments of a stylesheet text. Inside a quoted string, which a line feed also
ends, a backslash keeps the character after it, and comment marks are text. -/
def removeComments (preserveImportant : Bool) (css : String) : Except PluginError String :=
  (go (css.length + 1) css.toList 0 none []).map String.ofList
where
  /-- Scan the rest of the text, which starts at byte `offset`, with the open quote if any;
  what is kept so far is in `acc`, reversed. -/
  go : Nat → List Char → Nat → Option Char → List Char → Except PluginError (List Char)
    | 0, rest, _, _, acc => .ok (acc.reverse ++ rest)
    | _ + 1, [], _, _, acc => .ok acc.reverse
    | fuel + 1, c :: rest, offset, quote, acc =>
      match quote with
      | some q =>
        if c == '\\' then
          match rest with
          | d :: rest' => go fuel rest' (offset + 1 + d.utf8Size) quote (d :: c :: acc)
          | [] => go fuel [] (offset + 1) quote (c :: acc)
        else
          go fuel rest (offset + c.utf8Size) (if c == q || c == '\n' then none else quote)
            (c :: acc)
      | none =>
        if c == '"' || c == '\'' then go fuel rest (offset + 1) (some c) (c :: acc)
        else if c == '/' && rest.head? == some '*' then
          match splitAtClose (rest.drop 1) with
          | none =>
            let place := (FileInformation.new css).offsetToLocation offset css
            .error (.malformed "Unclosed comment" (place.getD .origin))
          | some (body, after) =>
            let comment := '/' :: '*' :: body ++ ['*', '/']
            let acc := if preserveImportant && body.head? == some '!' then comment.reverse ++ acc
              else acc
            go fuel after (offset + Text.byteLength comment) none acc
        else go fuel rest (offset + c.utf8Size) none (c :: acc)

def apply : Plugin → String → Except PluginError String
  | .stripComments keep, css => removeComments keep css
  | .replace rules, css => .ok (rules.foldl (fun text (p, r) => p.replaceAll text r) css)
  | .banner text, css => .ok ("/* " ++ text ++ " */\n" ++ css)

def stripShape : RecordShape := ⟨"Options", [("preserveImportant", true)], true⟩

def ruleShape : RecordShape := ⟨"ReplaceRule", [("search", false), ("replace", false)], true⟩

def bannerShape : RecordShape := ⟨"Options", [("text", false)], true⟩

def stringFields (shape : RecordShape) (d : Doc) : Decoded (List (Nat × String)) :=
  d.record shape (fun _ => Doc.string) false

def readStrip (d : Doc) : Decoded Bool := do
  let fs ← d.record stripShape (fun _ => Doc.boolean) false
  pure ((fs.lookup 0).getD false)

def readRule (d : Doc) : Decoded (String × String) := do
  let fs ← stringFields ruleShape d
  pure ((fs.lookup 0).getD "", (fs.lookup 1).getD "")

def readBanner (d : Doc) : Decoded String := do
  let fs ← stringFields bannerShape d
  pure ((fs.lookup 0).getD "")

/-- Reads a plugin's options, where `null` means the defaults when there are defaults. -/
def readOptions {α : Type} (plugin : String) (read : Doc → Decoded α) (default : Option α)
    (options : Value) : Except ConfigError α :=
  match options, default with
  | .null, some a => .ok a
  | _, _ => (decodeValue read options).mapError (.invalidPluginOptions plugin)

def compileRules : List (String × String) → Except ConfigError (List (Regex.Program × String))
  | [] => .ok []
  | (search, replacement) :: rest => do
    let p ← (Regex.Program.read search).mapError fun e =>
      .invalidPluginOptions "replace" (e.message search)
    let ps ← compileRules rest
    pure ((p, replacement) :: ps)

def create (id : String) (options : Value) : Except ConfigError Plugin :=
  match id with
  | "strip-comments" => stripComments <$> readOptions id readStrip (some false) options
  | "replace" => do
    let rules ← readOptions id (Doc.seq readRule) (some []) options
    replace <$> compileRules rules
  | "banner" => do
    let text ← readOptions id readBanner none options
    if (text.splitOn "*/").length > 1 then
      throw (.invalidPluginOptions id "banner text must not contain '*/'")
    pure (banner text)
  | _ => .error (.unknownPlugin id)

end Plugin

end CssBundle.Bundle
