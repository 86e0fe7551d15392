import CssBundle.Bundle.Plugin
import CssBundle.Bundle.Report
import CssBundle.Sass.Compile
import CssBundle.Css.Reader

/-!
# Preparing one stylesheet

Before a stylesheet is read, its text goes through the transform stage: files of excluded
packages pass untouched; the others are first converted from their syntax (plain CSS stays as
it is, SCSS is compiled), then rewritten by each plugin in the configured order. A plugin that
fails with a located syntax error gives a `BuildError` whose message quotes the text at that
place.

`buildAst` then reads the prepared text; a text that does not read leaves an empty stylesheet
and a parse error.
-/

namespace CssBundle.Bundle

open Css

/-- The syntax stylesheets are written in. -/
inductive Flavor where
  | css
  | scss
  deriving Repr, BEq, DecidableEq, Inhabited

namespace Flavor

/-- The syntax a parser name selects: none, `css` and `postcss` mean plain CSS, `scss` and
`postcss-scss` mean SCSS. -/
def ofId : Option String → Except ConfigError Flavor
  | none => .ok .css
  | some "css" | some "postcss" => .ok .css
  | some "scss" | some "postcss-scss" => .ok .scss
  | some other => .error (.unknownParser other)

def convert : Flavor → String → Except PluginError String
  | .css, text => .ok text
  | .scss, text => (Sass.compile text).mapError .generic

end Flavor

def occursIn (needle : List Char) : List Char → Bool
  | [] => needle.isEmpty
  | c :: rest => needle.isPrefixOf (c :: rest) || occursIn needle rest

/-- The path part that marks a file of a package: `packages/` and the package name with its
first `:` turned into `_`. -/
def packageNeedle (name : String) : String :=
  let cs := name.toList
  let before := cs.takeWhile (· != ':')
  let after := cs.dropWhile (· != ':')
  "packages/" ++ String.ofList (before ++ (match after with
    | _ :: rest => '_' :: rest
    | [] => []))

/-- The transform stage of a configuration. -/
structure Stage where
  flavor : Flavor
  plugins : List Plugin
  /-- The path parts that mark files of excluded packages. -/
  excluded : List String
  deriving Inhabited

/-- The build error of a plugin failure on a text; a syntax error quotes the text at its
location. -/
def pluginFailure (path input : String) : PluginError → BuildError
  | .generic m => { path, kind := .transform, message := m }
  | .malformed m loc =>
    let (ctx, id) := SourceSet.add {} path input
    let d : Diagnostic :=
      { title := m, problem := some m, place := some ⟨id, Range.point loc⟩ }
    let message := match d.excerpt ctx with
      | some e => m ++ "\n\nCSS syntax error.\n\n" ++ Text.trimEnd e
      | none => m ++ "\n\nCSS syntax error."
    { path, kind := .transform, message, location := some loc }

namespace Stage

/-- The stage a configuration describes: its syntax is resolved first, then its plugins in
order. -/
def ofConfig (c : Config) : Except ConfigError Stage := do
  let flavor ← Flavor.ofId c.parser
  let plugins ← c.plugins.mapM fun (id, options) => Plugin.create id options
  pure ⟨flavor, plugins, c.excludedPackages.map packageNeedle⟩

def isExcluded (s : Stage) (path : String) : Bool :=
  s.excluded.any fun needle => occursIn needle.toList path.toList

def runPlugins (path : String) : List Plugin → String → Except BuildError String
  | [], text => .ok text
  | p :: ps, text => do
    let text' ← (p.apply text).mapError (pluginFailure path text)
    runPlugins path ps text'

def apply (s : Stage) (path content : String) : Except BuildError String :=
  if s.isExcluded path then .ok content
  else do
    let text ← (s.flavor.convert content).mapError (pluginFailure path content)
    runPlugins path s.plugins text

end Stage

/-- A stylesheet as read for a bundle: the sheet (empty when it failed), its error if any, and
the text it was read from. -/
structure Parsed where
  sheet : Stylesheet
  error : Option BuildError
  text : String
  deriving Inhabited

def Parsed.failed (path : String) (error : BuildError) (text : String) : Parsed :=
  ⟨⟨path, []⟩, some error, text⟩

def buildAst (text path : String) : Parsed :=
  match parse text path with
  | .ok sheet => ⟨sheet, none, text⟩
  | .error e =>
    Parsed.failed path
      { path, kind := .parse, message := e.message, location := some e.location } text

end CssBundle.Bundle
