import CssBundle.Json.Decode
import CssBundle.Diagnostic.Message

/-!
# Bundler settings

A configuration names the content plugins to run, in the order given, each with its options as
a JSON value; the syntax the stylesheets are written in, if not plain CSS; and the packages whose
files pass through untouched. Every member may be left out, and unknown members are ignored.

A `ConfigError` says why settings cannot be used: they do not read as a configuration, or they
name a plugin or a syntax that does not exist, or give a plugin options it refuses. Each error
has one diagnostic, with hints for the two kinds of unknown names.
-/

namespace CssBundle.Bundle

open Json

/-- The bundler's settings. -/
structure Config where
  /-- The plugins to run, in order, with their options. -/
  plugins : List (String × Value) := []
  /-- The syntax of the stylesheets, when it is not plain CSS. -/
  parser : Option String := none
  /-- The packages whose files are not transformed. -/
  excludedPackages : List String := []
  deriving Repr, Inhabited

/-- Why settings cannot be used. -/
inductive ConfigError where
  /-- The package manifest holding the settings could not be read. -/
  | unreadable (path : String) (reason : String)
  /-- The package manifest is not JSON. -/
  | notJson (path : String) (reason : String)
  /-- The settings do not read as a configuration. -/
  | invalid (message : String)
  /-- No plugin has this name. -/
  | unknownPlugin (id : String)
  /-- The plugin refuses these options. -/
  | invalidPluginOptions (plugin : String) (message : String)
  /-- No syntax has this name. -/
  | unknownParser (id : String)
  deriving Repr, Inhabited

namespace ConfigError

def message : ConfigError → String
  | .unreadable path r => "Failed to read " ++ path ++ ": " ++ r
  | .notJson path r => "Failed to parse " ++ path ++ " as JSON: " ++ r
  | .invalid m => "Invalid bundler configuration: " ++ m
  | .unknownPlugin id => "Unknown plugin '" ++ id ++ "'"
  | .invalidPluginOptions p m => "Invalid options for plugin '" ++ p ++ "': " ++ m
  | .unknownParser id => "Unknown parser '" ++ id ++ "'"

def hints : ConfigError → List String
  | .unknownPlugin _ => ["Run `cssmerge plugins` to list the available plugins?"]
  | .unknownParser _ => ["Supported parsers are `css`, `postcss`, `scss` and `postcss-scss`."]
  | _ => []

def diagnostic (e : ConfigError) : Diagnostic :=
  { code := some "M-3-1", title := "Invalid Bundler Configuration", problem := some e.message,
    hints := e.hints }

end ConfigError

def configShape : RecordShape :=
  ⟨"BundlerConfig", [("plugins", true), ("parser", true), ("excludedPackages", true)], false⟩

/-- One member of a configuration, as read. -/
inductive ConfigField where
  | plugins (members : List (String × Value))
  | parser (name : Option String)
  | excluded (names : List String)

def readConfigField (i : Nat) (d : Doc) : Decoded ConfigField :=
  match i with
  | 0 => ConfigField.plugins <$> d.valueMap
  | 1 => ConfigField.parser <$> d.option Doc.string
  | _ => ConfigField.excluded <$> d.seq Doc.string

def readConfig (fromText : Bool) (d : Doc) : Decoded Config := do
  let fs ← d.record configShape readConfigField fromText
  pure {
    plugins := match fs.lookup 0 with | some (.plugins ms) => ms | _ => []
    parser := match fs.lookup 1 with | some (.parser p) => p | _ => none
    excludedPackages := match fs.lookup 2 with | some (.excluded xs) => xs | _ => [] }

namespace Config

/-- Reads a configuration from JSON text; a problem's message gives its line and column. -/
def ofText (text : String) : Except ConfigError Config :=
  (decodeText (readConfig true) text).mapError .invalid

def ofValue (v : Value) : Except ConfigError Config :=
  (decodeValue (readConfig false) v).mapError .invalid

def manifestKey : String := "postcss"

/-- Reads the settings from the text of the package manifest at `path`, or gives the defaults
when there is no manifest (`none`) or it has no settings member. The manifest must be JSON; the
settings member is read as a configuration value. -/
def ofManifest (path : String) (text : Option String) : Except ConfigError Config :=
  match text with
  | none => .ok {}
  | some text =>
    let doc := Document.read text
    let parsed : Except Failure Value := do
      let v ← doc.root.toValue
      match doc.trailing with
      | some f => throw f
      | none => pure v
    match parsed with
    | .error f => .error (.notJson path (f.describe text))
    | .ok manifest =>
      match manifest.get? manifestKey with
      | none => .ok {}
      | some settings => ofValue settings

end Config

end CssBundle.Bundle
