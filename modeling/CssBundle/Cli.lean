import CssBundle.Bundle.Mode

/-!
# The command line

The program has two commands: `bundle` merges the stylesheets given, in order, and writes the
result to an output directory; `plugins` lists the plugin names a configuration may use.

`bundle` takes the files and the options `--root`, `--config`, `--mode`, `--out-dir` (or `-o`)
and `--max-selectors`, each with a value either as the next argument or after `=`. A file's
path in the bundle is its path relative to the root when the root is a prefix of it, part by
part, and the path as given otherwise; either way without a leading `/` or `.` part.
-/

namespace CssBundle.Cli

open CssBundle.Bundle

/-- The settings of a `bundle` run. -/
structure BundleArgs where
  files : List String
  root : Option String := none
  config : Option String := none
  mode : BuildMode := .development
  outDir : String := "."
  maxSelectors : Option Nat := none
  deriving Repr, Inhabited

/-- What the command line asks for. -/
inductive Command where
  | bundle (args : BundleArgs)
  | plugins
  /-- Print a help text and stop. -/
  | help (text : String)
  | version
  deriving Repr, Inhabited

def versionText : String := "cssmerge 0.1.0"

def mainHelp : String :=
  "Merge application stylesheets into one\n\n" ++
  "Usage: cssmerge <COMMAND>\n\n" ++
  "Commands:\n" ++
  "  bundle   Merge stylesheets, in the order given\n" ++
  "  plugins  List the built-in plugins\n" ++
  "  help     Print this message or the help of the given subcommand(s)\n\n" ++
  "Options:\n" ++
  "  -h, --help     Print help\n" ++
  "  -V, --version  Print version\n"

def bundleHelp : String :=
  "Merge stylesheets, in the order given\n\n" ++
  "Usage: cssmerge bundle [OPTIONS] <FILES>...\n\n" ++
  "Arguments:\n" ++
  "  <FILES>...  Stylesheets to merge; `<file>.map` next to a file is read as its source map\n\n" ++
  "Options:\n" ++
  "      --root <ROOT>            Directory paths in the bundle are relative to " ++
    "(defaults to current directory)\n" ++
  "      --config <CONFIG>        package.json holding the `postcss` configuration " ++
    "(defaults to <root>/package.json)\n" ++
  "      --mode <MODE>            Build mode (development, production) " ++
    "[default: development]\n" ++
  "  -o, --out-dir <OUT_DIR>      Write output to DIR [default: .]\n" ++
  "      --max-selectors <N>      Split production output into stylesheets of at most N " ++
    "selectors\n" ++
  "  -h, --help                   Print help\n"

def pluginsHelp : String :=
  "List the built-in plugins\n\nUsage: cssmerge plugins\n\nOptions:\n  -h, --help  Print help\n"

/-- A usage error: its message, the usage line it shows, and the closing advice. -/
def usageError (message : String) (usage : Option String) : String :=
  "error: " ++ message ++ "\n\n" ++
  (match usage with
    | some u => "Usage: " ++ u ++ "\n\n"
    | none => "") ++
  "For more information, try '--help'.\n"

def invalidValue (value option reason : String) : String :=
  usageError ("invalid value '" ++ value ++ "' for '" ++ option ++ "': " ++ reason) none

def natOfDigits? (s : String) : Option Nat :=
  if !s.isEmpty && s.toList.all Char.isDigit then some s.toNat! else none

def optionOf (flag : String) : Option String :=
  match flag with
  | "--root" => some "root"
  | "--config" => some "config"
  | "--mode" => some "mode"
  | "-o" | "--out-dir" => some "out-dir"
  | "--max-selectors" => some "max-selectors"
  | _ => none

def optionLabel : String → String
  | "root" => "--root <ROOT>"
  | "config" => "--config <CONFIG>"
  | "mode" => "--mode <MODE>"
  | "out-dir" => "--out-dir <OUT_DIR>"
  | _ => "--max-selectors <N>"

def BundleArgs.set (a : BundleArgs) (option value : String) : Except String BundleArgs :=
  match option with
  | "root" => .ok { a with root := some value }
  | "config" => .ok { a with config := some value }
  | "mode" =>
    match BuildMode.ofName value with
    | .ok m => .ok { a with mode := m }
    | .error reason => .error (invalidValue value (optionLabel option) reason)
  | "out-dir" => .ok { a with outDir := value }
  | _ =>
    match natOfDigits? value with
    | some n => .ok { a with maxSelectors := some n }
    | none =>
      let reason := if value.isEmpty then "cannot parse integer from empty string"
        else "invalid digit found in string"
      .error (invalidValue value (optionLabel option) reason)

/-- What one argument of `bundle` is. -/
inductive ArgKind where
  /-- `--`: every later argument is a file. -/
  | separator
  | help
  /-- An option whose value is the next argument. -/
  | option (name : String)
  /-- An option with its value after `=`. -/
  | optionWith (name value : String)
  | unexpected
  | file
  deriving Repr, Inhabited

def classify (arg : String) : ArgKind :=
  if arg == "--" then .separator
  else if arg == "-h" || arg == "--help" then .help
  else match optionOf arg with
    | some option => .option option
    | none =>
      match arg.splitOn "=" with
      | flag :: value :: more =>
        match optionOf flag with
        | some option =>
          if flag.startsWith "--" then .optionWith option ("=".intercalate (value :: more))
          else .unexpected
        | none => if arg.startsWith "-" then .unexpected else .file
      | _ => if arg.startsWith "-" && arg != "-" then .unexpected else .file

/-- Read the arguments of `bundle`; after `--` every argument is a file. -/
def readBundle : List String → Bool → BundleArgs → Except String Command
  | [], _, a =>
    if a.files.isEmpty then
      .error (usageError "the following required arguments were not provided:\n  <FILES>..."
        (some "cssmerge bundle <FILES>..."))
    else .ok (.bundle a)
  | arg :: rest, true, a => readBundle rest true { a with files := a.files ++ [arg] }
  | arg :: rest, false, a =>
    match classify arg with
    | .separator => readBundle rest true a
    | .help => .ok (.help bundleHelp)
    | .option option =>
      match rest with
      | value :: rest' => do readBundle rest' false (← a.set option value)
      | [] =>
        .error (usageError ("a value is required for '" ++ optionLabel option ++
          "' but none was supplied") none)
    | .optionWith option value => do readBundle rest false (← a.set option value)
    | .unexpected =>
      .error (usageError ("unexpected argument '" ++ arg ++ "' found")
        (some "cssmerge bundle [OPTIONS] <FILES>..."))
    | .file => readBundle rest false { a with files := a.files ++ [arg] }

/-- Read a command line; an error is the text to show for it. -/
def parse : List String → Except String Command
  | [] => .error mainHelp
  | "-h" :: _ | "--help" :: _ => .ok (.help mainHelp)
  | "-V" :: _ | "--version" :: _ => .ok .version
  | "help" :: rest =>
    match rest with
    | "bundle" :: _ => .ok (.help bundleHelp)
    | "plugins" :: _ => .ok (.help pluginsHelp)
    | _ => .ok (.help mainHelp)
  | "plugins" :: rest =>
    match rest with
    | [] => .ok .plugins
    | "-h" :: _ | "--help" :: _ => .ok (.help pluginsHelp)
    | arg :: _ =>
      .error (usageError ("unexpected argument '" ++ arg ++ "' found") (some "cssmerge plugins"))
  | "bundle" :: rest => readBundle rest false { files := [] }
  | cmd :: _ =>
    .error (usageError ("unrecognized subcommand '" ++ cmd ++ "'") (some "cssmerge <COMMAND>"))

/-- One part of a path. -/
inductive PathPart where
  | root
  | current
  | named (name : String)
  deriving Repr, BEq, DecidableEq, Inhabited

/-- The parts of a path: a leading `/` is the root part, a leading `.` the current directory;
empty parts and other `.` parts are dropped. -/
def pathParts (p : String) : List PathPart :=
  let pieces := p.splitOn "/"
  let head := if p.startsWith "/" then [PathPart.root]
    else if pieces.head? == some "." then [PathPart.current] else []
  head ++ (pieces.filter fun s => s != "" && s != ".").map .named

def stripPrefix? : List PathPart → List PathPart → Option (List PathPart)
  | [], rest => some rest
  | _ :: _, [] => none
  | p :: ps, q :: qs => if p == q then stripPrefix? ps qs else none

/-- The path of a file in the bundle: relative to the root when under it, with `/` between the
named parts only. -/
def pathInBundle (path root : String) : String :=
  let parts := pathParts path
  let relative := (stripPrefix? (pathParts root) parts).getD parts
  "/".intercalate (relative.filterMap fun
    | .named n => some n
    | _ => none)

def joinPath (dir name : String) : String :=
  if name.startsWith "/" then name
  else if dir.isEmpty then name
  else if dir.endsWith "/" then dir ++ name
  else dir ++ "/" ++ name

/-- The path of the source map that belongs to a file: the file's path with `.map` added. -/
def mapPath (path : String) : String := path ++ ".map"

end CssBundle.Cli
