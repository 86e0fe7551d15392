import CssBundle.Cli
import CssBundle.Bundle.Bundler

/-!
# The program

Reads the command line, the files and the package manifest, runs the bundler, prints the
diagnostics to standard error and writes the artifacts. The exit code is 0 when every file
took part, 1 when one failed or the run could not start, and 2 for a command-line error.
-/

open CssBundle CssBundle.Bundle CssBundle.Cli

def osErrorText : IO.Error → String
  | .noFileOrDirectory .. => "No such file or directory (os error 2)"
  | .permissionDenied .. => "Permission denied (os error 13)"
  | .inappropriateType _ 21 _ => "Is a directory (os error 21)"
  | .alreadyExists .. => "File exists (os error 17)"
  | e => toString e

/-- A failure that stops the run, with what was being done and why it failed. -/
def stopWith (context : String) (e : IO.Error) : IO UInt32 := do
  IO.eprintln ("Error: " ++ context ++ "\n\nCaused by:\n    " ++ osErrorText e)
  pure 1

def printDiagnostic (d : Diagnostic) (ctx : Option SourceSet) : IO Unit := do
  let color ← (← IO.getStderr).isTty
  IO.eprintln (d.render ctx color ++ "\n")

/-- The text of a file, none when it does not exist, or the error of reading it. -/
def readIfPresent (path : String) : IO (Except IO.Error (Option String)) := do
  try pure (.ok (some (← IO.FS.readFile path)))
  catch e =>
    match e with
    | .noFileOrDirectory .. => pure (.ok none)
    | _ => pure (.error e)

def loadConfig (path : String) : IO (Except ConfigError Config) := do
  match ← readIfPresent path with
  | .ok text => pure (Config.ofManifest path text)
  | .error e => pure (.error (.unreadable path (osErrorText e)))

def readInput (root path : String) : IO (Except String InputFile) := do
  let content ← try pure (Except.ok (← IO.FS.readFile path)) catch e => pure (.error e)
  match content with
  | .error e =>
    pure (.error ("Failed to read " ++ path ++ "\n\nCaused by:\n    " ++ osErrorText e))
  | .ok content =>
    let map ← try pure (some (← IO.FS.readFile (mapPath path))) catch _ => pure none
    pure (.ok { path := pathInBundle path root, content, sourceMap := map })

def readInputs (root : String) : List String → IO (Except String (List InputFile))
  | [] => pure (.ok [])
  | p :: ps => do
    match ← readInput root p with
    | .error m => pure (.error m)
    | .ok f =>
      match ← readInputs root ps with
      | .error m => pure (.error m)
      | .ok fs => pure (.ok (f :: fs))

def writeArtifacts (outDir : String) : List Artifact → IO UInt32
  | [] => pure 0
  | a :: rest => do
    let path := joinPath outDir a.path
    try IO.FS.writeFile path a.code
    catch e => return (← stopWith ("Failed to write " ++ path) e)
    if let some m := a.sourceMap then
      try IO.FS.writeFile (mapPath path) m
      catch e => return (← stopWith ("Failed to write " ++ mapPath path) e)
    writeArtifacts outDir rest

def runBundle (args : BundleArgs) : IO UInt32 := do
  let root ← match args.root with
    | some r => pure r
    | none => do
      let here ← IO.currentDir
      pure here.toString
  let configPath := args.config.getD (joinPath root "package.json")
  let config ← match ← loadConfig configPath with
    | .ok c => pure c
    | .error e =>
      printDiagnostic e.diagnostic none
      return 1
  let bundler ← match Bundler.ofConfig config with
    | .ok b => pure { b with maxSelectors := args.maxSelectors }
    | .error e =>
      printDiagnostic e.diagnostic none
      return 1
  let files ← match ← readInputs root args.files with
    | .ok fs => pure fs
    | .error m =>
      IO.eprintln ("Error: " ++ m)
      return 1
  match bundler.bundle files args.mode with
  | .error e =>
    printDiagnostic e.diagnostic none
    pure 1
  | .ok report =>
    for d in report.diagnostics do
      printDiagnostic d (some report.sources)
    if !report.artifacts.isEmpty then
      try IO.FS.createDirAll args.outDir
      catch e => return (← stopWith ("Failed to create output directory " ++ args.outDir) e)
    let code ← writeArtifacts args.outDir report.artifacts
    if code != 0 then return code
    pure (if report.isSuccess then 0 else 1)

def main (argv : List String) : IO UInt32 := do
  match parse argv with
  | .error text =>
    IO.eprint text
    pure 2
  | .ok (.help text) =>
    IO.print text
    pure 0
  | .ok .version =>
    IO.println versionText
    pure 0
  | .ok .plugins =>
    for name in builtinPlugins do
      IO.println name
    pure 0
  | .ok (.bundle args) => runBundle args
