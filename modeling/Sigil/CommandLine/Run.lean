import Sigil.Catalog.Builtin
import Sigil.Check
import Sigil.CommandLine.Basic
import Sigil.Report
import Sigil.Server.Connection

/-! # Running commands

    What the program prints, and the code it ends with, as a function of the command
    and of the files it can read.

    * `Outcome`: what is printed, and how it ends.
    * `Options.loadCatalog`: the catalog to use.
    * `Command.paths`: the files that have to be read.
    * `Command.run`: the outcome of a command that needs no editor. -/

namespace Sigil

/-- What a program leaves behind. -/
structure Outcome where
  exitCode : Nat
  output : Text
  errors : Text
deriving DecidableEq, Repr

/-- Lines, each ended by a newline. -/
def unlines (lines : List Text) : Text :=
  lines.flatMap fun line => line ++ ['\n']

/-- Success, with some lines printed. -/
def Outcome.success (lines : List Text) : Outcome :=
  { exitCode := 0, output := unlines lines, errors := [] }

/-! ## Texts -/

/-- The name of the program. -/
def programName : Text := "firebot-variables".toList

/-- The version of the program. -/
def programVersion : Text := "v0.1.0".toList

/-- The line that tells the version. -/
def versionLine (of : Option Subcommand) : Text :=
  let name := match of with
    | some c => programName ++ '-' :: c.name
    | none => programName
  name ++ ' ' :: programVersion

/-- The description of the program, or of one of its commands. -/
def helpLines : Option Subcommand → List String
  | none =>
    ["Validation and completion for Firebot variable expressions.",
      "",
      "Usage: firebot-variables [COMMAND]",
      "",
      "Commands:",
      "  check     Check the variable expressions in the given files",
      "  language  Run a Language Server Protocol server on standard input and output",
      "",
      "Options:",
      "  -h, --help     Print help",
      "  -V, --version  Print version"]
  | some .check =>
    ["Check the variable expressions in the given files",
      "",
      "Usage: firebot-variables check [OPTIONS] <filename>...",
      "",
      "Arguments:",
      "  <filename>...  The files containing the expressions you want to check.",
      "",
      "Options:",
      "      --kind <kind>        Treat every file as this kind of document rather than guessing "
        ++ "from its extension. [possible values: markup, stylesheet, script]",
      "      --catalog <catalog>  Load variable definitions from this JSON file instead of the "
        ++ "built-in catalog.",
      "      --full               Show the offending source line beneath each problem.",
      "      --debug              Emit debug logging to standard error.",
      "  -h, --help               Print help",
      "  -V, --version            Print version"]
  | some .language =>
    ["Run a Language Server Protocol server on standard input and output",
      "",
      "Usage: firebot-variables language [OPTIONS]",
      "",
      "Options:",
      "      --catalog <catalog>  Load variable definitions from this JSON file instead of the "
        ++ "built-in catalog.",
      "      --debug              Emit debug logging to standard error.",
      "  -h, --help               Print help",
      "  -V, --version            Print version"]

/-- How to ask for something, for those who asked for nothing. -/
def usageLines : List Text :=
  ["usage: firebot-variables [COMMAND] ...".toList, "Try '--help' for more information.".toList]

/-- Words that cannot be understood. -/
def UsageError.outcome (e : UsageError) : Outcome where
  exitCode := 2
  output := []
  errors := unlines ["error: ".toList ++ e.message, [],
    "For more information, try '--help'.".toList]

/-! ## Checking -/

/-- The catalog to use: the built-in one unless a file is named.  If that file
    cannot be used, a line says why. -/
def Options.loadCatalog (read : Text → Except ReadFailure Text) (o : Options) :
    Except Text Catalog :=
  match o.catalog with
  | none => .ok Catalog.builtin
  | some path =>
    match Catalog.ofFile (read path) with
    | .ok catalog => .ok catalog
    | .error e =>
      .error (Report.red "error".toList ++ ": ".toList ++ path ++ ": ".toList
        ++ Report.bold e.message)

/-- What is known of one file after its check. -/
structure FileReport where
  lines : List Text
  clean : Bool
deriving DecidableEq, Repr

/-- Check one file.  It is clean if it can be read and no finding is an error. -/
def checkFile (read : Text → Except ReadFailure Text) (catalog : Catalog) (o : Options)
    (filename : Text) : FileReport :=
  let kind := (o.kind <|> DocumentKind.ofPath? filename).getD .script
  match read filename with
  | .error failure => { lines := [Report.loadingError { filename, failure }], clean := false }
  | .ok source =>
    let findings := check catalog kind source
    let show? := if o.full then Report.full else Report.concise
    { lines := findings.map (show? filename source)
      clean := findings.all fun f => f.severity ≠ .error }

/-- Check all files. -/
def checkFiles (read : Text → Except ReadFailure Text) (o : Options) : Outcome :=
  match o.loadCatalog read with
  | .error line => { exitCode := 1, output := [], errors := unlines [line] }
  | .ok catalog =>
    let reports := o.filenames.map (checkFile read catalog o)
    { exitCode := if reports.all FileReport.clean then 0 else 1
      output := []
      errors := unlines (reports.flatMap FileReport.lines) }

/-! ## Commands -/

/-- The files that a command reads, whatever they hold. -/
def Command.paths : Command → List Text
  | check options => options.catalog.toList ++ options.filenames
  | language options => options.catalog.toList
  | _ => []

/-- What serving an editor leaves behind: the code to end with, and the messages
    sent. -/
def serveEditor (read : Text → Except ReadFailure Text) (o : Options) (messages : List Message) :
    Except Text (Nat × List Reply) := do
  let catalog ← o.loadCatalog read
  let (last, replies) := (Connection.waiting catalog).run read messages
  return (if last.isComplete then 0 else 1, replies)

/-- **Running.**  The outcome of a command.  An editor that is served sends
    nothing here. -/
def Command.run (read : Text → Except ReadFailure Text) : Command → Outcome
  | usage => .success usageLines
  | help about => .success ((helpLines about).map String.toList)
  | version of => .success [versionLine of]
  | check options => checkFiles read options
  | language options =>
    match serveEditor read options [] with
    | .error line => { exitCode := 1, output := [], errors := unlines [line] }
    | .ok (exitCode, _) => { exitCode, output := [], errors := [] }

end Sigil
