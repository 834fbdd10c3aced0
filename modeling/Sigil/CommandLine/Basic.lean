import Sigil.Document

/-! # Command lines

    What the program is asked to do.  The words after the program's name are
    options, a command and the command's own options and file names.

    * `Command`: what can be asked for.
    * `UsageError`: why words cannot be understood.
    * `Command.parse`: what a list of words asks for. -/

namespace Sigil

/-- The commands. -/
inductive Subcommand where
  /-- Check files. -/
  | check
  /-- Serve an editor. -/
  | language
deriving DecidableEq, Repr

namespace Subcommand

/-- The name of a command. -/
def name : Subcommand → Text
  | check => "check".toList
  | language => "language".toList

/-- The command with a given name. -/
def ofName? (word : Text) : Option Subcommand :=
  [check, language].find? fun c => c.name = word

end Subcommand

/-- What is given to a command. -/
structure Options where
  /-- The kind to take every file for. -/
  kind : Option DocumentKind := none
  /-- The file that holds the catalog. -/
  catalog : Option Text := none
  /-- Show the source below each finding? -/
  full : Bool := false
  /-- Say what is being done? -/
  debug : Bool := false
  /-- The files to check. -/
  filenames : List Text := []
deriving DecidableEq, Repr

/-- What the program is asked to do. -/
inductive Command where
  /-- Nothing: say how to ask. -/
  | usage
  /-- Describe the program, or one of its commands. -/
  | help (about : Option Subcommand)
  /-- Tell the version of the program, or of one of its commands. -/
  | version (of : Option Subcommand)
  /-- Check files. -/
  | check (options : Options)
  /-- Serve an editor. -/
  | language (options : Options)
deriving DecidableEq, Repr

/-- Why words cannot be understood. -/
inductive UsageError where
  | unexpectedWord (word : Text)
  /-- An option without the value that it needs. -/
  | missingValue (option : Text)
  /-- A value for an option that has none. -/
  | unneededValue (option : Text)
  | invalidValue (option value : Text)
  | repeatedOption (option : Text)
  /-- No file is named. -/
  | missingFilename
deriving DecidableEq, Repr

/-- The wording of each error. -/
def UsageError.message : UsageError → Text
  | unexpectedWord word => "unexpected argument '".toList ++ word ++ "' found".toList
  | missingValue option => "a value is required for '".toList ++ option
      ++ "' but none was supplied".toList
  | unneededValue option => "unexpected value for '".toList ++ option ++ "' found".toList
  | invalidValue option value => "invalid value '".toList ++ value ++ "' for '".toList ++ option
      ++ "'".toList
  | repeatedOption option => "the argument '".toList ++ option
      ++ "' cannot be used multiple times".toList
  | missingFilename => "the required argument '<filename>...' was not provided".toList

/-! ## Words -/

/-- A word is an option with a name, an option of one letter, or a plain word. -/
inductive Word where
  /-- `--name` or `--name=value`. -/
  | long (name : Text) (value? : Option Text)
  /-- `-x`; more letters may follow. -/
  | short (letter : Char)
  /-- `--`: all words that follow are plain. -/
  | escape
  | plain
deriving DecidableEq, Repr

/-- What kind of word a word is.  A dash alone is plain. -/
def Word.ofText : Text → Word
  | ['-', '-'] => .escape
  | '-' :: '-' :: rest =>
    let value? := match rest.dropWhile (· != '=') with
      | _ :: value => some value
      | [] => none
    .long (rest.takeWhile (· != '=')) value?
  | '-' :: letter :: _ => .short letter
  | _ => .plain

/-- Why the reading of words ends before their end. -/
inductive Stop where
  | help
  | version
  | invalid (error : UsageError)
deriving DecidableEq, Repr

/-- The options that every command has. -/
def commonOption (word : Text) : Word → Option Stop
  | .long name value? =>
    if name = "help".toList ∨ name = "version".toList then
      match value? with
      | some _ => some (.invalid (.unneededValue word))
      | none => some (if name = "help".toList then .help else .version)
    else none
  | .short letter =>
    if letter = 'h' then some .help
    else if letter = 'V' then some .version
    else some (.invalid (.unexpectedWord word))
  | _ => none

/-! ## Options of a command -/

namespace Options

/-- A plain word: the name of a file, if the command takes files. -/
def addFilename (c : Subcommand) (o : Options) (word : Text) : Except Stop Options :=
  if c ≠ .check then .error (.invalid (.unexpectedWord word))
  else if word.isEmpty then .error (.invalid (.missingValue "<filename>...".toList))
  else .ok { o with filenames := o.filenames ++ [word] }

/-- An option without a value. -/
def setFlag (c : Subcommand) (o : Options) (name : Text) : Option (Except Stop Options) :=
  if name = "full".toList ∧ c = .check then
    some (if o.full then .error (.invalid (.repeatedOption "--full".toList))
      else .ok { o with full := true })
  else if name = "debug".toList then
    some (if o.debug then .error (.invalid (.repeatedOption "--debug".toList))
      else .ok { o with debug := true })
  else none

/-- Does this option have a value? -/
def takesValue (c : Subcommand) (name : Text) : Bool :=
  name = "catalog".toList || (name = "kind".toList && c = .check)

/-- An option with its value. -/
def setValue (o : Options) (name value : Text) : Except Stop Options :=
  if name = "kind".toList then
    if o.kind.isSome then .error (.invalid (.repeatedOption "--kind".toList))
    else
      match DocumentKind.ofName? value with
      | some kind => .ok { o with kind := some kind }
      | none => .error (.invalid (.invalidValue "--kind <kind>".toList value))
  else if o.catalog.isSome then .error (.invalid (.repeatedOption "--catalog".toList))
  else if value.isEmpty then .error (.invalid (.missingValue "--catalog <catalog>".toList))
  else .ok { o with catalog := some value }

/-- Read the words after a command.  The value of an option may stand in the next
    word, unless that word is an option too. -/
def read (c : Subcommand) (o : Options) : List Text → Except Stop Options
  | [] => .ok o
  | word :: rest =>
    match Word.ofText word with
    | .escape => rest.foldlM (addFilename c) o
    | .plain => do read c (← o.addFilename c word) rest
    | parsed =>
      match commonOption word parsed, parsed with
      | some stop, _ => .error stop
      | none, .long name value? =>
        if takesValue c name then
          match value?, rest with
          | some value, rest => do read c (← o.setValue name value) rest
          | none, [] => .error (.invalid (.missingValue word))
          | none, value :: rest =>
            if Word.ofText value = .plain then do read c (← o.setValue name value) rest
            else .error (.invalid (.missingValue word))
        else
          match o.setFlag c name with
          | some result =>
            if value?.isSome then .error (.invalid (.unneededValue word))
            else do read c (← result) rest
          | none => .error (.invalid (.unexpectedWord word))
      | none, _ => .error (.invalid (.unexpectedWord word))

end Options

/-! ## Commands -/

namespace Command

/-- The command `c` with the words after it. -/
def parseSubcommand (c : Subcommand) (words : List Text) : Except UsageError Command :=
  match Options.read c {} words with
  | .error .help => .ok (.help (some c))
  | .error .version => .ok (.version (some c))
  | .error (.invalid error) => .error error
  | .ok options =>
    match c with
    | .check => if options.filenames.isEmpty then .error .missingFilename else .ok (.check options)
    | .language => .ok (.language options)

/-- **Parsing.**  What a list of words asks for. -/
def parse : List Text → Except UsageError Command
  | [] => .ok .usage
  | word :: rest =>
    match Word.ofText word with
    | .escape =>
      match rest with
      | [] => .ok .usage
      | next :: _ => .error (.unexpectedWord next)
    | .plain =>
      match Subcommand.ofName? word with
      | some c => parseSubcommand c rest
      | none => .error (.unexpectedWord word)
    | parsed =>
      match commonOption word parsed with
      | some .help => .ok (.help none)
      | some .version => .ok (.version none)
      | some (.invalid error) => .error error
      | none => .error (.unexpectedWord word)

end Command

end Sigil
