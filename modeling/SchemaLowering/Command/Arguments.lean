import SchemaLowering.FileTree.Basic

/-!
The words of a command line. Options may stand anywhere before a double hyphen; short flags may be
joined, and a value may be joined to its option.
-/

namespace SchemaLowering

namespace Command

/-- The options and the other words of a command line. -/
structure Arguments where
  config : Option String := none
  force : Bool := false
  noCrud : Bool := false
  verbose : Bool := false
  help : Bool := false
  words : List String := []
  deriving DecidableEq, Repr

/-- The options of the command. -/
inductive Flag where
  | config
  | force
  | noCrud
  | verbose
  | help
  deriving DecidableEq, Repr

def Flag.ofLong? : String → Option Flag
  | "--config" => some .config
  | "--force" => some .force
  | "--no-crud" => some .noCrud
  | "--verbose" => some .verbose
  | "--help" => some .help
  | _ => none

def Flag.ofShort? : Char → Option Flag
  | 'c' => some .config
  | 'f' => some .force
  | 'v' => some .verbose
  | _ => none

/-- Sets an option that has no value. -/
def Arguments.raise (arguments : Arguments) : Flag → Arguments
  | .config => arguments
  | .force => { arguments with force := true }
  | .noCrud => { arguments with noCrud := true }
  | .verbose => { arguments with verbose := true }
  | .help => { arguments with help := true }

/-- What a word does to the arguments read so far. -/
inductive WordEffect where
  | done (arguments : Arguments)
  /-- The next word is the value of an option. -/
  | awaitsConfig (arguments : Arguments)
  | wrong
  deriving DecidableEq, Repr

/-- A word of joined short options. The rest of the word after an option that has a value is that
value. -/
def readShort (arguments : Arguments) : List Char → WordEffect
  | [] => .done arguments
  | c :: rest =>
    match Flag.ofShort? c with
    | none => .wrong
    | some .config =>
      if rest.isEmpty then .awaitsConfig arguments
      else .done { arguments with config := some (String.ofList rest) }
    | some flag => readShort (arguments.raise flag) rest

/-- A word that begins with two hyphens, split at its first equals sign. -/
def readLong (arguments : Arguments) (word : List Char) : WordEffect :=
  let name := String.ofList (word.takeWhile (· ≠ '='))
  let value := match word.dropWhile (· ≠ '=') with
    | [] => none
    | _ :: rest => some (String.ofList rest)
  match Flag.ofLong? name, value with
  | none, _ => .wrong
  | some .config, some value => .done { arguments with config := some value }
  | some .config, none => .awaitsConfig arguments
  | some flag, none => .done (arguments.raise flag)
  | some _, some _ => .wrong

/-- One word of a command line. A single hyphen is no option. -/
def readWord (arguments : Arguments) (word : String) : WordEffect :=
  match word.toList with
  | '-' :: '-' :: _ => readLong arguments word.toList
  | '-' :: c :: rest => readShort arguments (c :: rest)
  | _ => .done { arguments with words := arguments.words ++ [word] }

/-- The words of a command line, after the ones already read. -/
def readWords (arguments : Arguments) : List String → Option Arguments
  | [] => some arguments
  | "--" :: rest => some { arguments with words := arguments.words ++ rest }
  | word :: rest =>
    match readWord arguments word, rest with
    | .done arguments, rest => readWords arguments rest
    | .awaitsConfig arguments, value :: rest =>
      readWords { arguments with config := some value } rest
    | .awaitsConfig _, [] => none
    | .wrong, _ => none

/-- A request to run the command. -/
structure Invocation where
  /-- The absolute path of the settings file. -/
  config : Option String
  force : Bool
  noCrud : Bool
  verbose : Bool
  pattern : String
  /-- The absolute path of the output directory. -/
  output : String
  deriving DecidableEq, Repr

/-- What a command line asks for. -/
inductive Request where
  | invoke (invocation : Invocation)
  | help
  | wrong
  /-- A path of the command line cannot be looked at. -/
  | failed (error : FileError)
  deriving DecidableEq, Repr

/-- The absolute path that a text leads to when double dots are taken back. -/
def absolute (tree : FileTree) (text : String) : String :=
  let before := if Path.rootOf text = "" then tree.workingDirectory else []
  "/" ++ "/".intercalate (Path.withoutDots before (Path.components text))

/-- The absolute path of a word that is a path, and what is there. -/
def resolve (tree : FileTree) (text : String) :
    Except Request (String × Except FileFault FileEntry) :=
  if hasNull text then .error (.failed ⟨.nullByte, text⟩)
  else
    let path := absolute tree text
    .ok (path, tree.entryAt (Path.ofText path))

/-- A settings file has to exist. -/
def settingsPath (tree : FileTree) (text : String) : Except Request String := do
  match ← resolve tree text with
  | (path, .ok _) => return path
  | (_, .error _) => throw .wrong

/-- The output directory may be missing, but may not be a file. -/
def outputDirectory (tree : FileTree) (text : String) : Except Request String := do
  match ← resolve tree text with
  | (_, .ok (.file _)) => throw .wrong
  | (path, _) => return path

/-- The invocation that arguments describe. Options are looked at before the other words, and words
too many come last. -/
def Invocation.ofArguments (tree : FileTree) (arguments : Arguments) :
    Except Request Invocation := do
  let config ← match arguments.config with
    | none => pure none
    | some text => do pure (some (← settingsPath tree text))
  match arguments.words with
  | pattern :: directory :: extra =>
    let output ← outputDirectory tree directory
    if extra ≠ [] then throw .wrong
    return {
      config
      force := arguments.force
      noCrud := arguments.noCrud
      verbose := arguments.verbose
      pattern
      output }
  | _ => throw .wrong

/-- What the words of a command line ask for. -/
def Request.ofWords (tree : FileTree) (words : List String) : Request :=
  match readWords {} words with
  | none => .wrong
  | some arguments =>
    if arguments.help then .help
    else match Invocation.ofArguments tree arguments with
      | .ok invocation => .invoke invocation
      | .error request => request

end Command

end SchemaLowering
