import SchemaLowering.Batch
import SchemaLowering.Command.Arguments
import SchemaLowering.Text.ControlSequence

/-!
The command: reads settings, runs a batch and reports on it.
-/

namespace SchemaLowering

namespace Command

/-- The name under which the program writes of itself. -/
def programName : String := "type_graph_to_graphql"

def version : String := "1.0.0"

/-- A value of the command line, shortened to its last component when it is a path that exists. -/
def shownValue (tree : FileTree) (value : String) : Except FileError String := do
  let path := Path.ofText value
  return if ← tree.holds path then path.name else value

/-- The command line of an invocation, arguments before options. Empty values are left out. -/
def commandLine (invocation : Invocation) (tree : FileTree) : Except FileError String := do
  let config ← match invocation.config with
    | some path => do pure ["--config", ← shownValue tree path]
    | none => pure []
  let words ← ([invocation.pattern, invocation.output].filter (· ≠ "")).mapM (shownValue tree)
  let flags :=
    (if invocation.force then ["--force"] else [])
      ++ (if invocation.noCrud then ["--no-crud"] else [])
      ++ (if invocation.verbose then ["--verbose"] else [])
  return " ".intercalate (programName :: words ++ config ++ flags)

/-- The comment before a schema. -/
def generationComment (line : String) : String :=
  "# Generated by " ++ programName ++ " v" ++ version ++ " : " ++ line

/-- Turns on overwriting. -/
def forceOutput (options : Options) : Except Misuse Options := do
  let output ← options.outputOptions
  return { options with output := .options { output with mode := .force } }

/-- The options of an invocation: the settings file, changed by the flags. -/
def readOptions (tree : FileTree) (invocation : Invocation) : Except Failure Options := do
  let options ← match invocation.config with
    | none => pure {}
    | some path => do
      let document ← Batch.readDocument tree path
      (Options.ofJson document).mapError .settings
  let options ←
    if invocation.force then (forceOutput options).mapError .misuse else pure options
  return if invocation.noCrud then { options with crud := .bool false } else options

/-- What a command did: the files after it, its exit code, and what it wrote. -/
structure Outcome where
  tree : FileTree
  exitCode : Nat
  standardOutput : String := ""
  standardError : String := ""
  /-- A failure that ended the command. -/
  failure : Option Failure := none

/-- The lines of the log that are shown. -/
def shownLog (verbose : Bool) (log : List LogLine) : String :=
  String.join ((log.filter fun line => verbose || line.level ≠ .debug).map (·.text ++ "\n"))

/-- The report on a failed source, without the control sequences in names and texts. -/
def failureLine? (result : Batch.UnitResult) : Option String :=
  match result.status with
  | .failed _ failure =>
    let report := "Failed: " ++ result.source.text ++ ": " ++ failure.message
    some (Text.withoutControls report ++ "\n")
  | _ => none

/-- The report on a batch. -/
def summary (results : List Batch.UnitResult) : String :=
  let generated := (results.filter (·.isGenerated)).length
  let failed := (results.filter (·.isFailed)).length
  toString generated ++ " schema(s) generated, " ++ toString failed ++ " failed, "
    ++ toString (results.length - generated - failed) ++ " skipped\n"

/-- Runs an invocation. -/
def invoke (tree : FileTree) (invocation : Invocation) : Outcome :=
  match readOptions tree invocation with
  | .error failure => { tree, exitCode := 1, failure := some failure }
  | .ok options =>
    let header := fun files => (commandLine invocation files).map generationComment
    let stage := Batch.run ⟨options, some header⟩ tree invocation.pattern
      (Path.ofText invocation.output)
    let log := shownLog invocation.verbose stage.log
    match stage.result with
    | .error failure =>
      { tree := stage.tree, exitCode := 1, standardError := log, failure := some failure }
    | .ok results =>
      { tree := stage.tree
        exitCode := if results.any (·.isFailed) then 1 else 0
        standardOutput := summary results
        standardError := log ++ String.join (results.filterMap failureLine?) }

/-- How to call the command. -/
def usage : String :=
  "Usage: " ++ programName ++ " [OPTIONS] PATTERN OUTPUT\n"

def helpText : String :=
  usage ++ "\n"
    ++ "  Emit a GraphQL schema for every type graph file matching PATTERN into OUTPUT.\n\n"
    ++ "Options:\n"
    ++ "  -c, --config PATH\n"
    ++ "  -f, --force        Overwrite existing output files\n"
    ++ "  --no-crud          Only emit the declared types, no CRUD inputs or root\n"
    ++ "                     extensions\n"
    ++ "  -v, --verbose      Log every emitted declaration\n"
    ++ "  --help             Show this message and exit.\n"

/-- Runs the command with the given words. A wrong command line does nothing. -/
def run (tree : FileTree) (words : List String) : Outcome :=
  match Request.ofWords tree words with
  | .invoke invocation => invoke tree invocation
  | .help => { tree, exitCode := 0, standardOutput := helpText }
  | .wrong => { tree, exitCode := 2, standardError := usage }
  | .failed error => { tree, exitCode := 1, failure := some (.file error) }

end Command

end SchemaLowering
