import SchemaLowering.Emission
import SchemaLowering.FileTree.Pattern
import SchemaLowering.FileTree.SchemaFile
import SchemaLowering.TypeGraph.Reader

/-!
Batches: the schema of every type graph file that a pattern matches. A file that fails is reported
and the others are still processed.
-/

namespace SchemaLowering

/-- How much a line of the log matters. -/
inductive LogLevel where
  | debug
  | info
  | error
  deriving DecidableEq, Repr

def LogLevel.text : LogLevel → String
  | .debug => "DEBUG"
  | .info => "INFO"
  | .error => "ERROR"

/-- The parts of the program that log. -/
inductive LogSource where
  | batch
  | loader
  | collapse
  | emission
  deriving DecidableEq, Repr

def LogSource.text : LogSource → String
  | .batch => "type_graph_to_graphql.pipeline.driver"
  | .loader => "type_graph_to_graphql.pipeline.type_graph.loader"
  | .collapse => "type_graph_to_graphql.pipeline.analyzer.preprocessor"
  | .emission => "type_graph_to_graphql.pipeline.emitter.emitter"

/-- A line of the log. -/
structure LogLine where
  level : LogLevel
  source : LogSource
  message : String
  deriving DecidableEq, Repr

def LogLine.text (line : LogLine) : String :=
  line.level.text ++ " " ++ line.source.text ++ ": " ++ line.message

namespace Batch

/-- The document in the file that a text leads to. -/
def readDocument (tree : FileTree) (file : String) : Except Failure Json := do
  let content ← (tree.readFile file).mapError .file
  let text ← content.read.mapError .decode
  (Json.parse text).mapError .document

/-- The type graph that a file holds (`load_type_graph`). -/
def loadGraph (tree : FileTree) (path : Path) : Except Failure Graph :=
  match readDocument tree path.text with
  | .ok document => (Graph.ofJson document).mapError .load
  | .error (.document (.malformed error)) => .error (.load (.malformed path.text error))
  | .error failure => .error failure

/-- The words for shapes that can be declared (`TOP_LEVEL_KINDS`). -/
def declarableKinds : List String :=
  ["alias", "interface", "enum"]

/-- Whether a symbol of a document is declarable, up to the first one (the search of
`found_schema`). The kind of a shape is never a list or an object. -/
def hasDeclarable : List Json → Except Misuse Bool
  | [] => .ok false
  | .obj members :: rest =>
    match Json.field members "type" with
    | .arr _ => .error .operation
    | .obj _ => .error .operation
    | .str kind => if kind ∈ declarableKinds then .ok true else hasDeclarable rest
    | _ => hasDeclarable rest
  | _ :: rest => hasDeclarable rest

/-- Whether the file that a text leads to holds a type graph with something to declare, and the log
of the look at it (`found_schema`). -/
def detect (tree : FileTree) (file : String) : List LogLine × Except Failure Bool :=
  match readDocument tree file with
  | .error failure =>
    if failure.isNoDocument then
      let message := "Not a type graph: " ++ file ++ " (" ++ failure.message ++ ")"
      ([⟨.debug, .loader, message⟩], .ok false)
    else ([], .error failure)
  | .ok (.obj members) => ([], (hasDeclarable (members.map (·.2))).mapError .misuse)
  | .ok _ => ([], .ok false)

/-- What a batch works with. The comment before each schema may depend on the files of the
moment. -/
structure Job where
  options : Options
  header : Option (FileTree → Except FileError String)

/-- Where the schema of a source goes (`output_path`). -/
def outputPath (options : Options) (source directory : Path) : Path :=
  directory.join (source.stem ++ options.suffix.text)

/-- The log of a pass over a graph. -/
def emissionLog (emitted : Emitted) : List LogLine :=
  emitted.collapsed.map (fun (symbol, target) =>
      ⟨.debug, .collapse, "Collapsed alias " ++ symbol ++ " -> " ++ target⟩)
    ++ emitted.begun.map (fun (symbol, node) =>
      ⟨.debug, .emission, "Emitting " ++ node.kind ++ " " ++ symbol⟩)

/-- The schema with the comment before it. -/
def withHeader (job : Job) (tree : FileTree) (schema : String) : Except FileError String :=
  match job.header with
  | some header =>
    if job.options.comment.isTrue then (header tree).map (· ++ "\n" ++ schema) else .ok schema
  | none => .ok schema

/-- The text to be written for a source (`render`). -/
def render (job : Job) (tree : FileTree) (source : Path) : List LogLine × Except Failure String :=
  match loadGraph tree source with
  | .error failure => ([], .error failure)
  | .ok graph =>
    let emitted := graph.emit job.options
    let result := match emitted.failure with
      | some error => .error (.lowering error)
      | none => (withHeader job tree (String.join emitted.pieces)).mapError .file
    (emissionLog emitted, result)

/-- What became of a source (`UnitStatus`, with what a result holds for it). -/
inductive UnitStatus where
  | generated (output : Path)
  | skipped
  | failed (output : Path) (failure : Failure)

structure UnitResult where
  source : Path
  status : UnitStatus

def UnitResult.isFailed (result : UnitResult) : Bool :=
  match result.status with
  | .failed _ _ => true
  | _ => false

def UnitResult.isGenerated (result : UnitResult) : Bool :=
  match result.status with
  | .generated _ => true
  | _ => false

/-- A step of a batch: the files after it, what it logged, and its result. -/
structure Stage (α : Type) where
  tree : FileTree
  log : List LogLine
  result : Except Failure α

/-- Writes the text of a source as the options say (`_write`). -/
def store (job : Job) (tree : FileTree) (output : Path) (text : String) :
    FileTree × Except Failure Unit :=
  match job.options.outputOptions with
  | .error misuse => (tree, .error (.misuse misuse))
  | .ok options => tree.writeSchema options output text

/-- Renders and stores the schema of a source. -/
def produce (job : Job) (tree : FileTree) (source output : Path) : Stage Unit :=
  match render job tree source with
  | (log, .error failure) => ⟨tree, log, .error failure⟩
  | (log, .ok text) =>
    let (tree, result) := store job tree output text
    ⟨tree, log, result⟩

/-- Processes one source (`run_unit`). A failure that concerns this source only becomes its
result. -/
def runUnit (job : Job) (directory : Path) (tree : FileTree) (source : Path) :
    Stage UnitResult :=
  let reading : LogLine := ⟨.info, .batch, "Reading " ++ source.text⟩
  match detect tree source.text with
  | (log, .error failure) => ⟨tree, reading :: log, .error failure⟩
  | (log, .ok false) =>
    let absent : LogLine := ⟨.debug, .batch, "No type graph in " ++ source.text⟩
    ⟨tree, reading :: log ++ [absent], .ok ⟨source, .skipped⟩⟩
  | (log, .ok true) =>
    let output := outputPath job.options source directory
    let stage := produce job tree source output
    let before := reading :: log ++ stage.log
    match stage.result with
    | .ok () =>
      let done : LogLine := ⟨.info, .batch, "Generated " ++ output.text⟩
      ⟨stage.tree, before ++ [done], .ok ⟨source, .generated output⟩⟩
    | .error failure =>
      if failure.isContained then
        let failed : LogLine :=
          ⟨.error, .batch, "Failed to generate " ++ source.text ++ ": " ++ failure.message⟩
        ⟨stage.tree, before ++ [failed], .ok ⟨source, .failed output failure⟩⟩
      else ⟨stage.tree, before, .error failure⟩

/-- Processes sources one after the other, up to a failure that is not contained. -/
def runUnits (job : Job) (directory : Path) (tree : FileTree) :
    List Path → Stage (List UnitResult)
  | [] => ⟨tree, [], .ok []⟩
  | source :: rest =>
    let stage := runUnit job directory tree source
    match stage.result with
    | .error failure => ⟨stage.tree, stage.log, .error failure⟩
    | .ok result =>
      let after := runUnits job directory stage.tree rest
      ⟨after.tree, stage.log ++ after.log, after.result.map (result :: ·)⟩

/-- Processes every file that a pattern matches (`run`). -/
def run (job : Job) (tree : FileTree) (pattern : String) (directory : Path) :
    Stage (List UnitResult) :=
  match tree.discover pattern with
  | .error error => ⟨tree, [], .error (.file error)⟩
  | .ok sources =>
    let stage := runUnits job directory tree sources
    match stage.result with
    | .error failure => ⟨stage.tree, stage.log, .error failure⟩
    | .ok results =>
      let failed := (results.filter (·.isFailed)).length
      let summary : LogLine := ⟨.info, .batch,
        "Processed " ++ toString results.length ++ " file(s), " ++ toString failed ++ " failed"⟩
      ⟨stage.tree, stage.log ++ [summary], .ok results⟩

end Batch

end SchemaLowering
