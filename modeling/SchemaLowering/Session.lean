import SchemaLowering.Emission

/-!
Single steps on one pass. Every step answers from the names registered so far and may register one
more; a step that fails changes nothing.
-/

namespace SchemaLowering

namespace Session

/-- A pass that is open: its context and the names registered so far. -/
structure State where
  ctx : Context
  tables : Tables

/-- What a step asks for. -/
inductive Step where
  /-- Declares a symbol of the graph under a name. -/
  | declare (symbol name : String)
  /-- Declares a shape that may stand outside the graph. -/
  | declareNode (node : Option Node) (name : String)
  | declareUnion (node : Option Node) (name : String)
  | lower (node : Option Node)
  | filters (node : Option Node) (field : String)
  /-- One derived declaration of a symbol. The symbol counts only if the declaration depends on the
  fields. -/
  | artifact (artifact : Crud.Artifact) (symbol : String) (name : String)
  | artifacts (symbol name : String)
  | registerEnum (name : String)
  | registerScalar (name : String)
  | isEnum (name : String)
  | isScalar (name : String)
  | name (symbol : String)
  | resolve (symbol : String)
  /-- A fresh pass over the whole graph, which leaves this one alone. -/
  | emitAll
  /-- Begins the pass again. -/
  | restart

/-- What a step answers. -/
inductive Answer where
  | nothing
  | text (value : String)
  | texts (values : List String)
  | flag (value : Bool)
  deriving DecidableEq, Repr

/-- Opens a pass over a graph. -/
def start (options : Options) (graph : Graph) : Except LoweringError State := do
  let (ctx, tables) ← Context.prepare options graph
  return ⟨ctx, tables⟩

/-- The fields of a symbol that has to be an interface. -/
def fieldsOf (ctx : Context) (symbol : String) : Except LoweringError (List Crud.TypeField) := do
  match ← ctx.graph.resolve symbol with
  | .interface declaration => Crud.fields ctx (some symbol) declaration
  | _ => throw (.misuse .attribute)

/-- Declares a shape and answers with its text. -/
def declare (state : State) (origin : Option String) (node : Node) (name : String) :
    Except LoweringError (Answer × Tables) := do
  let (blocks, tables) ← Emission.declarationBlocks state.ctx state.tables origin node name
  return (.text (Block.renderAll blocks), tables)

/-- The answer of a step that leaves the pass open as it is, with the names registered after it. -/
def answer (state : State) : Step → Except LoweringError (Answer × Tables)
  | .declare symbol name => do
    let node ← state.ctx.graph.resolve symbol
    declare state (some symbol) node name
  | .declareNode none _ => .error (.misuse .attribute)
  | .declareNode (some node) name => declare state none node name
  | .declareUnion (some (.union types)) name => do
    let (block, tables) ← Union.declare state.ctx state.tables types name
    return (.text block.render, tables)
  | .declareUnion _ _ => .error (.misuse .attribute)
  | .lower node => do
    let text ← Expression.lowerOptional state.ctx node
    return (.text text, state.tables)
  | .filters node field => do
    let clauses ← Crud.filterClauses state.ctx state.tables field node
    return (.texts (clauses.map Field.text), state.tables)
  | .artifact artifact symbol name => do
    let fields ← if artifact.needsFields then fieldsOf state.ctx symbol else pure []
    let block ← artifact.block state.ctx state.tables fields name
    return (.text block.render, state.tables)
  | .artifacts symbol name => do
    let fields ← fieldsOf state.ctx symbol
    let blocks ← Crud.Artifact.all.mapM (Crud.Artifact.block state.ctx state.tables fields name)
    return (.texts (blocks.map Block.render), state.tables)
  | .registerEnum name => .ok (.nothing, state.tables.registerEnum state.ctx name)
  | .registerScalar name => .ok (.nothing, state.tables.registerScalar state.ctx name)
  | .isEnum name => .ok (.flag (state.tables.isEnum name), state.tables)
  | .isScalar name => .ok (.flag (state.tables.isScalar name), state.tables)
  | .name symbol => .ok (.text (state.ctx.name symbol), state.tables)
  | .resolve symbol => do
    let node ← state.ctx.graph.resolve symbol
    return (.text node.kind, state.tables)
  | .emitAll => do
    let text ← state.ctx.graph.schema state.ctx.options
    return (.text text, state.tables)
  | .restart => do
    let (_, tables) ← Context.prepare state.ctx.options state.ctx.graph
    return (.nothing, tables)

/-- Takes a step. -/
def step (state : State) (request : Step) : Except LoweringError Answer × State :=
  match answer state request with
  | .ok (result, tables) => (.ok result, { state with tables })
  | .error error => (.error error, state)

/-- Takes steps one after the other: the answer of each, and the pass as it stands after it. -/
def trace : State → List Step → List (Except LoweringError Answer × State)
  | _, [] => []
  | state, request :: rest =>
    let taken := step state request
    taken :: trace taken.2 rest

end Session

end SchemaLowering
